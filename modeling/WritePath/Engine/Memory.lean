import WritePath.Engine

/-!
# The engine in memory

Three generations of documents, each a keyed list: a document that is added replaces the one with its
identifier.  The engine writes a log of its successful calls and numbers the changes and commits among
them; any call can be told to fail.

A failed call leaves the generations, the log and the numbering alone.  Two failures use up something
else: a failed commit counts down the number of commits that are to fail, and a failed close closes the
engine all the same.
-/

namespace WritePath.Engine

/-- A successful call. -/
inductive Event where
  | add (id : String)
  | delete (id : String)
  | deleteAll
  | commit
  | refresh
  | close
  deriving DecidableEq, Repr

/-- Which calls are told to fail. -/
structure Faults where
  /-- Adding or deleting a document with one of these identifiers fails. -/
  documents : List String := []
  /-- How many commits from now on fail. -/
  commits : Nat := 0
  refresh : Bool := false
  close : Bool := false
  deriving DecidableEq, Repr

structure Memory where
  staged : Keyed Document := []
  committed : Keyed Document := []
  visible : Keyed Document := []
  /-- The last stamp that was given. -/
  stamp : Stamp := 0
  events : List Event := []
  faults : Faults := {}
  closed : Bool := false
  deriving DecidableEq, Inhabited

namespace Memory

def injected (what : String) : Failure :=
  .engine ("Injected " ++ what) none

/-- The failure of adding or deleting a document that was told to fail. -/
def documentFault (id : String) : Failure :=
  injected ("failure for document '" ++ id ++ "'")

def closedFault : Failure :=
  .illegalState "In-memory writer is closed"

def whileOpen {α : Type} (call : Call Memory α) : Call Memory α := fun m =>
  if m.closed then (.error closedFault, m) else call m

def stamped (m : Memory) (event : Event) : Except Failure Stamp × Memory :=
  (.ok (m.stamp + 1), { m with stamp := m.stamp + 1, events := m.events ++ [event] })

/-- Stages a document in place of the one with its identifier. -/
def add (d : Document) : Call Memory Stamp := whileOpen fun m =>
  if m.faults.documents.contains d.id then (.error (documentFault d.id), m)
  else stamped { m with staged := Keyed.insert d.id d m.staged } (.add d.id)

/-- Stages a deletion; it is no failure if there is nothing to delete. -/
def delete (id : String) : Call Memory Stamp := whileOpen fun m =>
  if m.faults.documents.contains id then (.error (documentFault id), m)
  else stamped { m with staged := Keyed.erase id m.staged } (.delete id)

def deleteAll : Call Memory Stamp := whileOpen fun m =>
  stamped { m with staged := [] } .deleteAll

def commit : Call Memory Stamp := whileOpen fun m =>
  match m.faults.commits with
  | n + 1 => (.error (injected "commit failure"), { m with faults.commits := n })
  | 0 => stamped { m with committed := m.staged } .commit

def refresh : Call Memory Unit := whileOpen fun m =>
  if m.faults.refresh then (.error (injected "refresh failure"), m)
  else (.ok (), { m with visible := m.committed, events := m.events ++ [.refresh] })

/-- Closes the engine; what was staged and not committed is lost. -/
def close : Call Memory Unit := whileOpen fun m =>
  if m.faults.close then (.error (injected "close failure"), { m with closed := true })
  else
    (.ok (), { m with closed := true, staged := m.committed, events := m.events ++ [.close] })

instance : Engine Memory where
  add := add
  delete := delete
  deleteAll := deleteAll
  commit := commit
  refresh := refresh
  close := close

/-- Tells adds and deletes of one identifier to fail. -/
def failDocument (m : Memory) (id : String) : Memory :=
  { m with faults.documents := id :: m.faults.documents }

def failCommits (m : Memory) (count : Nat) : Memory :=
  { m with faults.commits := count }

def failRefresh (m : Memory) (on : Bool) : Memory :=
  { m with faults.refresh := on }

def failClose (m : Memory) (on : Bool) : Memory :=
  { m with faults.close := on }

def commitCount (m : Memory) : Nat :=
  m.events.count .commit

def refreshCount (m : Memory) : Nat :=
  m.events.count .refresh

end Memory

end WritePath.Engine
