import WritePath.Engine
import WritePath.Log

/-!
# Works

A work is one change of an index, or a marker that changes nothing.  Adding, updating and deleting a
document are *changes*; as part of a changeset a change is `silent`: it has the same effect and the same
failures but no stamp to answer.  Purging removes everything.  The two markers exist for the strategies
of the workset that holds them.

An update is a delete followed by an add.  If the add is refused the delete has been staged: an update
can fail and still have had an effect.
-/

namespace WritePath

namespace Call

def map {σ α β : Type} (f : α → β) (call : Call σ α) : Call σ β := fun s =>
  let (result, s) := call s
  (result.map f, s)

/-- One call after another, unless the first one fails. -/
def andThen {σ α β : Type} (first : Call σ α) (second : α → Call σ β) : Call σ β := fun s =>
  match first s with
  | (.ok a, s) => second a s
  | (.error e, s) => (.error e, s)

def done {σ α : Type} (a : α) : Call σ α := fun s => (.ok a, s)

end Call

inductive Change where
  | add (d : Document)
  /-- Replaces every document with the identifier of `d`. -/
  | update (d : Document)
  | delete (id : String)
  deriving DecidableEq

namespace Change

def label : Change → WorkLabel
  | .add d => ⟨"add document '" ++ d.id ++ "'"⟩
  | .update d => ⟨"update document '" ++ d.id ++ "'"⟩
  | .delete id => ⟨"delete document '" ++ id ++ "'"⟩

variable {ε : Type} [Engine ε]

def run : Change → Call ε Stamp
  | .add d => Engine.add d
  | .update d => Call.andThen (Engine.delete d.id) (fun _ => Engine.add d)
  | .delete id => Engine.delete id

end Change

inductive Work where
  | change (c : Change)
  /-- A change whose stamp is not answered. -/
  | silent (c : Change)
  /-- Removes every document. -/
  | purge
  /-- Changes nothing; its workset forces a commit. -/
  | flush
  /-- Changes nothing; its workset forces a refresh. -/
  | refresh
  deriving DecidableEq

inductive Output where
  | stamp (n : Stamp)
  | unit
  deriving DecidableEq, Repr

namespace Work

def label : Work → WorkLabel
  | .change c | .silent c => c.label
  | .purge => ⟨"purge index"⟩
  | .flush => ⟨"flush index"⟩
  | .refresh => ⟨"refresh index"⟩

/-- What the log says when a work begins. -/
def notice (index : IndexName) : Work → List Log.Record
  | .purge => [⟨.debug, "Purging " ++ index.label⟩]
  | .change _ | .silent _ | .flush | .refresh => []

variable {ε : Type} [Engine ε]

def run : Work → Call ε Output
  | .change c => Call.map .stamp c.run
  | .silent c => Call.map (fun _ => .unit) c.run
  | .purge => Call.map .stamp Engine.deleteAll
  | .flush => Call.done .unit
  | .refresh => Call.done .unit

end Work

end WritePath
