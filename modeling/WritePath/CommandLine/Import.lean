import WritePath.CommandLine.Failure
import WritePath.Manager
import WritePath.Text.Blank

/-!
# Indexing a file

A file holds one document a line; blank lines are passed over but counted.  All lines are read before
anything is written, and the first line that is no document is the failure.

The documents are then written as updates, so that reading a file again replaces what it wrote before:
a number of them in each changeset, one changeset after the other, and a flush at the end.  A changeset
that fails is counted and logged, and the next one is submitted all the same.
-/

namespace WritePath

/-- What came of indexing a file. -/
structure Tally where
  documents : Nat := 0
  changesets : Nat := 0
  failedChangesets : Nat := 0
  deriving DecidableEq, Repr

namespace Import

/-- The documents of some lines, the first of which has a number. -/
def ofLines (path : String) : Nat → List String → Except CommandFailure (List Document)
  | _, [] => .ok []
  | number, line :: rest =>
    if Text.isBlank line then ofLines path (number + 1) rest
    else
      match Document.ofLine line with
      | .error e => .error (.invalidDocument path number e.failure)
      | .ok d => (ofLines path (number + 1) rest).map (d :: ·)

def documents (path content : String) : Except CommandFailure (List Document) :=
  ofLines path 1 (Text.lines content)

/-- Cuts a list into parts of a length, the last one of which may be shorter; `fuel` is at least the
length of the list. -/
def cut {α : Type} (length : Nat) : (fuel : Nat) → List α → List (List α)
  | 0, _ => []
  | _, [] => []
  | fuel + 1, l => l.take length :: cut length fuel (l.drop length)

/-- The parts of a list, each of the given length but the last one; the length is at least one. -/
def parts {α : Type} (length : Nat) (l : List α) : List (List α) :=
  cut (max length 1) l.length l

def changeset (documents : List Document) : Workset :=
  ⟨.changeset (documents.map .update), {}⟩

variable {ε : Type} [Searchable ε]

def submitAll (path : String) : List (List Document) → Tally → Manager ε → Tally × Manager ε
  | [], tally, m => (tally, m)
  | part :: rest, tally, m =>
    let (result, m) := m.submit (changeset part)
    let tally := { tally with changesets := tally.changesets + 1 }
    match result with
    | .ok _ => submitAll path rest tally m
    | .error e =>
      let text := "Changeset " ++ toString tally.changesets ++ " of " ++ path ++ " failed: "
        ++ e.message
      submitAll path rest { tally with failedChangesets := tally.failedChangesets + 1 }
        (m.note .warn text)

/-- Indexes the file at a path.  Reading it takes a while, for the worker too. -/
def run (path : String) (batchSize : Nat) (d : Disk) (m : Manager ε) :
    Except CommandFailure Tally × Manager ε :=
  let m := m.pause
  match d.readText path with
  | .error e => (.error (.core (.io path (.system e))), m)
  | .ok content =>
    match documents path content with
    | .error e => (.error e, m)
    | .ok docs =>
      let (tally, m) := submitAll path (parts batchSize docs) { documents := docs.length } m
      match m.submit Workset.flush with
      | (.error e, m) => (.error (.workset e), m)
      | (.ok _, m) =>
        (.ok tally, m.note .info
          ("Indexed " ++ toString tally.documents ++ " document(s) into '" ++ m.name ++ "'"))

example : parts 2 [1, 2, 3, 4, 5] = [[1, 2], [3, 4], [5]] := rfl

example : parts 0 [1, 2] = [[1], [2]] := rfl

end Import

end WritePath
