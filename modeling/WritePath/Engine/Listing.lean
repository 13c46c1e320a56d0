import WritePath.Engine
import WritePath.Moment

/-!
# The engine of lists

Three generations of documents, each a list in the order of the adds: adding never replaces, so an
identifier may occur several times, and deleting removes every occurrence.

What an index takes, by what it finds documents and what it shows of them is for its `Rules` to say.  The plain
ones go by the documents alone: a document is kept in its stored form, which may not hold more than
`Json.nestingLimit` arrays and objects inside one another, it is found by its identifier, and it is shown as it
is.  A text of a body that spells a moment is kept as that moment, so a reader does not find it as a text
(`textFound?`).

The documents that are written together lie in one segment, a file of its own.  Which of them are deleted later
is said by a second file.

The engine may be cut off from the place where it keeps its committed generation.  From then on commits
and refreshes fail, and what was committed and visible before stays as it is.
-/

namespace WritePath

/-! ## Segments -/

/-- The files of a segment, by their names. -/
structure Segment where
  file : String := ""
  /-- The file that says which documents are deleted. -/
  deletions : Option String := none
  deriving DecidableEq, Repr, Inhabited

def Segment.files (s : Segment) : List String :=
  s.file :: s.deletions.toList

/-- A document in its segment. -/
structure Kept where
  document : Document
  segment : Segment := {}
  deriving DecidableEq, Inhabited

namespace Engine

/-! ## Rules -/

namespace Listing

/-- The stored form of the document is not nested too deeply. -/
def accepts (d : Document) : Bool :=
  d.stored.nesting ≤ Json.nestingLimit

/-- What an index does with documents. -/
structure Rules where
  /-- What comes of a document that is added. -/
  receives : Document → Reception := fun d => if accepts d then .taken else .refused
  /-- Deleting an identifier removes the document. -/
  finds : String → Document → Bool := fun id d => d.id == id
  /-- What readers see of a document. -/
  shows : Document → Document := id

instance : Inhabited Rules := ⟨{}⟩

end Listing

/-! ## The lists -/

structure Listing where
  staged : List Kept := []
  committed : List Kept := []
  visible : List Kept := []
  /-- The last stamp that was given. -/
  stamp : Stamp := 0
  rules : Listing.Rules := {}
  /-- The segment for documents that are added. -/
  segment : Segment := {}
  /-- The place of the committed generation is gone. -/
  detached : Bool := false
  deriving Inhabited

namespace Listing

/-- The index whose committed generation was kept from before. -/
def opened (kept : List Kept) (rules : Rules) : Listing :=
  { staged := kept, committed := kept, visible := kept, rules := rules }

/-- The text that a reader finds in a field of the body of a document. -/
def textFound? (d : Document) (name : String) : Option String :=
  ((d.field? name).bind Json.Value.text?).filter (fun s => !Moment.isMoment s)

def shown (l : Listing) : List Document :=
  l.visible.map (fun k => l.rules.shows k.document)

/-- The failure of adding a document that the engine cannot hold. -/
def refused (d : Document) : Failure :=
  .engine ("Invalid document '" ++ d.id ++ "'")
    (some "the stored form is nested too deeply, or does not fit the fields")

/-- What the engine says when it has been cut off. -/
def cutOff : String :=
  "the directory of the index is gone"

/-- The failure of a commit without a place for it. -/
def commitFault : Failure :=
  .engine "Failed to commit index" (some cutOff)

/-- The failure of a refresh without a place to read. -/
def refreshFault : Failure :=
  .engine "Failed to reload index reader" (some cutOff)

def stamped (l : Listing) : Except Failure Stamp × Listing :=
  (.ok (l.stamp + 1), { l with stamp := l.stamp + 1 })

/-- Appends a document. -/
def add (d : Document) : Call Listing Stamp := fun l =>
  match l.rules.receives d with
  | .taken => stamped { l with staged := l.staged ++ [⟨d, l.segment⟩] }
  | .refused | .fatal => (.error (refused d), l)

/-- The documents that deleting an identifier leaves. -/
def without (finds : String → Document → Bool) (id : String) (docs : List Kept) : List Kept :=
  docs.filter (fun k => !finds id k.document)

def delete (id : String) : Call Listing Stamp := fun l =>
  stamped { l with staged := without l.rules.finds id l.staged }

def deleteAll : Call Listing Stamp := fun l =>
  stamped { l with staged := [] }

/-- Copies the staged generation to the committed one. -/
def commit : Call Listing Stamp := fun l =>
  if l.detached then (.error commitFault, l) else stamped { l with committed := l.staged }

/-- Copies the committed generation to the visible one. -/
def refresh : Call Listing Unit := fun l =>
  if l.detached then (.error refreshFault, l) else (.ok (), { l with visible := l.committed })

/-- What was staged and not committed is lost. -/
def close : Call Listing Unit := fun l =>
  (.ok (), { l with staged := l.committed })

instance : Engine Listing where
  add := add
  delete := delete
  deleteAll := deleteAll
  commit := commit
  refresh := refresh
  close := close

instance : Searchable Listing where
  receives l := l.rules.receives
  shown := shown

end Listing

end Engine

end WritePath
