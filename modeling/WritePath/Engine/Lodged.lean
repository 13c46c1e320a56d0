import WritePath.Disk.Index
import WritePath.Engine.Listing

/-!
# The engine in its lodging

An engine of lists whose index lives in a directory, or in memory.  In memory it is the engine of lists and nothing
else.

In a directory the committed generation is what the mark says there.  A commit writes it, and a refresh shows
what is written, whoever wrote it.  So both need the directory, but it need not be the same one as before: if the
directory was removed and there is a new one at its place, the engine goes on in that one.  Only the files that
were in the old one are gone.

* Documents that were added and not committed lie in a segment that is begun with the first of them.  If its file
  is gone, or if the segment could not be begun at all, the commit fails, the documents are lost, and the engine
  comes to rest: it takes documents, but they go nowhere.
* Committed documents lie in the segments of earlier commits.  After a deletion a commit has to look into them
  all, and fails as long as one of them cannot be read.  A refresh needs all segments that the mark names.
  A file of a segment can be read where it is, and as long as readers have it open.

At the end of a commit the engine removes the files of its list that are no longer needed.  Whatever else it finds
on that list counts as its own.
-/

namespace WritePath.Engine

/-- Where an index lives, and what its engine has begun there. -/
structure Lodging where
  place : Place
  /-- The number of the writer. -/
  writer : Nat
  fields : Fields
  /-- The index knows how to write documents under these fields. -/
  writable : Bool
  /-- Deleting an identifier can remove documents. -/
  looksUp : Bool
  /-- The files that the engine may remove. -/
  removable : List String
  /-- The file of the segment for documents that are added, if it was begun. -/
  begun : Option String := none
  /-- A segment could not be begun. -/
  broken : Bool := false
  /-- The engine has come to rest. -/
  resting : Bool := false
  /-- The segments that the next commit has to look into. -/
  due : List Segment := []
  /-- The files of those of them from which documents were deleted. -/
  pierced : List String := []

/-- An engine of lists in its lodging, with the disk as it sees it. -/
structure Lodged where
  lists : Listing
  lodging : Option Lodging := none
  disk : Disk := {}

namespace Lodging

def placeOf (g : Lodging) (file : String) : Place :=
  Disk.below g.place file

/-- A file of the index can be written: there is the directory, and no other one in its place. -/
def canWrite (g : Lodging) (d : Disk) (file : String) : Bool :=
  d.isDirectory g.place && !d.isDirectory (g.placeOf file)

/-- Puts a new file of the engine into the directory, given what it is for, and its name into the list.  Answers
the name. -/
def newFile? (g : Lodging) (d : Disk) (ending : String) : Option (String × Lodging × Disk) :=
  if g.canWrite d IndexFile.list then
    let (n, d) := d.number
    let name := IndexFile.numbered n ending
    let names := g.removable ++ [name]
    some (name, { g with removable := names },
      (d.writeList g.place names).write (g.placeOf name) .internal)
  else none

/-- Begins a segment for documents that are added. -/
def begin (g : Lodging) (d : Disk) : Lodging × Disk :=
  match if g.writable then g.newFile? d ".store" else none with
  | some (name, g, d) => ({ g with begun := some name }, d)
  | none => ({ g with broken := true }, d)

/-- Makes sure that there is a segment for documents that are added, unless there cannot be one. -/
def prepare (g : Lodging) (d : Disk) : Lodging × Disk :=
  if g.begun.isSome || g.broken || g.resting then (g, d) else g.begin d

/-- The segment that was begun cannot be finished. -/
def hasLost (g : Lodging) (d : Disk) : Bool :=
  g.broken || g.begun.any (fun file => !d.isFile (g.placeOf file))

/-- The document lies in a segment that is finished. -/
def isFinished (g : Lodging) (k : Kept) : Bool :=
  g.begun != some k.segment.file

/-- The files of a segment can be read, given what readers see. -/
def reads (g : Lodging) (d : Disk) (visible : List Kept) (s : Segment) : Bool :=
  s.files.all fun file =>
    d.isFile (g.placeOf file) || visible.any (fun k => k.segment.files.contains file)

/-- Writes which documents of a segment are deleted. -/
def pierce? (g : Lodging) (d : Disk) (staged : List Kept) (file : String) :
    Option (Lodging × Disk × List Kept) := do
  let (name, g, d) ← g.newFile? d ".del"
  let mark (k : Kept) : Kept :=
    if k.segment.file == file then { k with segment.deletions := some name } else k
  return (g, d, staged.map mark)

/-- Looks into the segments that are due, if all of them can be read, and writes which of their documents are
deleted. -/
def lookInto? (g : Lodging) (d : Disk) (staged visible : List Kept) :
    Option (Lodging × Disk × List Kept) :=
  if g.due.all (g.reads d visible) then
    g.pierced.eraseDups.foldlM (fun (g, d, staged) file => g.pierce? d staged file)
      ({ g with due := [], pierced := [] }, d, staged)
  else none

/-- The disk when the lock for readers could be had, if it could. -/
def lockForReading? (g : Lodging) (d : Disk) : Option Disk :=
  if d.isDirectory g.place then d.ensureFile (g.placeOf IndexFile.readerLock) else none

/-- Removes the files of the list that the documents do not need, if the lock for readers can be had. -/
def sweep (g : Lodging) (d : Disk) (kept : List Kept) : Lodging × Disk :=
  match g.lockForReading? d with
  | none => (g, d)
  | some d =>
    let (names, d) := d.sweep g.place (kept.flatMap (·.segment.files)) g.removable
    let isShorter := names.length < g.removable.length
    ({ g with removable := names },
      if isShorter && g.canWrite d IndexFile.list then d.writeList g.place names else d)

/-- The documents that are committed in the directory, if readers can have them, given what they see now. -/
def committed? (g : Lodging) (d : Disk) (visible : List Kept) : Option (List Kept) := do
  let description ← d.mark? g.place
  if description.segments = 0 && description.kept.all (fun k => g.reads d visible k.segment) then
    some description.kept
  else none

/-- Gives the lock for writing back. -/
def release (g : Lodging) (d : Disk) : Disk :=
  d.unlock (g.placeOf IndexFile.writerLock) g.writer

end Lodging

namespace Lodged

/-- The failure of a close that finds the last segment unfinished. -/
def closeFault : Failure :=
  .engine "Failed to stop merging threads" (some Listing.cutOff)

def onLists {α : Type} (call : Call Listing α) : Call Lodged α := fun e =>
  let (result, lists) := call e.lists
  (result, { e with lists := lists })

/-- Adds a document.  One that the rules take is accepted even if it goes nowhere. -/
def add (d : Document) : Call Lodged Stamp := fun e =>
  match e.lodging, e.lists.rules.receives d with
  | some g, .taken =>
    let (g, disk) := g.prepare e.disk
    let e := { e with lodging := some g, disk := disk }
    match g.begun with
    | some file => onLists (Listing.add d) { e with lists.segment := { file := file } }
    | none => onLists Listing.stamped e
  | _, _ => onLists (Listing.add d) e

/-- Notes what a deletion leaves to do for the next commit. -/
def noteDeletion (id : String) (lists : Listing) (g : Lodging) : Lodging :=
  if g.looksUp then
    let finished := lists.staged.filter g.isFinished
    let found := finished.filter (fun k => lists.rules.finds id k.document)
    { g with
      due := g.due ++ finished.map (·.segment)
      pierced := g.pierced ++ found.map (·.segment.file) }
  else g

/-- Deletes documents.  The next commit has to look into all segments that are finished. -/
def delete (id : String) : Call Lodged Stamp := fun e =>
  onLists (Listing.delete id) { e with lodging := e.lodging.map (noteDeletion id e.lists) }

/-- Deletes all documents; there is nothing left to look into. -/
def deleteAll : Call Lodged Stamp := fun e =>
  onLists Listing.deleteAll { e with lodging := e.lodging.map (fun g => { g with due := [], pierced := [] }) }

/-- Cuts the lists off, or not. -/
def cutOff (e : Lodged) (off : Bool) : Lodged :=
  { e with lists.detached := off }

/-- Loses the documents of the segment that was begun, and comes to rest. -/
def lose (e : Lodged) (g : Lodging) : Lodged :=
  { e with
    lists.staged := e.lists.staged.filter g.isFinished
    lodging := some { g with begun := none, broken := false, resting := true } }

def failCommit : Call Lodged Stamp := fun e =>
  onLists Listing.commit (e.cutOff true)

/-- Writes the staged documents into the directory. -/
def publish (g : Lodging) : Call Lodged Stamp := fun e =>
  let (result, e) := onLists Listing.commit (e.cutOff false)
  let kept := e.lists.committed
  let (g, disk) := g.sweep (e.disk.writeMark g.place { fields := g.fields, kept := kept }) kept
  (result, { e with lodging := some g, disk := disk })

/-- Commits, if the documents that were added are there, the segments can be looked into, and the mark can be
written. -/
def commit : Call Lodged Stamp := fun e =>
  match e.lodging with
  | none => onLists Listing.commit e
  | some g =>
    if g.hasLost e.disk then failCommit (e.lose g)
    else
      let g := { g with begun := none }
      match g.lookInto? e.disk e.lists.staged e.lists.visible with
      | none => failCommit { e with lodging := some g }
      | some (g, disk, staged) =>
        let e := { e with lists.staged := staged, lodging := some g, disk := disk }
        if g.canWrite disk IndexFile.mark then publish g e else failCommit e

/-- Shows what is committed in the directory.  What the engine itself committed last stays as it is. -/
def refresh : Call Lodged Unit := fun e =>
  match e.lodging with
  | none => onLists Listing.refresh e
  | some g =>
    match g.lockForReading? e.disk with
    | none => onLists Listing.refresh (e.cutOff true)
    | some disk =>
      let e := { e with disk := disk }
      match g.committed? disk e.lists.visible with
      | none => onLists Listing.refresh (e.cutOff true)
      | some kept =>
        let own := e.lists.committed
        let (result, e) := onLists Listing.refresh ({ e with lists.committed := kept }.cutOff false)
        (result, { e with lists.committed := own })

/-- Gives the lock for writing back, if there is one. -/
def release (e : Lodged) : Lodged :=
  match e.lodging with
  | none => e
  | some g => { e with disk := g.release e.disk }

/-- Closes the engine and gives the lock for writing back, even if the last segment was not finished. -/
def close : Call Lodged Unit := fun e =>
  let lost := e.lodging.any (·.hasLost e.disk)
  let (result, e) := onLists Listing.close e
  (if lost then .error closeFault else result, e.release)

instance : Engine Lodged where
  add := add
  delete := delete
  deleteAll := deleteAll
  commit := commit
  refresh := refresh
  close := close

instance : Searchable Lodged where
  receives e := e.lists.rules.receives
  shown e := e.lists.shown

end Lodged

end WritePath.Engine
