import WritePath.Disk
import WritePath.Text.Blank

/-!
# The files of an index

An index in a directory is known by its *mark*, a file that describes it.  Beside the mark stand the list of the
files that the engine may remove, and two empty files that are locked while the index is written or read.

An index is made by putting its mark and the list into a directory, and is found again by reading them.  A list
that is there already must be an array of texts; its names stay in it, and the engine takes them for files of its
own: all of them but the mark go with the next commit (`sweep`).

The two files that are locked come later, each when it is first locked.  A directory in the place of one of
them cannot be locked.
-/

namespace WritePath

namespace IndexFile

/-- The file by which a directory with an index is known. -/
def mark : String := "meta.json"

/-- The file with the list of the files that the engine may remove. -/
def list : String := ".managed.json"

/-- The file that is locked by the writer. -/
def writerLock : String := ".tantivy-writer.lock"

/-- The file that is locked while a reader is opened. -/
def readerLock : String := ".tantivy-meta.lock"

/-- The file in which the committed documents are kept beside the mark. -/
def documents : String := "documents.jsonl"

/-- A name in a list leads to the mark: in other words, but along the same names. -/
def isMark (name : String) : Bool :=
  match name.splitOn "/" with
  | first :: rest => first == mark && rest.all (fun n => n == "" || n == ".")
  | [] => false

/-- The name of a file that the engine makes: a number in thirty-two hexadecimal digits, and what the file is
for. -/
def numbered (n : Nat) (ending : String) : String :=
  let digits := Nat.toDigits 16 n
  String.ofList (List.replicate (32 - digits.length) '0' ++ digits) ++ ending

def listOf (names : List String) : String :=
  (Json.Value.array (names.map .string)).compact ++ "\n"

def namesIn? (s : String) : Option (List String) :=
  match Json.Value.read? s with
  | some (.array items) => items.mapM Json.Value.text?
  | _ => none

def linesOf (documents : List Document) : String :=
  String.join (documents.map (fun d => d.text ++ "\n"))

def documentsIn? (s : String) : Option (List Document) :=
  (Text.lines s).mapM Document.read?

end IndexFile

namespace Disk

/-- The directory of a path is marked as holding an index, rightly or not. -/
def isMarked (d : Disk) (path : String) : Bool :=
  d.holds (below path IndexFile.mark)

/-- The names of the removable files of the index in the directory at a place, if the list of them is one or is
missing.  It is read as a text even if it is not one. -/
def removable? (d : Disk) (place : Place) : Option (List String) :=
  match d.node? (below place IndexFile.list) with
  | none => some []
  | some .directory => none
  | some (.file content _) => IndexFile.namesIn? content.shown

def mark? (d : Disk) (place : Place) : Option Description :=
  match d.node? (below place IndexFile.mark) with
  | some (.file (.text s) _) => Description.read? s
  | some (.file (.description description) _) => some description
  | _ => none

/-- The index in the directory at a place: its description and its removable files. -/
def index? (d : Disk) (place : Place) : Option (Description × List String) := do
  let names ← d.removable? place
  let description ← d.mark? place
  if d.isDirectory place then some (description, names) else none

/-- A new index can be made in the directory at a place: it has none, even if its mark could not be seen, and
the files of an index can be reached in it. -/
def takesIndex (d : Disk) (place : Place) : Bool :=
  d.isDirectory place && (d.node? (below place IndexFile.mark)).isNone && (d.removable? place).isSome
    && (below place IndexFile.list).utf8ByteSize < longestPath

def writeList (d : Disk) (place : Place) (names : List String) : Disk :=
  d.write (below place IndexFile.list) (.text (IndexFile.listOf names))

def writeMark (d : Disk) (place : Place) (description : Description) : Disk :=
  d.write (below place IndexFile.mark) (.description description)

/-- Makes an index with some fields in the directory at a place; answers its removable files too. -/
def makeIndexAt (d : Disk) (place : Place) (fields : Fields) : List String × Disk :=
  let names := (d.removable? place).getD []
  let (names, d) :=
    if names.any IndexFile.isMark then (names, d)
    else (names ++ [IndexFile.mark], d.writeList place (names ++ [IndexFile.mark]))
  (names, d.writeMark place { fields := fields })

/-- Makes an index with fields of somebody else's choice, and the directories on the way to it. -/
def makeIndex (d : Disk) (path : String) (fields : Fields) : Disk :=
  let d := (d.makeDirectories path).2
  match d.locate (below path "") with
  | .ok place => if d.takesIndex place then (d.makeIndexAt place fields).2 else d
  | .error _ => d

/-- Removes the removable files of the index in the directory at a place, but for its mark and those that are
needed.  Answers the names of those that are still there. -/
def sweep (d : Disk) (place : Place) (needed names : List String) : List String × Disk :=
  names.foldl
    (fun (left, d) name =>
      if IndexFile.isMark name || needed.contains name then (left ++ [name], d)
      else
        let (gone, d) := d.removeFile place name
        (if gone then left else left ++ [name], d))
    ([], d)

theorem mark?_writeMark (d : Disk) (place : Place) (description : Description) :
    (d.writeMark place description).mark? place = some description := by
  simp [writeMark, mark?, write, node?_put_self]

end Disk

end WritePath
