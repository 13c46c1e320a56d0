import WritePath.CommandLine.Program

/-!
# The outer layer of the program

Copies what a run needs from the real disk, runs the program on the copy, and writes back what the run
changed.  The documents that a description knows are kept beside it, in a file of their own.
-/

namespace WritePath.Outer

/-- The paths on the way to a path, the nearest to the top first, and the path itself. -/
def stations (path : String) : List String :=
  let names := path.splitOn "/"
  (List.range names.length).map (fun n => "/".intercalate (names.take (n + 1)))

def copyOne (d : Disk) (path : String) : IO Disk := do
  try
    let bytes ← IO.FS.readBinFile path
    return d.putFile path (FileContent.ofBytes bytes)
  catch e =>
    match e with
    | .inappropriateType _ 21 _ => return (d.makeDirectories path).2
    | _ => return d

/-- Copies what is at a path and on the way to it. -/
def copy (d : Disk) (path : String) : IO Disk :=
  (stations path).foldlM (fun d p => if p.isEmpty then pure d else copyOne d p) d

/-- Copies the files that the engine of the index in the directory of a path may remove. -/
def copyRemovable (d : Disk) (path : String) : IO Disk :=
  match (d.locate path).toOption.bind d.removable? with
  | some names =>
    names.foldlM
      (fun d name => copyOne d (if name.startsWith "/" then name else Disk.below path name)) d
  | none => return d

/-- Copies the index in the directory of a path, if there is one.  If its documents cannot be read, its mark
is spoiled, so that it cannot be opened. -/
def copyIndex (d : Disk) (path : String) : IO Disk := do
  let d ← copy d path
  let files := [IndexFile.mark, IndexFile.list, IndexFile.writerLock, IndexFile.readerLock]
  let d ← files.foldlM (fun d name => copyOne d (Disk.below path name)) d
  let d ← copyRemovable d path
  let kept := Disk.below path IndexFile.documents
  let loaded ← copyOne d kept
  if !(d.isMarked path && loaded.holds kept) then return d
  let documents := (loaded.readText kept).toOption.bind IndexFile.documentsIn?
  match d.locate path with
  | .ok place =>
    match documents, d.mark? place with
    | some documents, some description =>
      let d ← copyOne d kept
      let inFile (document : Document) : Kept := ⟨document, { file := IndexFile.documents }⟩
      return d.writeMark place { description with kept := documents.map inFile }
    | _, _ => return d.write (Disk.below place IndexFile.mark) (.raw "")
  | .error _ => return d

/-- Writes a file, and the documents beside a description.  What the engine keeps for itself is not written: it
is in the documents. -/
def writeFile (place : Place) (content : FileContent) : IO Unit := do
  match content with
  | .description description =>
    IO.FS.writeFile place content.shown
    IO.FS.writeFile (Disk.below (Disk.parent place) IndexFile.documents)
      (IndexFile.linesOf (description.kept.map (·.document)))
  | .text _ | .raw _ => IO.FS.writeFile place content.shown
  | .internal => return

/-- Writes what a run changed of the node at a place. -/
def writeNode (before after : Disk) (place : Place) : IO Unit := do
  match before.node? place, after.node? place with
  | some (.file _ _), none => IO.FS.removeFile place
  | none, some .directory => IO.FS.createDirAll place
  | was, some (.file content _) =>
    match was with
    | some (.file old _) => if old != content then writeFile place content
    | some .directory | none => writeFile place content
  | _, _ => return

/-- Writes what a run changed.  Directories come before what is in them. -/
def writeBack (before after : Disk) : IO Unit := do
  let places := (before.nodes ++ after.nodes).map (·.1)
  for place in (places.eraseDups.mergeSort (fun a b => a.length ≤ b.length)) do
    writeNode before after place

/-- Copies all that a run with these arguments reads. -/
def prepare (surroundings : Option String) (args : List String) : IO Disk := do
  match Arguments.read surroundings args with
  | .error _ => return {}
  | .ok arguments =>
    let d ← match arguments.config with
      | some path => copy {} path
      | none => pure {}
    let d ← match arguments.command with
      | .index file _ => copy d file
      | .purge | .count => pure d
    match Run.settings arguments.config d with
    | .ok { indexPath := some path, .. } => copyIndex d path
    | .ok _ | .error _ => return d

end WritePath.Outer

open WritePath in
def main (args : List String) : IO UInt32 := do
  let surroundings ← IO.getEnv "QUARRY_CONFIG"
  let d ← Outer.prepare surroundings args
  let run := Run.ofArguments surroundings args d
  for record in Log.upTo .info run.log do
    IO.eprintln (record.level.word ++ " " ++ record.text)
  IO.print run.output
  IO.eprint run.errorOutput
  Outer.writeBack d run.disk
  return run.exitCode.toUInt32
