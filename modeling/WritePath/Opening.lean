import WritePath.Engine.Lodged
import WritePath.Log
import WritePath.Schema.Rules
import WritePath.Settings

/-!
# Opening an index

An index lives in memory or in a directory.  A directory that holds an index is opened, any other one
gets a new index, and directories on the way to it are made.  Either way the index must have the two
fields that documents need.  Then it is locked for writing: nobody else may be writing to it, and the buffer
of the writer must be within bounds for each of its threads.  At last a reader is opened, which needs a lock
for a moment, and all segments of the index.

The steps are taken in this order, and the first one that fails is the answer (`Fault`).  What earlier
steps made stays: an index whose writer was refused is there the next time.
-/

namespace WritePath

structure OpenIndex where
  engine : Engine.Lodged
  schema : Schema

def OpenIndex.diagnostic (i : OpenIndex) : String :=
  Text.record "TantivyIndexWriter" [("schema", i.schema.diagnostic)] true

namespace Opening

inductive Fault where
  /-- The directory could not be made. -/
  | noWay (path : String) (e : SystemError)
  /-- The directory is marked as holding an index but does not hold one. -/
  | notAnIndex
  /-- There is something else at the path, or the directory cannot take an index. -/
  | notCreated
  /-- The index lacks a field that documents need. -/
  | lacksFields
  /-- The index cannot be locked for writing, or the buffer is out of bounds. -/
  | noWriter
  /-- The index cannot be locked for reading, or one of its segments is missing. -/
  | noReader
  deriving DecidableEq, Repr

def Fault.failure : Fault → Failure
  | .noWay path e => .io path (.system e)
  | .notAnIndex => .engine "Failed to open index" (some "the directory holds no index that can be read")
  | .notCreated =>
    .engine "Failed to create index" (some "there is no directory at the path that can take an index")
  | .lacksFields =>
    .config ("Index schema lacks the '" ++ Schema.idField ++ "' and '" ++ Schema.bodyField
      ++ "' fields")
  | .noWriter =>
    .engine "Failed to create index writer"
      (some "the index is in use, or the buffer of a thread is out of bounds")
  | .noReader =>
    .engine "Failed to create index reader" (some "the index cannot be locked, or a segment is missing")

/-- The share of the buffer from which on a thread cannot have it: the addresses inside it have 32 bits, and
a margin of a million stays free. -/
def excessiveBuffer : Nat := 4294967295 - 1000000

/-- The engine has a buffer of this size for this number of threads. -/
def hasBuffer (s : Settings) : Bool :=
  let share := s.writerBufferSize.toNat / s.writerThreads.toNat
  Settings.leastBuffer ≤ share && share < excessiveBuffer

/-- What a step answers: its result, the disk afterwards, and log records. -/
abbrev Step (α : Type) := Except Fault α × Disk × List Log.Record

/-- Makes the directory of a path unless there is something already. -/
def makePlace (d : Disk) (path : String) : Except Fault Unit × Disk :=
  if d.holds path then (.ok (), d)
  else
    let (result, d) := d.makeDirectories path
    (result.mapError (Fault.noWay path), d)

structure Found where
  place : Place
  description : Description
  /-- The files that the engine may remove. -/
  removable : List String

def existing (d : Disk) (path : String) : Except Fault Found :=
  match d.locate path with
  | .error _ => .error .notAnIndex
  | .ok place =>
    match d.index? place with
    | some (description, removable) => .ok ⟨place, description, removable⟩
    | none => .error .notAnIndex

def created (d : Disk) (path : String) : Except Fault Found × Disk :=
  match d.locate path with
  | .error _ => (.error .notCreated, d)
  | .ok place =>
    if d.takesIndex place then
      let (removable, d) := d.makeIndexAt place Schema.ownFields
      (.ok ⟨place, { fields := Schema.ownFields }, removable⟩, d)
    else (.error .notCreated, d)

/-- Opens the index in the directory of a path, or makes one. -/
def findOrCreate (d : Disk) (path : String) : Step Found :=
  match makePlace d path with
  | (.error e, d) => (.error e, d, [])
  | (.ok _, d) =>
    if d.isMarked path then
      (existing d path, d, [⟨.debug, "Opening index at " ++ path⟩])
    else
      let (result, d) := created d path
      (result, d, [⟨.info, "Creating index at " ++ path⟩])

def schemaOf (fields : Fields) : Except Fault Schema :=
  match Schema.ofFields? fields with
  | some schema => .ok schema
  | none => .error .lacksFields

/-- Locks the index at a place for writing; answers the number of the writer. -/
def lockForWriting (s : Settings) (d : Disk) (place : Place) : Except Fault Nat × Disk :=
  let file := Disk.below place IndexFile.writerLock
  match d.ensureFile file with
  | none => (.error .noWriter, d)
  | some d =>
    if d.isLocked file || !hasBuffer s then (.error .noWriter, d)
    else
      let (writer, d) := d.number
      (.ok writer, d.lock file writer)

def lodged (schema : Schema) (found : Found) (writer : Nat) (d : Disk) : Engine.Lodged :=
  { lists := .opened found.description.kept schema.rules
    lodging := some
      { place := found.place
        writer := writer
        fields := schema.fields
        writable := schema.isWritable
        looksUp := schema.looksUp
        removable := found.removable }
    disk := d }

/-- Opens a reader on an index: it sees all segments. -/
def openReader (found : Found) (d : Disk) : Except Fault Unit × Disk :=
  match d.ensureFile (Disk.below found.place IndexFile.readerLock) with
  | none => (.error .noReader, d)
  | some d =>
    let isThere (k : Kept) : Bool := k.segment.files.all (fun file => d.isFile (Disk.below found.place file))
    (if found.description.segments = 0 && found.description.kept.all isThere then .ok ()
      else .error .noReader, d)

/-- Begins to write to the index in a directory. -/
def beginWriting (s : Settings) (d : Disk) (found : Found) : Except Fault OpenIndex × Disk :=
  match schemaOf found.description.fields with
  | .error e => (.error e, d)
  | .ok schema =>
    match lockForWriting s d found.place with
    | (.error e, d) => (.error e, d)
    | (.ok writer, d) =>
      match openReader found d with
      | (.error e, d) => (.error e, (lodged schema found writer d).release.disk)
      | (.ok _, d) => (.ok ⟨lodged schema found writer d, schema⟩, d)

def inMemory (s : Settings) : Except Fault OpenIndex :=
  if hasBuffer s then .ok ⟨{ lists := .opened [] Schema.own.rules }, Schema.own⟩ else .error .noWriter

/-- Opens the index that settings describe.  The settings are taken as they are. -/
def run (s : Settings) (d : Disk) : Step OpenIndex :=
  match s.indexPath with
  | none => (inMemory s, d, [])
  | some path =>
    match findOrCreate d path with
    | (.error e, d, log) => (.error e, d, log)
    | (.ok found, d, log) =>
      let (result, d) := beginWriting s d found
      (result, d, log)

end Opening

end WritePath
