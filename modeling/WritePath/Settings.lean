import WritePath.Disk
import WritePath.Text.Blank
import WritePath.Toml.Reader

/-!
# Settings of an index

Seven settings, each with a default.  They are read from a settings document or from a JSON value, which
may be an object or the array of the settings in their order; what is left out has its default, and keys
that name no setting are passed over.

A settings file is a settings document on the disk.  A file that cannot be read is a failure of access; one
that can be read but is not accepted is a failure of configuration.

`check` refuses the values the engine would not take.  Its tests come in a fixed order, and the first
one that fails is the answer: the name, the queue, the threads, their product with the least buffer of a
thread, the buffer.
-/

namespace WritePath

structure Settings where
  name : String := "default"
  /-- The directory of the index; without one the index is in memory. -/
  indexPath : Option String := none
  /-- The memory of the writer, in bytes. -/
  writerBufferSize : UInt64 := 50000000
  /-- The threads of the writer. -/
  writerThreads : UInt64 := 1
  /-- How many worksets may be queued. -/
  queueSize : UInt64 := 1000
  /-- The least time between two commits nobody insisted on, in milliseconds. -/
  commitInterval : UInt64 := 0
  /-- The age in milliseconds from which on a reader is reloaded. -/
  refreshInterval : UInt64 := 0
  deriving DecidableEq, Inhabited

namespace Settings

/-- The least buffer of one thread, in bytes. -/
def leastBuffer : Nat := 15000000

/-! ## Checking -/

inductive Flaw where
  /-- The text is no settings document, or a setting has a value of another type. -/
  | unreadable
  | blankName
  | noQueue
  | noThreads
  /-- The least buffer of so many threads is not a number of sixty-four bits. -/
  | tooManyThreads (threads : Nat)
  | smallBuffer (minimum threads : Nat)
  deriving DecidableEq, Repr

def Flaw.message : Flaw → String
  | .unreadable => "Invalid index settings"
  | .blankName => "name must not be empty"
  | .noQueue => "queue_size must be positive"
  | .noThreads => "writer_threads must be positive"
  | .tooManyThreads threads => "writer_threads is too large: " ++ toString threads
  | .smallBuffer minimum threads =>
    "writer_buffer_size must be at least " ++ toString minimum ++ " bytes for " ++ toString threads
      ++ " thread(s)"

def Flaw.failure (f : Flaw) : Failure :=
  .config f.message

/-- Refuses settings the engine would not take. -/
def check (s : Settings) : Except Flaw Unit :=
  let minimum := leastBuffer * s.writerThreads.toNat
  if Text.isBlank s.name then .error .blankName
  else if s.queueSize = 0 then .error .noQueue
  else if s.writerThreads = 0 then .error .noThreads
  else if UInt64.size ≤ minimum then .error (.tooManyThreads s.writerThreads.toNat)
  else if s.writerBufferSize.toNat < minimum then
    .error (.smallBuffer minimum s.writerThreads.toNat)
  else .ok ()

/-! ## Reading -/

/-- A whole number of sixty-four bits without sign. -/
def word? (i : Int) : Option UInt64 :=
  if 0 ≤ i && i < UInt64.size then some (UInt64.ofNat i.toNat) else none

/-- How settings are read from values of a format. -/
structure Source (α : Type) where
  text? : α → Option String
  word? : α → Option UInt64
  /-- A text, or the absence of one where the format can say that. -/
  path? : α → Option (Option String)

def jsonSource : Source Json.Value where
  text? := Json.Value.text?
  word?
    | .int i => Settings.word? i
    | _ => none
  path?
    | .null => some none
    | .string s => some (some s)
    | _ => none

def tomlSource : Source Toml.Value where
  text?
    | .text s => some s
    | _ => none
  word?
    | .integer i => Settings.word? i
    | _ => none
  path?
    | .text s => some (some s)
    | _ => none

variable {α : Type}

/-- The value of a setting that may be left out. -/
def orDefault {β : Type} (read : α → Option β) (default : β) : Option α → Option β
  | none => some default
  | some v => read v

/-- The settings, given what was written for each. -/
def ofParts (source : Source α)
    (name indexPath buffer threads queue commit refresh : Option α) : Option Settings := do
  let base : Settings := {}
  return {
    name := ← orDefault source.text? base.name name
    indexPath := ← orDefault source.path? base.indexPath indexPath
    writerBufferSize := ← orDefault source.word? base.writerBufferSize buffer
    writerThreads := ← orDefault source.word? base.writerThreads threads
    queueSize := ← orDefault source.word? base.queueSize queue
    commitInterval := ← orDefault source.word? base.commitInterval commit
    refreshInterval := ← orDefault source.word? base.refreshInterval refresh }

/-- The settings under their keys. -/
def ofFields (source : Source α) (fields : Keyed α) : Option Settings :=
  let at? (key : String) := Keyed.get? key fields
  ofParts source (at? "name") (at? "index_path") (at? "writer_buffer_size") (at? "writer_threads")
    (at? "queue_size") (at? "commit_interval_ms") (at? "refresh_interval_ms")

def ofItems (source : Source α) (items : List α) : Option Settings :=
  if items.length ≤ 7 then
    ofParts source items[0]? items[1]? items[2]? items[3]? items[4]? items[5]? items[6]?
  else none

/-- The settings that a JSON value spells.  They are not checked. -/
def ofJson? : Json.Value → Option Settings
  | .object members => ofFields jsonSource members
  | .array items => ofItems jsonSource items
  | .null | .bool _ | .int _ | .float _ | .string _ => none

/-- The settings that a settings document spells, checked. -/
def ofText (s : String) : Except Flaw Settings :=
  match (Toml.Entries.read? s).bind (ofFields tomlSource) with
  | none => .error .unreadable
  | some settings => settings.check.map (fun _ => settings)

/-- The settings that a file spells, checked. -/
def load (d : Disk) (path : String) : Except Failure Settings :=
  match d.readText path with
  | .error e => .error (.io path (.system e))
  | .ok content => (ofText content).mapError Flaw.failure

example : (check { writerBufferSize := 18446744073709551615, writerThreads := 1229782938247 }).toOption
    = some () := by decide +kernel

example : (ofText "queue_size = 0x10 # c\n[name]\nqueue_size = 2").toOption = none := by decide +kernel

end Settings

end WritePath
