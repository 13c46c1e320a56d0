import WritePath.Keyed

/-!
# Arguments of the program

The program takes one option, the settings file, and a command with arguments of its own:

    [-c PATH] index FILE [--batch-size N]
    [-c PATH] purge
    [-c PATH] count

Both levels, the program and a command, are read in the same way (`Level`): a level has at most one option
with a value, may take a file, and may have commands below it.  Arguments are read from left to right.  The value
of an option or a file is *pending* until the next one begins or the level ends, and is checked only then;
so of two mistakes the one that is met first need not be the one that stands first.

A command is read to its end before what is pending in front of it is checked.
-/

namespace WritePath

/-- Why arguments were not understood, or that help is wanted. -/
inductive Usage where
  | displayHelp
  | displayHelpOnMissingArgumentOrSubcommand
  | unknownArgument
  | invalidSubcommand
  | missingSubcommand
  /-- A value is missing or empty. -/
  | invalidValue
  /-- A value has not the form it needs. -/
  | valueValidation
  /-- An option stands twice. -/
  | argumentConflict
  /-- A value stands with an option that takes none. -/
  | tooManyValues
  | missingRequiredArgument
  deriving DecidableEq, Repr

def Usage.name : Usage → String
  | .displayHelp => "DisplayHelp"
  | .displayHelpOnMissingArgumentOrSubcommand => "DisplayHelpOnMissingArgumentOrSubcommand"
  | .unknownArgument => "UnknownArgument"
  | .invalidSubcommand => "InvalidSubcommand"
  | .missingSubcommand => "MissingSubcommand"
  | .invalidValue => "InvalidValue"
  | .valueValidation => "ValueValidation"
  | .argumentConflict => "ArgumentConflict"
  | .tooManyValues => "TooManyValues"
  | .missingRequiredArgument => "MissingRequiredArgument"

inductive Command where
  /-- Write the documents of a file, so many in one changeset. -/
  | index (file : String) (batchSize : Nat)
  | purge
  | count
  deriving DecidableEq, Repr

structure Arguments where
  config : Option String
  command : Command
  deriving DecidableEq, Repr

namespace Arguments

/-- How many documents go into one changeset if nothing else is said. -/
def defaultBatchSize : Nat := 500

/-! ## Values -/

/-- A path is any text but the empty one. -/
def checkPath (s : String) : Except Usage Unit :=
  if s = "" then .error .invalidValue else .ok ()

/-- A number of sixty-four bits without sign; a plus may stand in front. -/
def size? (s : String) : Option Nat :=
  let digits := match s.toList with
    | '+' :: rest => rest
    | cs => cs
  if !digits.isEmpty && digits.all Char.isDigit then
    let n := Nat.ofDigitChars 10 digits 0
    if n < UInt64.size then some n else none
  else none

def checkSize (s : String) : Except Usage Unit :=
  if (size? s).isSome then .ok () else .error .valueValidation

/-! ## One level -/

structure ValueOption where
  long : String
  short : Option Char
  check : String → Except Usage Unit

/-- What may stand at one level. -/
structure Level where
  option : Option ValueOption
  takesFile : Bool
  commands : List String

inductive Pending where
  | nothing
  /-- The option has begun; its value may still be to come. -/
  | option (value : Option String)
  | file (path : String)
  deriving DecidableEq

/-- What was read of a level so far. -/
structure Progress where
  option : Option String := none
  file : Option String := none
  pending : Pending := .nothing
  /-- A file has been read, checked or not. -/
  hasFile : Bool := false
  /-- Two strokes alone have been read: no options and no commands any more. -/
  trailing : Bool := false
  deriving DecidableEq

namespace Progress

/-- The next argument is the value of the option. -/
def awaits (p : Progress) : Bool :=
  p.pending == .option none

def setOption (l : Level) (value : String) (p : Progress) : Except Usage Progress :=
  match l.option with
  | none => .error .unknownArgument
  | some o =>
    if p.option.isSome then .error .argumentConflict
    else (o.check value).map (fun _ => { p with option := some value, pending := .nothing })

def resolve (l : Level) (p : Progress) : Except Usage Progress :=
  match p.pending with
  | .nothing => .ok p
  | .option none => .error .invalidValue
  | .option (some value) => p.setOption l value
  | .file path =>
    (checkPath path).map (fun _ => { p with file := some path, pending := .nothing })

def beginOption (l : Level) (value : Option String) (p : Progress) : Except Usage Progress := do
  let p ← p.resolve l
  match value with
  | some value => p.setOption l value
  | none => return { p with pending := .option none }

/-- Help is wanted; what is pending is checked before. -/
def help (l : Level) (p : Progress) : Except Usage Progress := do
  let _ ← p.resolve l
  throw .displayHelp

/-- Reads `--name` or `--name=value`. -/
def readLong (l : Level) (name : List Char) (value : Option String) (p : Progress) :
    Except Usage Progress :=
  let name := String.ofList name
  if l.option.any (·.long == name) then p.beginOption l value
  else if name = "help" then
    match value with
    | none => p.help l
    | some _ => .error .tooManyValues
  else .error .unknownArgument

def readShort (l : Level) (letter : Char) (rest : List Char) (p : Progress) :
    Except Usage Progress :=
  if l.option.any (·.short == some letter) then
    match rest with
    | [] => p.beginOption l none
    | '=' :: value => p.beginOption l (some (String.ofList value))
    | value => p.beginOption l (some (String.ofList value))
  else if letter = 'h' then p.help l
  else .error .unknownArgument

/-- Reads an argument that is no option and no command. -/
def readPlain (l : Level) (arg : String) (p : Progress) : Except Usage Progress :=
  if p.awaits && !p.trailing then .ok { p with pending := .option (some arg) }
  else if l.takesFile && !p.hasFile then
    (p.resolve l).map (fun p => { p with pending := .file arg, hasFile := true })
  else if l.commands.isEmpty then .error .unknownArgument
  else if p.trailing && l.commands.contains arg then .error .unknownArgument
  else .error .invalidSubcommand

def readArgument (l : Level) (arg : String) (p : Progress) : Except Usage Progress :=
  if p.trailing then p.readPlain l arg
  else match arg.toList with
    | ['-', '-'] => .ok { p with trailing := true }
    | '-' :: '-' :: rest =>
      match rest.dropWhile (· != '=') with
      | [] => p.readLong l rest none
      | _ :: value => p.readLong l (rest.takeWhile (· != '=')) (some (String.ofList value))
    | '-' :: letter :: rest => p.readShort l letter rest
    | _ => p.readPlain l arg

end Progress

/-- Reads the arguments of a level up to a command or to the end.  Answers what was read, and the command
with the arguments after it. -/
def readLevel (l : Level) : Progress → List String →
    Except Usage (Progress × Option (String × List String))
  | p, [] => .ok (p, none)
  | p, arg :: rest =>
    if !p.trailing && !p.awaits && l.commands.contains arg then .ok (p, some (arg, rest))
    else
      match p.readArgument l arg with
      | .ok p => readLevel l p rest
      | .error e => .error e

/-! ## The two levels -/

def commandNames : List String := ["index", "purge", "count"]

def topLevel : Level where
  option := some ⟨"config", some 'c', checkPath⟩
  takesFile := false
  commands := commandNames ++ ["help"]

/-- The level of the command that indexes a file. -/
def indexLevel : Level where
  option := some ⟨"batch-size", none, checkSize⟩
  takesFile := true
  commands := []

/-- The level of a command without arguments. -/
def plainLevel : Level where
  option := none
  takesFile := false
  commands := []

/-- Reads a level without commands to its end. -/
def readCommandLevel (l : Level) (args : List String) : Except Usage Progress := do
  let (p, _) ← readLevel l {} args
  p.resolve l

/-- Help about commands: each name must be one of the commands, and none has commands below it. -/
def readHelp (names : List String) : Except Usage Command :=
  match names with
  | [] => .error .displayHelp
  | [name] => if topLevel.commands.contains name then .error .displayHelp else .error .invalidSubcommand
  | _ => .error .invalidSubcommand

def readCommand (name : String) (args : List String) : Except Usage Command :=
  match name with
  | "index" => do
    let p ← readCommandLevel indexLevel args
    match p.file with
    | some file => return .index file ((p.option.bind size?).getD defaultBatchSize)
    | none => throw .missingRequiredArgument
  | "purge" => (readCommandLevel plainLevel args).map (fun _ => .purge)
  | "count" => (readCommandLevel plainLevel args).map (fun _ => .count)
  | _ => readHelp args

/-- The settings file: the option, or else what the surroundings of the program say. -/
def configOf (option surroundings : Option String) : Except Usage (Option String) :=
  match option, surroundings with
  | some path, _ => .ok (some path)
  | none, some path => (checkPath path).map (fun _ => some path)
  | none, none => .ok none

/-- Reads the arguments of the program; `surroundings` is the settings file that holds if the option is
missing. -/
def read (surroundings : Option String) (args : List String) : Except Usage Arguments := do
  let (p, found) ← readLevel topLevel {} args
  match found with
  | some (name, rest) =>
    let command ← readCommand name rest
    let p ← p.resolve topLevel
    return ⟨← configOf p.option surroundings, command⟩
  | none =>
    let p ← p.resolve topLevel
    let config ← configOf p.option surroundings
    if config.isSome then throw .missingSubcommand
    else throw .displayHelpOnMissingArgumentOrSubcommand

end Arguments

end WritePath
