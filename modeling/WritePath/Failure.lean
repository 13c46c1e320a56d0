import WritePath.Label

/-!
# Failures

A `Failure` says what went wrong and keeps what it came from.  Three of its forms hold other failures:
an engine failure may stand over an earlier one, a failed commit holds the failure of the engine, and a
failed shutdown holds all failures of its steps, the first one as its source and the rest as
suppressed.

There are three views of a failure, and nothing else is ever shown of one:

* `message`: one line for people, which repeats the message of the source only for commits and
  shutdowns;
* `chain`: the messages of the sources, one below the other;
* `diagnostic`: the whole structure with every field.
-/

namespace WritePath

inductive SystemError where
  | notFound
  | alreadyExists
  | notDirectory
  | isDirectory
  /-- The last name of the path cannot be used for this. -/
  | invalid
  | notEmpty
  /-- The path or one of its names has too many bytes. -/
  | nameTooLong
  /-- The path has a zero byte in it, which the system cannot be asked about. -/
  | zeroByte
  /-- The content of a file is not text. -/
  | notText
  deriving DecidableEq, Repr

def SystemError.message : SystemError → String
  | .notFound => "No such file or directory (os error 2)"
  | .alreadyExists => "File exists (os error 17)"
  | .notDirectory => "Not a directory (os error 20)"
  | .isDirectory => "Is a directory (os error 21)"
  | .invalid => "Invalid argument (os error 22)"
  | .nameTooLong => "File name too long (os error 36)"
  | .notEmpty => "Directory not empty (os error 39)"
  | .zeroByte => "file name contained an unexpected NUL byte"
  | .notText => "stream did not contain valid UTF-8"

/-- The kind of a failed access that somebody else describes. -/
inductive AccessKind where
  | notFound | permissionDenied | alreadyExists | other
  deriving DecidableEq, Repr

def AccessKind.name : AccessKind → String
  | .notFound => "NotFound"
  | .permissionDenied => "PermissionDenied"
  | .alreadyExists => "AlreadyExists"
  | .other => "Other"

/-- Why a path could not be accessed. -/
inductive AccessError where
  | system (e : SystemError)
  | described (kind : AccessKind) (text : String)
  deriving DecidableEq

namespace AccessError

def message : AccessError → String
  | .system e => e.message
  | .described _ text => text

/-- The form for diagnostics of a cause that is described by a kind and a text. -/
def describedDiagnostic (kind : AccessKind) (text : String) : String :=
  Text.record "Custom" [("kind", kind.name), ("error", Text.quoted text)] false

def diagnostic : AccessError → String
  | .system e => Text.quoted e.message
  | .described kind text => describedDiagnostic kind text

end AccessError

inductive Failure where
  /-- A path could not be accessed. -/
  | io (path : String) (cause : AccessError)
  /-- The configuration is invalid. -/
  | config (reason : String)
  /-- Input could not be parsed. -/
  | parse (reason : String)
  /-- An operation failed for a reason of its own. -/
  | operation (reason : String)
  /-- The engine refused an operation; `origin` is the text of a cause outside the library. -/
  | engine (reason : String) (origin : Option String)
  /-- The engine refused an operation because of an earlier failure. -/
  | engineOver (reason : String) (source : Failure)
  /-- A call out of sequence. -/
  | illegalState (reason : String)
  /-- The pending changes of an index could not be committed. -/
  | commit (index : IndexName) (source : Failure)
  /-- Steps of a shutdown failed, `source` being the first of them. -/
  | shutdown (action : String) (source : Failure) (suppressed : List Failure)
  /-- Work was submitted to an index that takes no more. -/
  | closed (index : IndexName)
  deriving Inhabited

namespace Failure

/-- What a message adds when failures were suppressed. -/
def suppressedNote (count : Nat) : String :=
  if count = 0 then "" else " (" ++ toString count ++ " more failure(s) suppressed)"

def message : Failure → String
  | .io path cause => "I/O error at " ++ path ++ ": " ++ cause.message
  | .config reason => "Configuration error: " ++ reason
  | .parse reason => "Parse error: " ++ reason
  | .operation reason => "Operation failed: " ++ reason
  | .engine reason _ => "Index engine error: " ++ reason
  | .engineOver reason _ => "Index engine error: " ++ reason
  | .illegalState reason => "Illegal state: " ++ reason
  | .commit index source => "Unable to commit " ++ index.label ++ ": " ++ source.message
  | .shutdown action source suppressed =>
    action ++ ": " ++ source.message ++ suppressedNote suppressed.length
  | .closed index => index.label ++ " is closed and no longer accepts work"

def chain : Failure → List String
  | .io _ cause => [cause.message]
  | .engine _ (some origin) => [origin]
  | .engineOver _ source => source.message :: source.chain
  | .commit _ source => source.message :: source.chain
  | .shutdown _ source _ => source.message :: source.chain
  | .config _ | .parse _ | .operation _ | .engine _ none | .illegalState _ | .closed _ => []

def isIllegalState : Failure → Bool
  | .illegalState _ => true
  | _ => false

mutual

def diagnostic : Failure → String
  | .io path cause =>
    Text.record "Io" [("path", Text.quoted path), ("source", cause.diagnostic)] false
  | .config reason => Text.record "Config" [("message", Text.quoted reason)] false
  | .parse reason => Text.record "Parse" [("message", Text.quoted reason)] false
  | .operation reason => Text.record "Operation" [("message", Text.quoted reason)] false
  | .engine reason origin =>
    let source := Text.option (origin.map (AccessError.describedDiagnostic .other))
    Text.record "Engine" [("message", Text.quoted reason), ("source", source)] false
  | .engineOver reason source =>
    Text.record "Engine"
      [("message", Text.quoted reason), ("source", Text.option (some source.diagnostic))] false
  | .illegalState reason => Text.record "IllegalState" [("message", Text.quoted reason)] false
  | .commit index source =>
    Text.record "Commit" [("context", index.diagnostic), ("source", source.diagnostic)] false
  | .shutdown action source suppressed =>
    Text.record "Shutdown"
      [("message", Text.quoted action), ("source", source.diagnostic),
        ("suppressed", Text.list (diagnostics suppressed))] false
  | .closed index => Text.record "Closed" [("context", index.diagnostic)] false

def diagnostics : List Failure → List String
  | [] => []
  | f :: rest => f.diagnostic :: diagnostics rest

end

end Failure

/-- A call on something in state `σ`: its result and the state afterwards. -/
abbrev Call (σ α : Type) := σ → Except Failure α × σ

end WritePath
