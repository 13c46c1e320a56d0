import WritePath.Failure

/-!
# Failures of commands

A command fails with a failure of the write path, with the failure of a workset it submitted, or because
a line of a file is no document.  Like the failures they hold, command failures have a message, a chain
of sources and a form for diagnostics.

`report` is how the program tells a failure before it ends: the message, and below it the sources, with
numbers if there are several.
-/

namespace WritePath

inductive CommandFailure where
  | core (e : Failure)
  /-- A workset of the command failed. -/
  | workset (e : Failure)
  /-- A line of a file is no document; lines are numbered from one. -/
  | invalidDocument (path : String) (line : Nat) (source : Failure)

namespace CommandFailure

/-- The failure of the write path that it comes from. -/
def source : CommandFailure → Failure
  | .core e | .workset e | .invalidDocument _ _ e => e

def message : CommandFailure → String
  | .core e => "Core error: " ++ e.message
  | .workset e => "Index operation failed: " ++ e.message
  | .invalidDocument path line e =>
    "Invalid document at " ++ path ++ ":" ++ toString line ++ ": " ++ e.message

def chain (f : CommandFailure) : List String :=
  f.source.message :: f.source.chain

def diagnostic : CommandFailure → String
  | .core e => "Core(" ++ e.diagnostic ++ ")"
  | .workset e => "WorkSet(" ++ e.diagnostic ++ ")"
  | .invalidDocument path line e =>
    Text.record "InvalidDocument"
      [("path", Text.quoted path), ("line", toString line), ("source", e.diagnostic)] false

end CommandFailure

/-- What the program tells about a failure: its message and the messages of its sources. -/
structure Complaint where
  message : String
  causes : List String

namespace Complaint

def ofFailure (e : Failure) : Complaint :=
  ⟨e.message, e.chain⟩

def ofCommand (e : CommandFailure) : Complaint :=
  ⟨e.message, e.chain⟩

/-- Says what was being done when something failed. -/
def during (action : String) (c : Complaint) : Complaint :=
  ⟨action, c.message :: c.causes⟩

/-- One cause: its first line comes after `first`, the others after white space. -/
def indented (first rest cause : String) : String :=
  first ++ ("\n" ++ rest).intercalate (cause.splitOn "\n")

/-- A number right-aligned in five columns. -/
def numbered (n : Nat) : String :=
  let digits := toString n
  String.ofList (List.replicate (5 - digits.length) ' ') ++ digits ++ ": "

def causeLines : List String → List String
  | [] => []
  | [cause] => [indented "    " "    " cause]
  | causes => causes.zipIdx.map (fun c => indented (numbered c.2) "       " c.1)

def report (c : Complaint) : String :=
  let head := "Error: " ++ c.message ++ "\n"
  match causeLines c.causes with
  | [] => head
  | lines => head ++ "\nCaused by:\n" ++ String.join (lines.map (· ++ "\n"))

end Complaint

end WritePath
