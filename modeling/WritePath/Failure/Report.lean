import WritePath.Failure

/-!
# Failure reports

A `Report` collects what happened to the works of one workset that did not go through: the works that
failed, the works that were skipped because an earlier one had failed, and failures that belong to no
single work, such as a failed commit.

The report is built while the workset runs and handed over once.  Its first cause is the failure that
the submitter of the workset is told: a failed work counts before any other failure, whatever the
order in which they were recorded.
-/

namespace WritePath

structure FailedWork where
  work : WorkLabel
  cause : Failure

/-- What went wrong in one workset, or in one commit. -/
structure Report where
  index : IndexName
  failed : List FailedWork := []
  skipped : List WorkLabel := []
  errors : List Failure := []

namespace Report

def markFailed (r : Report) (work : WorkLabel) (cause : Failure) : Report :=
  { r with failed := r.failed ++ [⟨work, cause⟩] }

def markSkipped (r : Report) (work : WorkLabel) : Report :=
  { r with skipped := r.skipped ++ [work] }

/-- Records a failure that belongs to no single work. -/
def addError (r : Report) (e : Failure) : Report :=
  { r with errors := r.errors ++ [e] }

def isEmpty (r : Report) : Bool :=
  r.failed.isEmpty && r.skipped.isEmpty && r.errors.isEmpty

/-- The failure that counts as the cause of all: the first failed work, else the first other one. -/
def firstCause (r : Report) : Option Failure :=
  match r.failed with
  | f :: _ => some f.cause
  | [] => r.errors.head?

def message (r : Report) : String :=
  r.index.label ++ ": " ++ toString r.failed.length ++ " failed work(s), "
    ++ toString r.skipped.length ++ " skipped work(s), "
    ++ toString r.errors.length ++ " other error(s)"

/-- The form for diagnostics of a report that is still being built. -/
def diagnostic (r : Report) : String :=
  Text.record "ContextualErrorHandler"
    [("context", r.index.diagnostic), ("failed", toString r.failed.length),
      ("skipped", toString r.skipped.length), ("errors", toString r.errors.length)] false

/-- One line for every part of the report. -/
def lines (r : Report) : List String :=
  [r.message]
    ++ r.failed.map (fun f => "  failing work: " ++ f.work.text ++ " (" ++ f.cause.message ++ ")")
    ++ r.skipped.map (fun w => "  skipped work: " ++ w.text)
    ++ r.errors.map (fun e => "  error: " ++ e.message)

@[simp] theorem firstCause_markSkipped (r : Report) (w : WorkLabel) :
    (r.markSkipped w).firstCause = r.firstCause := rfl

end Report

end WritePath
