import WritePath.Failure.Report
import WritePath.Log

/-!
# The journal: what the write path tells the outside

Failures of writing never travel back through the calls that caused them; they go to a handler.  There
are two handlers.  The collecting one keeps every report and every exception; the logging one turns them
into log records of the highest severity and keeps nothing.

A `Journal` is the handler with everything told so far: reports, exceptions and log records.
-/

namespace WritePath

/-- What becomes of reports and exceptions. -/
inductive Handling where
  /-- They are kept. -/
  | collecting
  /-- They become log records. -/
  | logging
  deriving DecidableEq, Repr

/-- A failure that no workset can be told. -/
structure Exception where
  message : String
  cause : Failure

/-- All that was told to the outside, oldest first. -/
structure Journal where
  handling : Handling
  reports : List Report := []
  exceptions : List Exception := []
  log : List Log.Record := []

namespace Journal

def record (j : Journal) (records : List Log.Record) : Journal :=
  { j with log := j.log ++ records }

def note (j : Journal) (level : Log.Level) (text : String) : Journal :=
  j.record [⟨level, text⟩]

/-- Hands a report to the handler, unless nothing was recorded in it. -/
def report (j : Journal) (r : Report) : Journal :=
  if r.isEmpty then j
  else match j.handling with
    | .collecting => { j with reports := j.reports ++ [r] }
    | .logging => j.record (r.lines.map (⟨.error, ·⟩))

/-- Hands a failure without a workset to the handler. -/
def exception (j : Journal) (message : String) (cause : Failure) : Journal :=
  match j.handling with
  | .collecting => { j with exceptions := j.exceptions ++ [⟨message, cause⟩] }
  | .logging => j.note .error (message ++ " (" ++ cause.diagnostic ++ ")")

/-- One journal after another; the handler is the one of the first. -/
def append (a b : Journal) : Journal :=
  { a with
    reports := a.reports ++ b.reports
    exceptions := a.exceptions ++ b.exceptions
    log := a.log ++ b.log }

def emptied (j : Journal) : Journal :=
  { handling := j.handling }

/-- The number of reports and exceptions the handler keeps. -/
def callCount (j : Journal) : Nat :=
  j.reports.length + j.exceptions.length

@[simp] theorem handling_record (j : Journal) (records : List Log.Record) :
    (j.record records).handling = j.handling := rfl

@[simp] theorem reports_record (j : Journal) (records : List Log.Record) :
    (j.record records).reports = j.reports := rfl

@[simp] theorem exceptions_record (j : Journal) (records : List Log.Record) :
    (j.record records).exceptions = j.exceptions := rfl

end Journal

end WritePath
