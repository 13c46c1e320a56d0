import WritePath.Failure.Closer
import WritePath.Failure.Journal
import WritePath.Strategy
import WritePath.Work

/-!
# The processor

The processor makes all changes of one index, one call after another.  Its calls come in a fixed order:

    beginBatch
      beforeWorkset, submit, …, submit, afterWorkset
      …
    endBatch

and a call out of order is refused without any effect (`Misuse`).

Three rules say what happens to failures and commits.

* *Containment.*  The first work of a workset that fails opens a report; the later works of that workset
  are skipped.  When the workset ends, the report is handed over, the submitter is told the failure of
  that first work, and neither commit nor refresh takes place.  Works before the failed one stay done.
* *Forced steps.*  A workset without failure that insists on a commit or a refresh gets its commit
  before its submitter is told anything; if the commit fails so does the workset.  A refresh follows a
  successful commit only, and its failure is logged and nothing else.
* *Deferred commits.*  What no workset insisted on is committed at the end of the batch, or later if
  less than `interval` has passed since the last attempt.  Every attempt, failed or not, ends what is
  pending and sets the clock: changes whose commit failed are not tried again by themselves.

Time is a number of milliseconds that the caller passes in; the processor compares and subtracts only.
-/

namespace WritePath

/-- The workset between its two ends. -/
structure OpenWorkset where
  strategies : Strategies
  /-- Opened by the first work that fails. -/
  report : Option Report := none

structure Processor (ε : Type) where
  index : IndexName
  engine : ε
  journal : Journal
  /-- The least time between two commits that no workset insisted on. -/
  interval : Nat := 0
  /-- When a commit was last attempted. -/
  lastCommit : Option Nat := none
  /-- A work was done since the last attempt. -/
  pending : Bool := false
  batchOpen : Bool := false
  workset : Option OpenWorkset := none

/-- What became of one work. -/
inductive WorkOutcome where
  | executed (output : Output)
  | failed
  | skipped
  deriving DecidableEq, Repr

def WorkOutcome.output? : WorkOutcome → Option Output
  | .executed o => some o
  | .failed | .skipped => none

/-- A call out of order. -/
inductive Misuse where
  | batchIsOpen
  | worksetIsOpen
  | noWorkset
  | noBatch
  /-- A batch cannot end while a workset is open. -/
  | batchHoldsWorkset
  /-- A workset without failure ended without a value for its submitter. -/
  | noValue
  deriving DecidableEq, Repr

def Misuse.message (m : Misuse) (index : IndexName) : String :=
  match m with
  | .batchIsOpen => "A batch is already open on " ++ index.label
  | .worksetIsOpen => "A workset is already open on " ++ index.label
  | .noWorkset => "No workset is open on " ++ index.label
  | .noBatch => "No batch is open on " ++ index.label
  | .batchHoldsWorkset => "Cannot end a batch on " ++ index.label ++ " while a workset is open"
  | .noValue => "Workset on " ++ index.label ++ " succeeded without producing a value"

def Misuse.failure (m : Misuse) (index : IndexName) : Failure :=
  .illegalState (m.message index)

/-- What the end of a workset answers. -/
structure Settled (ε α : Type) where
  /-- The result of the call itself. -/
  call : Except Failure Unit
  /-- What the submitter is told; nothing if there was no workset to end. -/
  told : Option (Except Failure α)
  processor : Processor ε

namespace Processor

variable {ε : Type}

def refuse {α : Type} (m : Misuse) : Call (Processor ε) α := fun p =>
  (.error (m.failure p.index), p)

def note (p : Processor ε) (level : Log.Level) (text : String) : Processor ε :=
  { p with journal := p.journal.note level text }

def beginBatch : Call (Processor ε) Unit := fun p =>
  if p.batchOpen then refuse .batchIsOpen p else (.ok (), { p with batchOpen := true })

def beforeWorkset (s : Strategies) : Call (Processor ε) Unit := fun p =>
  match p.workset with
  | some _ => refuse .worksetIsOpen p
  | none => (.ok (), { p with workset := some ⟨s, none⟩ })

/-- How long what is pending may still wait; nothing if nothing is pending. -/
def pendingDelay (now : Nat) (p : Processor ε) : Option Nat :=
  if p.pending then
    match p.lastCommit with
    | none => some 0
    | some last => some (p.interval - (now - last))
  else none

variable [Engine ε]

/-- Does one work of the open workset, or skips it after a failure. -/
def submit (w : Work) : Call (Processor ε) WorkOutcome := fun p =>
  match p.workset with
  | none => refuse .noWorkset p
  | some ⟨s, some r⟩ => (.ok .skipped, { p with workset := some ⟨s, some (r.markSkipped w.label)⟩ })
  | some ⟨s, none⟩ =>
    let journal := p.journal.record (w.notice p.index)
    match w.run p.engine with
    | (.ok output, engine) =>
      (.ok (.executed output), { p with engine := engine, journal := journal, pending := true })
    | (.error e, engine) =>
      let text := "Work '" ++ w.label.text ++ "' failed on " ++ p.index.label ++ ": " ++ e.message
      let report := Report.markFailed ⟨p.index, [], [], []⟩ w.label e
      (.ok .failed,
        { p with
          engine := engine
          journal := journal.note .debug text
          workset := some ⟨s, some report⟩ })

/-- Attempts a commit.  Whatever comes of it, nothing is pending any more. -/
def commitNow (now : Nat) : Call (Processor ε) Unit := fun p =>
  let p := { p with pending := false, lastCommit := some now }
  match Engine.commit p.engine with
  | (.ok stamp, engine) =>
    let text := "Committed " ++ p.index.label ++ " at opstamp " ++ toString stamp
    (.ok (), { p with engine := engine, journal := p.journal.note .debug text })
  | (.error e, engine) => (.error (.commit p.index e), { p with engine := engine })

/-- Refreshes the readers; a failure is logged and nothing else. -/
def refreshReaders (p : Processor ε) : Processor ε :=
  match Engine.refresh p.engine with
  | (.ok _, engine) => { p with engine := engine }
  | (.error e, engine) =>
    { p with engine := engine }.note .warn
      ("Unable to refresh readers of " ++ p.index.label ++ ": " ++ e.message)

/-- Tells the submitter of a workset, if there is still one who listens. -/
def tell {α : Type} (listening : Bool) (call : Except Failure Unit) (told : Except Failure α)
    (p : Processor ε) : Settled ε α :=
  ⟨call, some told,
    if listening then p
    else p.note .debug
      ("Outcome of a workset on " ++ p.index.label ++ " was dropped by its submitter")⟩

/-- Takes the steps that a workset without failure insists on. -/
def forcedSteps (now : Nat) (s : Strategies) : Call (Processor ε) Unit := fun p =>
  if s.needsCommit then
    match commitNow now p with
    | (.ok _, p) => (.ok (), if s.refresh = .force then p.refreshReaders else p)
    | (.error e, p) => (.error e, p)
  else (.ok (), p)

/-- Ends the open workset; `value` is what its submitter is told if nothing failed. -/
def afterWorkset {α : Type} (now : Nat) (listening : Bool) (value : Option α) (p : Processor ε) :
    Settled ε α :=
  match p.workset with
  | none => ⟨.error (Misuse.noWorkset.failure p.index), none, p⟩
  | some ⟨s, report⟩ =>
    let p := { p with workset := none }
    match report with
    | some r =>
      let cause := r.firstCause.getD (.operation "Workset failed")
      tell listening (.ok ()) (.error cause) { p with journal := p.journal.report r }
    | none =>
      match forcedSteps now s p with
      | (.error e, p) =>
        let r := Report.addError ⟨p.index, [], [], []⟩ e
        tell listening (.ok ()) (.error e) { p with journal := p.journal.report r }
      | (.ok _, p) =>
        match value with
        | some v => tell listening (.ok ()) (.ok v) p
        | none =>
          let e := Misuse.noValue.failure p.index
          tell listening (.error e) (.error e) p

/-- Commits what is pending; a failure goes to the handler. -/
def commitPending (now : Nat) (p : Processor ε) : Processor ε :=
  if p.pending then
    match commitNow now p with
    | (.ok _, p) => p
    | (.error e, p) => { p with journal := p.journal.exception e.message e }
  else p

/-- Ends the batch, with a commit if one is pending and due. -/
def endBatch (now : Nat) : Call (Processor ε) Unit := fun p =>
  if p.batchOpen then
    match p.workset with
    | some _ => refuse .batchHoldsWorkset p
    | none =>
      let p := { p with batchOpen := false }
      (.ok (), if p.pendingDelay now = some 0 then p.commitPending now else p)
  else refuse .noBatch p

def closeEngine : Call (Processor ε) Unit := fun p =>
  let (result, engine) := Engine.close p.engine
  (result, { p with engine := engine })

/-- Commits what is pending and closes the engine, the second step whatever comes of the first. -/
def close (now : Nat) : Call (Processor ε) Unit := fun p =>
  let p := if p.workset.isSome then
      p.note .warn ("Closing " ++ p.index.label ++ " with a workset still open")
    else p
  let (closer, p) := if p.pending then Closer.push note (commitNow now) {} p else ({}, p)
  let (closer, p) := closer.push note closeEngine p
  let p := if closer.failureCount > 0 then
      p.note .warn (toString closer.failureCount ++ " release step(s) of " ++ p.index.label
        ++ " failed")
    else p
  (closer.finish ("Failed to shut down " ++ p.index.label), p)

omit [Engine ε] in
def diagnostic (p : Processor ε) : String :=
  Text.record "WriteWorkProcessor"
    [("event_context", p.index.diagnostic), ("commit_interval", Text.interval p.interval),
      ("has_uncommitted_changes", toString p.pending), ("batch_open", toString p.batchOpen),
      ("work_set_open", toString p.workset.isSome)] true

/-! ## Small facts -/

omit [Engine ε] in
theorem pendingDelay_eq_none_iff {now : Nat} {p : Processor ε} :
    p.pendingDelay now = none ↔ p.pending = false := by
  unfold pendingDelay
  cases p.pending <;> simp
  cases p.lastCommit <;> simp

@[simp] theorem pending_commitNow (now : Nat) (p : Processor ε) :
    (commitNow now p).2.pending = false := by
  unfold commitNow
  dsimp only
  split <;> rfl

end Processor

end WritePath
