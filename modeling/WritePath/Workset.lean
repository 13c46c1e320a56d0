import WritePath.Processor

/-!
# Worksets

A workset is what callers submit: one work, or several changes that succeed or fail as one, with the
strategies that go for all of them.  The answer to a single work is its output; a changeset has no
output of its own.

`run` passes a workset to a processor as one workset of the current batch.  The failures of its works go
to its submitter and never to the one who runs it.
-/

namespace WritePath

/-- One work, or the changes of a changeset. -/
inductive Content where
  | single (w : Work)
  | changeset (changes : List Change)
  deriving DecidableEq

/-- Works with their strategies. -/
structure Workset where
  content : Content
  strategies : Strategies := {}
  deriving DecidableEq

namespace Workset

def works (w : Workset) : List Work :=
  match w.content with
  | .single work => [work]
  | .changeset changes => changes.map .silent

/-- What the submitter is told if every work was done, given what became of them. -/
def answer (w : Workset) (outcomes : List WorkOutcome) : Option Output :=
  match w.content with
  | .single _ => outcomes.head?.bind WorkOutcome.output?
  | .changeset _ => some .unit

/-- Tells the submitter of a workset that was not run. -/
def fail (_ : Workset) (e : Failure) : Except Failure Output :=
  .error e

variable {ε : Type} [Engine ε]

def submitAll : List Work → Call (Processor ε) (List WorkOutcome)
  | [] => Call.done []
  | w :: rest =>
    Call.andThen (Processor.submit w) fun outcome =>
      Call.map (outcome :: ·) (submitAll rest)

/-- Runs a workset from one end to the other. -/
def run (now : Nat) (listening : Bool) (w : Workset) (p : Processor ε) : Settled ε Output :=
  match Call.andThen (Processor.beforeWorkset w.strategies) (fun _ => submitAll w.works) p with
  | (.ok outcomes, p) => p.afterWorkset now listening (w.answer outcomes)
  | (.error e, p) => ⟨.error e, none, p⟩

end Workset

end WritePath
