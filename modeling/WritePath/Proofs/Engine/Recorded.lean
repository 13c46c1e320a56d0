import WritePath.Proofs.Processor.Calls

/-!
# An engine that counts its commits

A `Recorded` engine does what the engine inside it does, and keeps the result of
every commit that it was asked for.  A processor cannot tell it from the other
one, so a call on `p.recorded` shows which commits the same call on `p`
attempts, and what came of them.

Every call of a processor attempts one commit at most, and these are the calls
that do: the end of a workset that insists on a commit and in which no work has
failed, and the calls that commit what is pending.
-/

namespace WritePath

/-- An engine with the results of the commits on it, oldest first. -/
structure Recorded (ε : Type) where
  engine : ε
  attempts : List (Except Failure Stamp) := []

namespace Recorded

variable {ε : Type}

def pass {α : Type} (call : Call ε α) : Call (Recorded ε) α := fun r =>
  let (result, m) := call r.engine
  (result, { r with engine := m })

variable [Engine ε]

/-- A commit whose result is kept. -/
def commit : Call (Recorded ε) Stamp := fun r =>
  let (result, m) := Engine.commit r.engine
  (result, ⟨m, r.attempts ++ [result]⟩)

instance : Engine (Recorded ε) where
  add d := pass (Engine.add d)
  delete id := pass (Engine.delete id)
  deleteAll := pass Engine.deleteAll
  commit := commit
  refresh := pass Engine.refresh
  close := pass Engine.close

theorem run_change (c : Change) (r : Recorded ε) :
    c.run r = ((c.run r.engine).1, { r with engine := (c.run r.engine).2 }) := by
  cases c with
  | add d => rfl
  | update d =>
    simp only [Change.run, Call.andThen, Engine.delete, pass]
    rcases Engine.delete d.id r.engine with ⟨e | stamp, m⟩
    · rfl
    · rfl
  | delete id => rfl

theorem run_work (w : Work) (r : Recorded ε) :
    w.run r = ((w.run r.engine).1, { r with engine := (w.run r.engine).2 }) := by
  cases w with
  | change c | silent c => simp only [Work.run, Call.map, run_change]
  | purge | flush | refresh => rfl

theorem commit_ok {m m' : ε} {stamp : Stamp} (h : Engine.commit m = (.ok stamp, m'))
    (l : List (Except Failure Stamp)) :
    Engine.commit (⟨m, l⟩ : Recorded ε) = (.ok stamp, ⟨m', l ++ [.ok stamp]⟩) := by
  show commit ⟨m, l⟩ = _
  simp only [commit, h]

theorem commit_error {m m' : ε} {e : Failure} (h : Engine.commit m = (.error e, m'))
    (l : List (Except Failure Stamp)) :
    Engine.commit (⟨m, l⟩ : Recorded ε) = (.error e, ⟨m', l ++ [.error e]⟩) := by
  show commit ⟨m, l⟩ = _
  simp only [commit, h]

theorem attempts_shownIf (s : Strategies) (r : Recorded ε) :
    (Processor.shownIf s r).attempts = r.attempts := by
  unfold Processor.shownIf
  split <;> rfl

end Recorded

namespace Processor

variable {ε : Type}

/-- The same processor over the engine that counts, with no commits so far. -/
def recorded (p : Processor ε) : Processor (Recorded ε) where
  index := p.index
  engine := ⟨p.engine, []⟩
  journal := p.journal
  interval := p.interval
  lastCommit := p.lastCommit
  pending := p.pending
  batchOpen := p.batchOpen
  workset := p.workset

variable [Engine ε]

theorem attempts_submit (w : Work) (p : Processor (Recorded ε)) :
    (submit w p).2.engine.attempts = p.engine.attempts := by
  rcases hw : p.workset with _ | ⟨s, _ | r⟩
  · simp only [submit_noWorkset hw, refuse]
  · have kept : (w.run p.engine).2.attempts = p.engine.attempts :=
      by rw [Recorded.run_work]
    rcases hr : w.run p.engine with ⟨e | o, m⟩
    · obtain ⟨log, h⟩ := submit_failed hw hr
      rw [hr] at kept
      rw [h]
      exact kept
    · rw [submit_executed hw hr]
      rw [hr] at kept
      exact kept
  · rw [submit_skipped hw]

end Processor

end WritePath
