import WritePath.Proofs.Workset.Containment

/-!
# How a workset ends

The whole of `Workset.run` in one equation for each of the four ends that a
workset has, whatever the handler does.  In every one of them the processor
takes all calls, and the submitter is told something (`run_taken`): a workset
has no answer only if a work of it has failed (`Submitted`), so it never
succeeds without a value.
-/

namespace WritePath.Workset

variable {ε : Type} [Engine ε]

/-! ## What there is to answer -/

theorem answer_of_executes {w : Workset} {m m' : ε} {outputs : List Output} :
    Executes w.works m outputs m' → ∃ v, w.answer (outputs.map .executed) = some v := by
  obtain ⟨content, strategies⟩ := w
  intro h
  cases content with
  | single work =>
    cases h with
    | cons hr _ => exact ⟨_, rfl⟩
  | changeset changes => exact ⟨.unit, rfl⟩

/-- The works of a workset have been submitted: the workset is still open, and
it has an answer unless a work has failed. -/
structure Submitted (w : Workset) (outcomes : List WorkOutcome) (p : Processor ε)
    (o : OpenWorkset) : Prop where
  workset : p.workset = some o
  strategies : o.strategies = w.strategies
  answer : o.report = none → ∃ v, w.answer outcomes = some v
  single : ∀ work, w.content = .single work → w.answer outcomes ≠ none → o.report = none

theorem submitted_executes {w : Workset} {p : Processor ε} {outputs : List Output} {m : ε} :
    p.workset = none → Executes w.works p.engine outputs m →
      ∃ log, attempt w.strategies w.works p
          = (.ok (outputs.map .executed),
              { p with
                engine := m
                journal := p.journal.record log
                pending := p.pending || !w.works.isEmpty
                workset := some ⟨w.strategies, none⟩ }) := by
  intro hw h
  rw [attempt_eq hw]
  exact submitAll_executes h rfl rfl

theorem submitted_fails {w : Workset} {p : Processor ε} {before rest : List Work} {failed : Work}
    {outputs : List Output} {m m' : ε} {e : Failure} :
    p.workset = none → w.works = before ++ failed :: rest →
      Executes before p.engine outputs m → failed.run m = (.error e, m') →
      ∃ log, attempt w.strategies w.works p
          = (.ok (outputs.map .executed ++ .failed :: List.replicate rest.length .skipped),
              { p with
                engine := m'
                journal := p.journal.record log
                pending := p.pending || !before.isEmpty
                workset := some ⟨w.strategies, some (failureReport p.index failed e rest)⟩ }) := by
  intro hw works h hr
  rw [attempt_eq hw, works]
  exact submitAll_fails h hr rfl rfl

/-- A processor without an open workset takes all works of the next one. -/
theorem exists_submitted (w : Workset) {p : Processor ε} :
    p.workset = none →
      ∃ outcomes p' o, attempt w.strategies w.works p = (.ok outcomes, p')
        ∧ Submitted w outcomes p' o := by
  intro hw
  rcases Executes.or_fails w.works p.engine with
    ⟨outputs, m, all⟩ | ⟨before, failed, rest, outputs, m, e, m', works, some', fails⟩
  · obtain ⟨log, attempted⟩ := submitted_executes hw all
    exact ⟨_, _, _, attempted, rfl, rfl, fun _ => answer_of_executes all, fun _ _ _ => rfl⟩
  · obtain ⟨log, attempted⟩ := submitted_fails hw works some' fails
    refine ⟨_, _, _, attempted, rfl, rfl, nofun, fun work hc answered => ?_⟩
    -- the only work of a single one is the one that has failed
    obtain ⟨rfl, rfl, rfl⟩ : before = [] ∧ failed = work ∧ rest = [] := by
      have only : [work] = before ++ failed :: rest := by
        rw [← works, Workset.works, hc]
      cases before with
      | nil => simpa [eq_comm] using only
      | cons _ _ => simp at only
    cases some'
    simp [answer, hc, WorkOutcome.output?] at answered

/-! ## From one end to the other -/

variable {w : Workset} {p : Processor ε} (now : Nat) (listening : Bool)

theorem run_eq {outcomes : List WorkOutcome} {p' : Processor ε} :
    attempt w.strategies w.works p = (.ok outcomes, p') →
      w.run now listening p = p'.afterWorkset now listening (w.answer outcomes) := by
  intro h
  rw [attempt] at h
  simp only [run, h]

theorem run_failed {before rest : List Work} {failed : Work} {outputs : List Output} {m m' : ε}
    {e : Failure} :
    p.workset = none → w.works = before ++ failed :: rest →
      Executes before p.engine outputs m → failed.run m = (.error e, m') →
      ∃ log log', w.run now listening p
        = ⟨.ok (), some (.error e),
            { p with
              engine := m'
              journal := ((p.journal.record log).report
                (failureReport p.index failed e rest)).record log'
              pending := p.pending || !before.isEmpty }⟩ := by
  intro hw works h hr
  obtain ⟨log, attempted⟩ := submitted_fails hw works h hr
  obtain ⟨log', ended⟩ := Processor.afterWorkset_failed now listening (p := { p with
    engine := m'
    journal := p.journal.record log
    pending := p.pending || !before.isEmpty
    workset := some ⟨w.strategies, some (failureReport p.index failed e rest)⟩ }) rfl
    (w.answer (outputs.map .executed ++ .failed :: List.replicate rest.length .skipped))
  refine ⟨log, log', ?_⟩
  rw [run_eq now listening attempted, ended, ← hw]
  rfl

theorem run_executed {outputs : List Output} {m : ε} :
    p.workset = none → Executes w.works p.engine outputs m → w.strategies.needsCommit = false →
      ∃ v log, w.answer (outputs.map .executed) = some v
        ∧ w.run now listening p
          = ⟨.ok (), some (.ok v),
              { p with
                engine := m
                journal := p.journal.record log
                pending := p.pending || !w.works.isEmpty }⟩ := by
  intro hw h hn
  obtain ⟨v, answer⟩ := answer_of_executes h
  obtain ⟨log, attempted⟩ := submitted_executes hw h
  obtain ⟨log', ended⟩ := Processor.afterWorkset_done now listening (p := { p with
    engine := m
    journal := p.journal.record log
    pending := p.pending || !w.works.isEmpty
    workset := some ⟨w.strategies, none⟩ }) rfl (Processor.forcedSteps_none hn now _) (some v)
  refine ⟨v, log ++ log', answer, ?_⟩
  rw [run_eq now listening attempted, answer, ended, ← hw]
  simp only [Journal.record, List.append_assoc]

theorem run_committed {outputs : List Output} {m m' : ε} {stamp : Stamp} :
    p.workset = none → Executes w.works p.engine outputs m → w.strategies.needsCommit = true →
      Engine.commit m = (.ok stamp, m') →
      ∃ v log, w.answer (outputs.map .executed) = some v
        ∧ w.run now listening p
          = ⟨.ok (), some (.ok v),
              { p with
                engine := Processor.shownIf w.strategies m'
                journal := p.journal.record log
                lastCommit := some now
                pending := false }⟩ := by
  intro hw h hn hc
  obtain ⟨v, answer⟩ := answer_of_executes h
  obtain ⟨log, attempted⟩ := submitted_executes hw h
  obtain ⟨log', committed⟩ := Processor.forcedSteps_ok hn (p := { p with
    engine := m
    journal := p.journal.record log
    pending := p.pending || !w.works.isEmpty
    workset := none }) hc now
  obtain ⟨log'', ended⟩ := Processor.afterWorkset_done now listening (p := { p with
    engine := m
    journal := p.journal.record log
    pending := p.pending || !w.works.isEmpty
    workset := some ⟨w.strategies, none⟩ }) rfl committed (some v)
  refine ⟨v, log ++ log' ++ log'', answer, ?_⟩
  rw [run_eq now listening attempted, answer, ended, ← hw]
  simp only [Journal.record, List.append_assoc]

theorem run_commitFailed {outputs : List Output} {m m' : ε} {e : Failure} :
    p.workset = none → Executes w.works p.engine outputs m → w.strategies.needsCommit = true →
      Engine.commit m = (.error e, m') →
      ∃ log log', w.run now listening p
        = ⟨.ok (), some (.error (.commit p.index e)),
            { p with
              engine := m'
              journal := ((p.journal.record log).report
                ⟨p.index, [], [], [.commit p.index e]⟩).record log'
              lastCommit := some now
              pending := false }⟩ := by
  intro hw h hn hc
  obtain ⟨log, attempted⟩ := submitted_executes hw h
  obtain ⟨log', ended⟩ := Processor.afterWorkset_commitFailed now listening (p := { p with
    engine := m
    journal := p.journal.record log
    pending := p.pending || !w.works.isEmpty
    workset := some ⟨w.strategies, none⟩ }) rfl hn hc (w.answer (outputs.map .executed))
  refine ⟨log, log', ?_⟩
  rw [run_eq now listening attempted, ended, ← hw]

/-- The processor takes every call of a workset when none is open, and the
submitter is told something. -/
theorem run_taken (w : Workset) :
    p.workset = none → (w.run now listening p).call = .ok ()
      ∧ ∃ told, (w.run now listening p).told = some told := by
  intro hw
  rcases Executes.or_fails w.works p.engine with
    ⟨outputs, m, all⟩ | ⟨before, failed, rest, outputs, m, e, m', works, some', fails⟩
  · cases hn : w.strategies.needsCommit with
    | false =>
      obtain ⟨v, log, -, h⟩ := run_executed now listening hw all hn
      rw [h]
      exact ⟨rfl, _, rfl⟩
    | true =>
      rcases hc : Engine.commit m with ⟨e | stamp, m'⟩
      · obtain ⟨log, log', h⟩ := run_commitFailed now listening hw all hn hc
        rw [h]
        exact ⟨rfl, _, rfl⟩
      · obtain ⟨v, log, -, h⟩ := run_committed now listening hw all hn hc
        rw [h]
        exact ⟨rfl, _, rfl⟩
  · obtain ⟨log, log', h⟩ := run_failed now listening hw works some' fails
    rw [h]
    exact ⟨rfl, _, rfl⟩

end WritePath.Workset
