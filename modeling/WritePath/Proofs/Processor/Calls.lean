import WritePath.Workset

/-!
# The calls of a processor, one by one

Two kinds of facts about every call.  The equations say what the call answers
and leaves behind, under a condition that picks one branch of it.  `Frame` says
what hardly any call changes: the name of the index, the interval, the handler,
and, but for the two calls that are about it, whether a batch is open.
-/

namespace WritePath.Processor

variable {ε : Type}

/-- The name, the interval, the handler and the batch are the same. -/
structure Frame (p p' : Processor ε) : Prop where
  index : p'.index = p.index
  interval : p'.interval = p.interval
  handling : p'.journal.handling = p.journal.handling
  batchOpen : p'.batchOpen = p.batchOpen

theorem Frame.refl (p : Processor ε) : Frame p p := ⟨rfl, rfl, rfl, rfl⟩

theorem Frame.trans {p p' p'' : Processor ε} (f : Frame p p') (g : Frame p' p'') :
    Frame p p'' :=
  ⟨g.index.trans f.index, g.interval.trans f.interval, g.handling.trans f.handling,
    g.batchOpen.trans f.batchOpen⟩

@[simp] theorem handling_report (j : Journal) (r : Report) :
    (j.report r).handling = j.handling := by
  unfold Journal.report
  cases r.isEmpty <;> cases h : j.handling <;> simp [h]

@[simp] theorem handling_exception (j : Journal) (message : String) (e : Failure) :
    (j.exception message e).handling = j.handling := by
  unfold Journal.exception
  cases h : j.handling <;> simp [h, Journal.note]

variable [Engine ε]

/-! ## One work -/

theorem submit_noWorkset {p : Processor ε} (hw : p.workset = none) (w : Work) :
    submit w p = refuse .noWorkset p := by
  simp only [submit, hw]

theorem submit_skipped {p : Processor ε} {s : Strategies} {r : Report}
    (hw : p.workset = some ⟨s, some r⟩) (w : Work) :
    submit w p
      = (.ok .skipped,
        { p with workset := some ⟨s, some (r.markSkipped w.label)⟩ }) := by
  simp only [submit, hw]

theorem submit_executed {p : Processor ε} {s : Strategies}
    (hw : p.workset = some ⟨s, none⟩) {w : Work} {o : Output} {m : ε}
    (hr : w.run p.engine = (.ok o, m)) :
    submit w p
      = (.ok (.executed o),
          { p with
            engine := m
            journal := p.journal.record (w.notice p.index)
            pending := true }) := by
  simp only [submit, hw, hr]

theorem submit_failed {p : Processor ε} {s : Strategies}
    (hw : p.workset = some ⟨s, none⟩) {w : Work} {e : Failure} {m : ε}
    (hr : w.run p.engine = (.error e, m)) :
    ∃ log, submit w p
      = (.ok .failed,
          { p with
            engine := m
            journal := p.journal.record log
            workset := some ⟨s, some ⟨p.index, [⟨w.label, e⟩], [], []⟩⟩ }) := by
  simp only [submit, hw, hr, Report.markFailed, Journal.note, Journal.record, List.append_assoc,
    List.nil_append]
  exact ⟨_, rfl⟩

theorem submit_open {p : Processor ε} {o : OpenWorkset} (hw : p.workset = some o)
    (w : Work) :
    ∃ outcome p' report, submit w p = (.ok outcome, p') ∧ Frame p p'
      ∧ p'.workset = some ⟨o.strategies, report⟩ := by
  obtain ⟨s, _ | r⟩ := o
  · rcases hr : w.run p.engine with ⟨e | o, m⟩
    · obtain ⟨log, h⟩ := submit_failed hw hr
      exact ⟨_, _, _, h, ⟨rfl, rfl, rfl, rfl⟩, rfl⟩
    · exact ⟨_, _, _, submit_executed hw hr, ⟨rfl, rfl, rfl, rfl⟩, hw⟩
  · exact ⟨_, _, _, submit_skipped hw w, ⟨rfl, rfl, rfl, rfl⟩, rfl⟩

/-! ## Commits and refreshes -/

theorem commitNow_ok {p : Processor ε} {stamp : Stamp} {m : ε}
    (hc : Engine.commit p.engine = (.ok stamp, m)) (now : Nat) :
    ∃ log, commitNow now p
      = (.ok (),
          { p with
            engine := m
            pending := false
            lastCommit := some now
            journal := p.journal.record log }) := by
  simp only [commitNow, hc]
  exact ⟨_, rfl⟩

theorem commitNow_error {p : Processor ε} {e : Failure} {m : ε}
    (hc : Engine.commit p.engine = (.error e, m)) (now : Nat) :
    commitNow now p
      = (.error (.commit p.index e),
          { p with engine := m, pending := false, lastCommit := some now }) := by
  simp only [commitNow, hc]

theorem refreshReaders_eq (p : Processor ε) :
    ∃ log, p.refreshReaders
      = { p with
          engine := (Engine.refresh p.engine).2
          journal := p.journal.record log } := by
  rcases hr : Engine.refresh p.engine with ⟨e | _, m⟩
  · exact ⟨_, by simp only [refreshReaders, hr]; rfl⟩
  · refine ⟨[], ?_⟩
    simp only [refreshReaders, hr, Journal.record, List.append_nil]

/-- The engine after a commit that succeeded, when the readers have been
refreshed if that was asked for. -/
def shownIf (s : Strategies) (m : ε) : ε :=
  if s.refresh = .force then (Engine.refresh m).2 else m

theorem forcedSteps_none {s : Strategies} (hn : s.needsCommit = false) (now : Nat)
    (p : Processor ε) :
    forcedSteps now s p = (.ok (), p) := by
  simp [forcedSteps, hn]

theorem forcedSteps_ok {p : Processor ε} {s : Strategies}
    (hn : s.needsCommit = true) {stamp : Stamp} {m : ε}
    (hc : Engine.commit p.engine = (.ok stamp, m)) (now : Nat) :
    ∃ log, forcedSteps now s p
      = (.ok (),
          { p with
            engine := shownIf s m
            pending := false
            lastCommit := some now
            journal := p.journal.record log }) := by
  obtain ⟨log, h⟩ := commitNow_ok hc now
  simp only [forcedSteps, hn, if_true, h, shownIf]
  split
  · obtain ⟨log', h'⟩ := refreshReaders_eq
      { p with
        engine := m
        pending := false
        lastCommit := some now
        journal := p.journal.record log }
    refine ⟨log ++ log', ?_⟩
    rw [h']
    simp only [Journal.record, List.append_assoc]
  · exact ⟨log, rfl⟩

theorem forcedSteps_error {p : Processor ε} {s : Strategies}
    (hn : s.needsCommit = true) {e : Failure} {m : ε}
    (hc : Engine.commit p.engine = (.error e, m)) (now : Nat) :
    forcedSteps now s p
      = (.error (.commit p.index e),
          { p with engine := m, pending := false, lastCommit := some now }) := by
  simp only [forcedSteps, hn, if_true, commitNow_error hc now]

/-! ## The end of a workset -/

section Tell

omit [Engine ε]

variable {α : Type}

theorem tell_eq (listening : Bool) (call : Except Failure Unit)
    (told : Except Failure α) (p : Processor ε) :
    ∃ log, tell listening call told p
      = ⟨call, some told, { p with journal := p.journal.record log }⟩ := by
  cases listening with
  | true => exact ⟨[], by simp [tell, Journal.record]⟩
  | false => exact ⟨_, rfl⟩

end Tell

variable {α : Type} (now : Nat) (listening : Bool)

theorem afterWorkset_noWorkset {p : Processor ε} (hw : p.workset = none)
    (value : Option α) :
    p.afterWorkset now listening value
      = ⟨.error (Misuse.noWorkset.failure p.index), none, p⟩ := by
  simp only [afterWorkset, hw]

theorem afterWorkset_failed {p : Processor ε} {s : Strategies} {r : Report}
    (hw : p.workset = some ⟨s, some r⟩) (value : Option α) :
    ∃ log, p.afterWorkset now listening value
      = ⟨.ok (), some (.error (r.firstCause.getD (.operation "Workset failed"))),
          { p with workset := none, journal := (p.journal.report r).record log }⟩ := by
  simp only [afterWorkset, hw]
  exact tell_eq ..

theorem afterWorkset_commitFailed {p : Processor ε} {s : Strategies}
    (hw : p.workset = some ⟨s, none⟩) (hn : s.needsCommit = true) {e : Failure}
    {m : ε} (hc : Engine.commit p.engine = (.error e, m)) (value : Option α) :
    ∃ log, p.afterWorkset now listening value
      = ⟨.ok (), some (.error (.commit p.index e)),
          { p with
            engine := m
            workset := none
            pending := false
            lastCommit := some now
            journal :=
              (p.journal.report ⟨p.index, [], [], [.commit p.index e]⟩).record log }⟩ := by
  have h := forcedSteps_error (p := { p with workset := none }) hn hc now
  simp only [afterWorkset, hw, h]
  exact tell_eq ..

theorem afterWorkset_done {p p' : Processor ε} {s : Strategies}
    (hw : p.workset = some ⟨s, none⟩)
    (h : forcedSteps now s { p with workset := none } = (.ok (), p'))
    (value : Option α) :
    ∃ log, p.afterWorkset now listening value
      = ⟨match value with
          | some _ => .ok ()
          | none => .error (Misuse.noValue.failure p'.index),
          some (match value with
            | some v => .ok v
            | none => .error (Misuse.noValue.failure p'.index)),
          { p' with journal := p'.journal.record log }⟩ := by
  simp only [afterWorkset, hw, h]
  cases value <;> exact tell_eq ..

theorem forcedSteps_frame (s : Strategies) (p : Processor ε) :
    Frame p (forcedSteps now s p).2 ∧ (forcedSteps now s p).2.workset = p.workset := by
  cases hn : s.needsCommit with
  | false =>
    rw [forcedSteps_none hn]
    exact ⟨.refl p, rfl⟩
  | true =>
    rcases hc : Engine.commit p.engine with ⟨e | stamp, m⟩
    · rw [forcedSteps_error hn hc]
      exact ⟨⟨rfl, rfl, rfl, rfl⟩, rfl⟩
    · obtain ⟨log, h⟩ := forcedSteps_ok hn hc now
      rw [h]
      exact ⟨⟨rfl, rfl, rfl, rfl⟩, rfl⟩

/-- But for the journal and for closing the workset, the end of a workset does
what its forced steps do, or nothing if a work had failed. -/
theorem afterWorkset_cases (p : Processor ε) (value : Option α) :
    (p.workset = none ∧ (p.afterWorkset now listening value).processor = p)
      ∨ (∃ s r journal, p.workset = some ⟨s, some r⟩
        ∧ (p.afterWorkset now listening value).processor
          = { p with workset := none, journal := journal })
      ∨ ∃ s journal, p.workset = some ⟨s, none⟩
        ∧ (p.afterWorkset now listening value).processor
          = { (forcedSteps now s { p with workset := none }).2 with journal := journal } := by
  rcases hw : p.workset with _ | ⟨s, _ | r⟩
  · rw [afterWorkset_noWorkset now listening hw]
    exact .inl ⟨rfl, rfl⟩
  · refine .inr (.inr ⟨s, ?_⟩)
    rcases hf : forcedSteps now s { p with workset := none } with ⟨e | _, p'⟩
    · obtain ⟨log, h⟩ := tell_eq listening (.ok ()) (.error e : Except Failure α)
        { p' with journal := p'.journal.report (Report.addError ⟨p'.index, [], [], []⟩ e) }
      refine ⟨(p'.journal.report (Report.addError ⟨p'.index, [], [], []⟩ e)).record log, rfl, ?_⟩
      simp only [afterWorkset, hw, hf, h]
    · obtain ⟨log, h⟩ := afterWorkset_done now listening hw hf value
      rw [h]
      exact ⟨_, rfl, rfl⟩
  · obtain ⟨log, h⟩ := afterWorkset_failed now listening hw value
    rw [h]
    exact .inr (.inl ⟨s, r, _, rfl, rfl⟩)

theorem afterWorkset_frame {p : Processor ε} (value : Option α) :
    Frame p (p.afterWorkset now listening value).processor
      ∧ (p.afterWorkset now listening value).processor.workset = none
      ∧ (p.workset.isSome = true →
        (p.afterWorkset now listening value).told.isSome = true) := by
  rcases hw : p.workset with _ | ⟨s, _ | r⟩
  · rw [afterWorkset_noWorkset now listening hw]
    exact ⟨.refl p, hw, nofun⟩
  · have frame := forcedSteps_frame now s { p with workset := none }
    rcases hf : forcedSteps now s { p with workset := none } with ⟨e | _, p'⟩
    · rw [hf] at frame
      simp only [afterWorkset, hw, hf]
      obtain ⟨log, h⟩ := tell_eq listening (.ok ()) (.error e : Except Failure α)
        { p' with journal := p'.journal.report (Report.addError ⟨p'.index, [], [], []⟩ e) }
      rw [h]
      refine ⟨⟨frame.1.index, frame.1.interval, ?_, frame.1.batchOpen⟩, frame.2, fun _ => rfl⟩
      simpa using frame.1.handling
    · rw [hf] at frame
      obtain ⟨log, h⟩ := afterWorkset_done now listening hw hf value
      rw [h]
      exact ⟨⟨frame.1.index, frame.1.interval, frame.1.handling, frame.1.batchOpen⟩, frame.2,
        fun _ => rfl⟩
  · obtain ⟨log, h⟩ := afterWorkset_failed now listening hw value
    rw [h]
    refine ⟨⟨rfl, rfl, ?_, rfl⟩, rfl, fun _ => rfl⟩
    simp

/-! ## Between worksets -/

theorem commitPending_frame (p : Processor ε) :
    Frame p (p.commitPending now) ∧ (p.commitPending now).workset = p.workset := by
  unfold commitPending
  split
  · rcases hc : Engine.commit p.engine with ⟨e | stamp, m⟩
    · rw [commitNow_error hc now]
      refine ⟨⟨rfl, rfl, ?_, rfl⟩, rfl⟩
      simp
    · obtain ⟨log, h⟩ := commitNow_ok hc now
      rw [h]
      exact ⟨⟨rfl, rfl, rfl, rfl⟩, rfl⟩
  · exact ⟨.refl p, rfl⟩

/-- Neither a batch nor a workset is open. -/
structure Idle (p : Processor ε) : Prop where
  batchOpen : p.batchOpen = false
  workset : p.workset = none

theorem endBatch_open {p : Processor ε} (hb : p.batchOpen = true)
    (hw : p.workset = none) :
    endBatch now p
      = (.ok (),
          if p.pendingDelay now = some 0 then
            ({ p with batchOpen := false } : Processor ε).commitPending now
          else { p with batchOpen := false }) := by
  simp only [endBatch, hb, hw, if_true]
  rfl

theorem endBatch_idle {p : Processor ε} (hb : p.batchOpen = true)
    (hw : p.workset = none) :
    Idle (endBatch now p).2 := by
  rw [endBatch_open now hb hw]
  dsimp only
  split
  · obtain ⟨frame, workset⟩ := commitPending_frame now { p with batchOpen := false }
    exact ⟨frame.batchOpen, workset.trans hw⟩
  · exact ⟨rfl, hw⟩

/-- The end of a batch is refused, or closes the batch, and it may commit what is
pending then. -/
theorem endBatch_cases (p : Processor ε) :
    (endBatch now p).2 = p
      ∨ (endBatch now p).2 = { p with batchOpen := false }
      ∨ (endBatch now p).2 = ({ p with batchOpen := false } : Processor ε).commitPending now := by
  unfold endBatch
  split
  · split
    · exact .inl rfl
    · dsimp only
      split
      · exact .inr (.inr rfl)
      · exact .inr (.inl rfl)
  · exact .inl rfl

theorem index_endBatch (p : Processor ε) : (endBatch now p).2.index = p.index := by
  rcases endBatch_cases now p with h | h | h <;> rw [h]
  exact (commitPending_frame now _).1.index

/-! ## The end -/

/-- The first step of a shutdown: what is pending is committed. -/
def flush (now : Nat) : Call (Processor ε) Unit := fun p =>
  if p.pending then commitNow now p else (.ok (), p)

theorem flush_frame (p : Processor ε) :
    Frame p (flush now p).2 ∧ (flush now p).2.workset = p.workset := by
  unfold flush
  split
  · rcases hc : Engine.commit p.engine with ⟨e | stamp, m⟩
    · rw [commitNow_error hc now]
      exact ⟨⟨rfl, rfl, rfl, rfl⟩, rfl⟩
    · obtain ⟨log, h⟩ := commitNow_ok hc now
      rw [h]
      exact ⟨⟨rfl, rfl, rfl, rfl⟩, rfl⟩
  · exact ⟨.refl p, rfl⟩

section

omit [Engine ε]

/-- The processor with something else in its log. -/
def logging (log : List Log.Record) (p : Processor ε) : Processor ε :=
  { p with journal := { p.journal with log := log } }

theorem logging_logging (log log' : List Log.Record) (p : Processor ε) :
    (p.logging log).logging log' = p.logging log' :=
  rfl

theorem noted_if (p : Processor ε) (b : Prop) [Decidable b] (level : Log.Level) (text : String) :
    ∃ log, (if b then p.note level text else p) = p.logging log := by
  split
  · exact ⟨_, rfl⟩
  · exact ⟨p.journal.log, rfl⟩

/-- What a closer does with a step of a shutdown. -/
theorem push_eq (c : Closer) (step : Call (Processor ε) Unit) (p : Processor ε) :
    ∃ log, c.push note step p = (c.take (step p).1, (step p).2.logging log) := by
  obtain ⟨p', pushed, same | ⟨level, text, noted⟩⟩ := Closer.push_cases note step c p
  · exact ⟨p'.journal.log, by rw [pushed, ← same]; rfl⟩
  · exact ⟨p'.journal.log, by rw [pushed, noted]; rfl⟩

end

/-- A step that is left out does as well as one with nothing to do. -/
theorem push_flush (p : Processor ε) :
    (if p.pending then Closer.push note (commitNow now) {} p else ({}, p))
      = Closer.push note (flush now) {} p := by
  cases hp : p.pending <;> simp only [Closer.push, flush, hp] <;> rfl

theorem flush_logging (log : List Log.Record) (p : Processor ε) :
    ∃ log', flush now (p.logging log) = ((flush now p).1, (flush now p).2.logging log') := by
  cases hp : p.pending with
  | false =>
    simp only [flush, logging, hp, Bool.false_eq_true, if_false]
    exact ⟨log, rfl⟩
  | true =>
    rcases hc : Engine.commit p.engine with ⟨e | stamp, m⟩ <;>
      simp only [flush, commitNow, logging, hp, hc, if_true] <;> exact ⟨_, rfl⟩

/-- A shutdown takes both of its steps, and the second one starts from what the
first one has left. -/
theorem close_eq (p : Processor ε) :
    ∃ log, close now p
      = (((({} : Closer).take (flush now p).1).take (Engine.close (flush now p).2.engine).1).finish
            ("Failed to shut down " ++ p.index.label),
          { (flush now p).2 with
            engine := (Engine.close (flush now p).2.engine).2
            journal := { (flush now p).2.journal with log := log } }) := by
  -- a warning before the first step is in the log
  obtain ⟨warned, h₀⟩ := p.noted_if (p.workset.isSome = true) .warn
    ("Closing " ++ p.index.label ++ " with a workset still open")
  obtain ⟨log, h₁⟩ := flush_logging now warned p
  obtain ⟨log₁, h₂⟩ := push_eq {} (flush now) (p.logging warned)
  rw [h₁] at h₂
  obtain ⟨log₂, h₃⟩ := push_eq (({} : Closer).take (flush now p).1) closeEngine
    ((flush now p).2.logging log₁)
  rw [← (flush_frame now p).1.index]
  simp only [close, h₀, push_flush, h₂, logging_logging, h₃]
  split <;> exact ⟨_, rfl⟩

theorem close_frame (p : Processor ε) :
    Frame p (close now p).2 ∧ (close now p).2.workset = p.workset := by
  obtain ⟨log, h⟩ := close_eq now p
  obtain ⟨frame, workset⟩ := flush_frame now p
  rw [h]
  exact ⟨⟨frame.index, frame.interval, frame.handling, frame.batchOpen⟩, workset⟩

end WritePath.Processor

namespace WritePath.Workset

open Processor

variable {ε : Type} [Engine ε]

/-- The works of an open workset are all taken, one way or another, and leave
the workset open. -/
theorem submitAll_open (works : List Work) {p : Processor ε} {o : OpenWorkset}
    (hw : p.workset = some o) :
    ∃ outcomes p' report, submitAll works p = (.ok outcomes, p') ∧ Frame p p'
      ∧ p'.workset = some ⟨o.strategies, report⟩ := by
  induction works generalizing p o with
  | nil => exact ⟨[], p, o.report, rfl, .refl p, hw⟩
  | cons w rest ih =>
    obtain ⟨outcome, p₁, report₁, h₁, frame₁, hw₁⟩ := submit_open hw w
    obtain ⟨outcomes, p₂, report₂, h₂, frame₂, hw₂⟩ := ih hw₁
    refine ⟨outcome :: outcomes, p₂, report₂, ?_, frame₁.trans frame₂, hw₂⟩
    simp only [submitAll, Call.andThen, h₁, Call.map, h₂, Except.map]

/-- A workset that is run while none is open is run from one end to the other,
and its submitter is told. -/
theorem run_frame (now : Nat) (listening : Bool) (w : Workset) {p : Processor ε}
    (hw : p.workset = none) :
    Frame p (w.run now listening p).processor
      ∧ (w.run now listening p).processor.workset = none
      ∧ (w.run now listening p).told.isSome = true := by
  obtain ⟨outcomes, p', report, h, frame, hw'⟩ :=
    submitAll_open w.works (p := { p with workset := some ⟨w.strategies, none⟩ }) rfl
  have hr : w.run now listening p
    = p'.afterWorkset now listening (w.answer outcomes) := by
    simp only [run, Call.andThen, beforeWorkset, hw, h]
  obtain ⟨frame', none', told⟩ :=
    afterWorkset_frame (p := p') now listening (w.answer outcomes)
  rw [hr]
  have before : Frame p p' := ⟨frame.index, frame.interval, frame.handling, frame.batchOpen⟩
  exact ⟨before.trans frame', none',
    told (by simp [hw'])⟩

end WritePath.Workset
