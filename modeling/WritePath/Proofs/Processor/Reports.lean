import WritePath.Proofs.Processor.Misuse

/-!
# Which losses are reported

The works that failed or were skipped are the losses of their workset.  The
answers to the calls tell them all (`Tally`), and the handler is given one report
for every workset that has ended with losses, in the order of the worksets, with
these losses and no others (`Accounted`).

So every loss is reported once, but for those of a workset that is still open
when the processor is closed.  A close commits what is pending and closes the
engine; it does not end the workset, so the report that has been begun for it is
handed to nobody (`losses_reported`).

All this holds over any engine, whatever happens to it between the calls.
-/

namespace WritePath

/-- A work that did not go through. -/
inductive Loss where
  | failed (work : WorkLabel)
  | skipped (work : WorkLabel)

def Loss.skipped? : Loss → Option WorkLabel
  | .skipped w => some w
  | .failed _ => none

def Report.losses (r : Report) : List Loss :=
  r.failed.map (fun f => .failed f.work) ++ r.skipped.map .skipped

namespace Processor

/-! ## What the caller knows -/

/-- The loss that a call answers. -/
def loss? : Instruction × Answer → Option Loss
  | (.submit w, .outcome (.ok .failed)) => some (.failed w.label)
  | (.submit w, .outcome (.ok .skipped)) => some (.skipped w.label)
  | _ => none

/-- What is known of losses from calls and their answers. -/
structure Tally where
  /-- The losses of the worksets that have ended, each with what its submitter was
  told. -/
  ended : List (List Loss × Except Failure Output) := []
  /-- The losses of the open workset. -/
  current : List Loss := []

def Tally.after (t : Tally) (y : Instruction × Answer) : Tally :=
  match y with
  | (.afterWorkset _ _, .settled _ (some told)) => ⟨t.ended ++ [(t.current, told)], []⟩
  | y => { t with current := t.current ++ (loss? y).toList }

/-- What is reported of a workset that has ended: its losses, with the failure that
its submitter was told, or the failure of its commit. -/
def reportOf (index : IndexName) : List Loss × Except Failure Output → Option Report
  | (.failed w :: rest, .error cause) =>
    some ⟨index, [⟨w, cause⟩], rest.filterMap Loss.skipped?, []⟩
  | ([], .error (.commit _ e)) => some ⟨index, [], [], [.commit index e]⟩
  | _ => none

/-- The losses of a workset in which a work has failed. -/
def lossesFrom (failed : WorkLabel) (skipped : List WorkLabel) : List Loss :=
  .failed failed :: skipped.map .skipped

theorem reportOf_lossesFrom (index : IndexName) (failed : WorkLabel) (skipped : List WorkLabel)
    (cause : Failure) :
    reportOf index (lossesFrom failed skipped, .error cause)
      = some ⟨index, [⟨failed, cause⟩], skipped, []⟩ := by
  have back : (skipped.map Loss.skipped).filterMap Loss.skipped? = skipped := by
    simp [List.filterMap_map, Function.comp_def, Loss.skipped?]
  simp only [lossesFrom, reportOf, back]

/-- The losses of the worksets that have ended and of the open one are all that
was answered. -/
theorem losses_tally (l : List (Instruction × Answer)) (t : Tally) :
    let t' := l.foldl Tally.after t
    t'.ended.flatMap Prod.fst ++ t'.current
      = t.ended.flatMap Prod.fst ++ t.current ++ l.filterMap loss? := by
  induction l generalizing t with
  | nil => simp
  | cons y rest ih =>
    have step : (t.after y).ended.flatMap Prod.fst ++ (t.after y).current
        = t.ended.flatMap Prod.fst ++ t.current ++ (loss? y).toList := by
      unfold Tally.after
      split
      · simp [loss?]
      · simp
    have cons : (y :: rest).filterMap loss? = (loss? y).toList ++ rest.filterMap loss? := by
      cases h : loss? y <;> simp [h]
    rw [cons, ← List.append_assoc, ← step]
    exact ih (t.after y)

/-- If each report names the losses of its workset, together they name all. -/
theorem losses_reports {index : IndexName} {l : List (List Loss × Except Failure Output)} :
    (∀ x ∈ l, x.1 = (reportOf index x).elim [] Report.losses) →
      (l.filterMap (reportOf index)).flatMap Report.losses = l.flatMap Prod.fst := by
  intro named
  induction l with
  | nil => rfl
  | cons x rest ih =>
    have rest' := ih fun y hy => named y (List.mem_cons_of_mem _ hy)
    have first := named x List.mem_cons_self
    rw [List.flatMap_cons, first, ← rest']
    cases h : reportOf index x <;> simp [h]

/-! ## What the handler is given -/

variable {ε : Type}

/-- The losses of the open workset are those of the report that was begun for it. -/
def Begun (index : IndexName) (current : List Loss) : Option OpenWorkset → Prop
  | some ⟨_, some r⟩ => ∃ w cause skipped, r = ⟨index, [⟨w, cause⟩], skipped, []⟩
      ∧ current = lossesFrom w skipped
  | some ⟨_, none⟩ | none => current = []

/-- What is known of losses fits what the processor has done about them. -/
structure Accounted (index : IndexName) (t : Tally) (p : Processor ε) : Prop where
  belongs : p.index = index
  handling : p.journal.handling = .collecting
  /-- One report for each workset that has ended with something to report. -/
  reports : p.journal.reports = t.ended.filterMap (reportOf index)
  /-- Each report names the losses of its workset and no others. -/
  named : ∀ x ∈ t.ended, x.1 = (reportOf index x).elim [] Report.losses
  current : Begun index t.current p.workset

namespace Accounted

variable {index : IndexName} {t : Tally} {p p' : Processor ε}

theorem of_same (h : Accounted index t p) (same : p'.index = p.index)
    (handling : p'.journal.handling = p.journal.handling)
    (reports : p'.journal.reports = p.journal.reports) (workset : p'.workset = p.workset) :
    Accounted index t p' :=
  ⟨same.trans h.belongs, handling.trans h.handling, reports.trans h.reports, h.named,
    workset ▸ h.current⟩

theorem of_lossless (h : Accounted index t p') {i : Instruction} {a : Answer} :
    loss? (i, a) = none → (∀ listening value, i ≠ .afterWorkset listening value) →
      Accounted index (t.after (i, a)) p' := by
  intro none going
  have same : t.after (i, a) = t := by
    unfold Tally.after
    split
    · next listening value call told h => exact absurd (congrArg Prod.fst h) (going _ _)
    · rw [none, Option.toList_none, List.append_nil]
  rw [same]
  exact h

theorem of_ended (h : Accounted index t p) (told : Except Failure Output)
    (same : p'.index = p.index) (handling : p'.journal.handling = p.journal.handling)
    (reports : p'.journal.reports
      = p.journal.reports ++ (reportOf index (t.current, told)).toList)
    (named : t.current = (reportOf index (t.current, told)).elim [] Report.losses)
    (closed : p'.workset = none) :
    Accounted index ⟨t.ended ++ [(t.current, told)], []⟩ p' := by
  refine ⟨same.trans h.belongs, handling.trans h.handling, ?_, fun x hx => ?_, by rw [closed]; rfl⟩
  · rw [reports, h.reports, List.filterMap_append]
    cases hr : reportOf index (t.current, told) <;> simp [hr]
  · rcases List.mem_append.mp hx with earlier | last
    · exact h.named x earlier
    · rw [List.mem_singleton.mp last]
      exact named

variable [Engine ε]

theorem submit (h : Accounted index t p) (now : Nat) (w : Work) :
    Accounted index (t.after (.submit w, (Instruction.submit w).answer now p))
      (Processor.submit w p).2 := by
  simp only [Instruction.answer]
  have current := h.current
  rcases hw : p.workset with _ | ⟨s, _ | r⟩
  · rw [submit_noWorkset hw]
    exact h.of_lossless rfl (by simp)
  · rw [hw] at current
    rcases hr : w.run p.engine with ⟨e | o, m⟩
    · obtain ⟨log, hs⟩ := submit_failed hw hr
      rw [hs]
      refine ⟨h.belongs, h.handling, h.reports, h.named, w.label, e, [], ?_, ?_⟩
      · rw [h.belongs]
      · show t.current ++ _ = _
        rw [show t.current = [] from current]
        rfl
    · rw [submit_executed hw hr]
      refine of_lossless ?_ rfl (by simp)
      exact h.of_same rfl rfl rfl rfl
  · rw [hw] at current
    rw [submit_skipped hw]
    obtain ⟨failed, cause, skipped, rfl, losses⟩ := current
    refine ⟨h.belongs, h.handling, h.reports, h.named, failed, cause, skipped ++ [w.label], rfl, ?_⟩
    show t.current ++ _ = _
    rw [losses, lossesFrom, lossesFrom, List.map_append]
    rfl

theorem reports_forcedSteps (now : Nat) (s : Strategies) (p : Processor ε) :
    (forcedSteps now s p).2.journal.reports = p.journal.reports := by
  cases hn : s.needsCommit with
  | false => rw [forcedSteps_none hn]
  | true =>
    rcases hc : Engine.commit p.engine with ⟨e | stamp, m⟩
    · rw [forcedSteps_error hn hc]
    · obtain ⟨log, hf⟩ := forcedSteps_ok hn hc now
      rw [hf]
      rfl

/-- The only forced step that can fail is the commit. -/
theorem commit_of_forcedSteps {now : Nat} {s : Strategies} {e : Failure} :
    forcedSteps now s p = (.error e, p') →
      ∃ cause, e = .commit p.index cause ∧ ∃ m, s.needsCommit = true
        ∧ Engine.commit p.engine = (.error cause, m) := by
  intro hf
  cases hn : s.needsCommit with
  | false =>
    rw [forcedSteps_none hn] at hf
    cases hf
  | true =>
    rcases hc : Engine.commit p.engine with ⟨cause | stamp, m⟩
    · rw [forcedSteps_error hn hc] at hf
      cases hf
      exact ⟨cause, rfl, m, rfl, rfl⟩
    · obtain ⟨log, taken⟩ := forcedSteps_ok hn hc now
      rw [taken] at hf
      cases hf

theorem afterWorkset (h : Accounted index t p) (now : Nat) (listening : Bool)
    (value : Option Output) :
    Accounted index
      (t.after (.afterWorkset listening value,
        (Instruction.afterWorkset listening value).answer now p))
      (p.afterWorkset now listening value).processor := by
  simp only [Instruction.answer]
  have current := h.current
  rcases hw : p.workset with _ | ⟨s, _ | r⟩
  · rw [afterWorkset_noWorkset now listening hw]
    simpa [Tally.after, loss?] using h
  · rw [hw] at current
    have none : t.current = [] := current
    rcases hf : forcedSteps now s { p with workset := .none } with ⟨e | _, p'⟩
    · obtain ⟨cause, rfl, m, hn, hc⟩ := commit_of_forcedSteps hf
      obtain ⟨log, ended⟩ := afterWorkset_commitFailed now listening hw hn hc value
      rw [ended]
      refine h.of_ended (.error (.commit p.index cause)) rfl ?_ ?_ ?_ rfl
      · exact handling_report _ _
      · rw [none, h.belongs]
        show (p.journal.report _).reports = _
        simp [Journal.report, h.handling, Report.isEmpty, reportOf]
      · rw [none]
        rfl
    · have frame := forcedSteps_frame now s { p with workset := .none }
      have reports := reports_forcedSteps now s { p with workset := .none }
      rw [hf] at frame reports
      obtain ⟨log, ended⟩ := afterWorkset_done now listening hw hf value
      rw [ended]
      refine h.of_ended _ frame.1.index frame.1.handling ?_ ?_ frame.2
      · rw [none]
        cases value <;> exact reports.trans (List.append_nil _).symm
      · rw [none]
        cases value <;> rfl
  · rw [hw] at current
    obtain ⟨failed, cause, skipped, rfl, losses⟩ := current
    have reported := reportOf_lossesFrom index failed skipped cause
    obtain ⟨log, ended⟩ := afterWorkset_failed now listening hw value
    rw [ended]
    refine h.of_ended (.error cause) rfl ?_ ?_ ?_ rfl
    · exact handling_report _ _
    · rw [losses, reported]
      show (p.journal.report _).reports = _
      simp [Journal.report, h.handling, Report.isEmpty]
    · rw [losses, reported]
      rfl

omit [Engine ε] in
theorem beforeWorkset (h : Accounted index t p) (s : Strategies) :
    Accounted index t (Processor.beforeWorkset s p).2 := by
  have current := h.current
  cases hw : p.workset with
  | some o =>
    simp only [Processor.beforeWorkset, hw]
    exact h
  | none =>
    rw [hw] at current
    simp only [Processor.beforeWorkset, hw]
    exact ⟨h.belongs, h.handling, h.reports, h.named, current⟩

theorem commitPending (h : Accounted index t p) (now : Nat) :
    Accounted index t (p.commitPending now) := by
  obtain ⟨frame, workset⟩ := commitPending_frame now p
  refine h.of_same frame.index frame.handling ?_ workset
  unfold Processor.commitPending
  split
  · rcases hc : Engine.commit p.engine with ⟨e | stamp, m⟩
    · -- the failure is an exception and no report
      rw [commitNow_error hc]
      simp [Journal.exception, h.handling]
    · obtain ⟨log, committed⟩ := commitNow_ok hc now
      rw [committed]
      rfl
  · rfl

theorem call (h : Accounted index t p) (now : Nat) (i : Instruction) :
    Accounted index (t.after (i, i.answer now p)) (i.act now p) := by
  cases i with
  | submit w => exact h.submit now w
  | afterWorkset listening value => exact h.afterWorkset now listening value
  | beginBatch =>
    refine of_lossless ?_ rfl (by simp)
    simp only [Instruction.act, Processor.beginBatch]
    split <;> exact h.of_same rfl rfl rfl rfl
  | beforeWorkset s => exact (h.beforeWorkset s).of_lossless rfl (by simp)
  | endBatch =>
    refine of_lossless ?_ rfl (by simp)
    have closed : Accounted index t { p with batchOpen := false } := h.of_same rfl rfl rfl rfl
    rcases endBatch_cases now p with same | same | same <;> rw [Instruction.act, same]
    · exact h
    · exact closed
    · exact closed.commitPending now
  | commitPending => exact (h.commitPending now).of_lossless rfl (by simp)

theorem all (h : Accounted index t p) (deeds : List (Deed ε)) :
    Accounted index ((heard deeds p).foldl Tally.after t) (all deeds p) := by
  induction deeds generalizing t p with
  | nil => exact h
  | cons d rest ih =>
    rw [heard, List.foldl_append]
    cases d with
    | call now i => exact ih (h.call now i)
    | meddle f => exact ih (h.of_same rfl rfl rfl rfl)

end Accounted

/-! ## The end -/

variable [Engine ε]

theorem reports_close (now : Nat) (p : Processor ε) :
    (close now p).2.journal.reports = p.journal.reports := by
  obtain ⟨log, h⟩ := close_eq now p
  rw [h]
  show (flush now p).2.journal.reports = p.journal.reports
  unfold flush
  split
  · rcases hc : Engine.commit p.engine with ⟨e | stamp, m⟩
    · rw [commitNow_error hc]
    · obtain ⟨log, committed⟩ := commitNow_ok hc now
      rw [committed]
      rfl
  · rfl

/-- Every loss is in one report, in the order of the calls. -/
def AllReported (l : List (Instruction × Answer)) (reports : List Report) : Prop :=
  l.filterMap loss? = reports.flatMap Report.losses

/-- **What is reported of losses.**  Whatever was called before a close, and
whatever has happened to the engine, the handler has been given the reports of
the worksets that have ended, in their order, each with the losses of its workset
and no others.  So all losses have been reported, each of them once, but for those
of a workset that is still open, and of that one none is. -/
theorem losses_reported (index : IndexName) (engine : ε) (interval now : Nat)
    (deeds : List (Deed ε)) :
    let start : Processor ε :=
      { index := index, engine := engine, journal := { handling := .collecting },
        interval := interval }
    let p := all deeds start
    let tally := (heard deeds start).foldl Tally.after {}
    let reports := (close now p).2.journal.reports
    reports = tally.ended.filterMap (reportOf index)
      ∧ (∀ x ∈ tally.ended, x.1 = (reportOf index x).elim [] Report.losses)
      ∧ (heard deeds start).filterMap loss? = reports.flatMap Report.losses ++ tally.current
      ∧ (AllReported (heard deeds start) reports ↔ tally.current = [])
      ∧ (p.workset = none → AllReported (heard deeds start) reports) := by
  intro start p tally reports
  have h : Accounted index tally p :=
    Accounted.all (t := {}) (p := start) ⟨rfl, rfl, rfl, nofun, rfl⟩ deeds
  have same : reports = tally.ended.filterMap (reportOf index) :=
    (reports_close now p).trans h.reports
  have losses : reports.flatMap Report.losses = tally.ended.flatMap Prod.fst :=
    same ▸ losses_reports h.named
  have heard' : (heard deeds start).filterMap loss?
      = reports.flatMap Report.losses ++ tally.current := by
    rw [losses]
    exact (losses_tally (heard deeds start) {}).symm
  have complete : AllReported (heard deeds start) reports ↔ tally.current = [] := by
    unfold AllReported
    rw [heard']
    exact List.append_right_eq_self
  refine ⟨same, h.named, heard', complete, fun closed => complete.mpr ?_⟩
  have current := h.current
  rw [closed] at current
  exact current

/-- A workset that is still open at the close, with a work that has failed and one
that was skipped: there is no report, so neither of them is reported. -/
theorem losses_unreported_of_open_workset :
    let add (id : String) : Work := .change (.add ⟨id, []⟩)
    let start : Processor Engine.Memory :=
      { index := ⟨"books"⟩
        engine := { faults := { documents := ["a"] } }
        journal := { handling := .collecting }
        interval := 1000 }
    let deeds : List (Deed Engine.Memory) :=
      [.call 0 (.beforeWorkset {}), .call 0 (.submit (add "a")), .call 0 (.submit (add "b"))]
    let reports := (close 0 (all deeds start)).2.journal.reports
    (heard deeds start).map Prod.snd
        = [.result (.ok ()), .outcome (.ok .failed), .outcome (.ok .skipped)]
      ∧ reports = []
      ∧ ¬ AllReported (heard deeds start) reports := by
  intro add start deeds reports
  have none : reports = [] := rfl
  have lost : (heard deeds start).filterMap loss?
      = [.failed (add "a").label, .skipped (add "b").label] := rfl
  refine ⟨rfl, none, fun all => ?_⟩
  rw [AllReported, none, lost] at all
  cases all

end Processor

end WritePath
