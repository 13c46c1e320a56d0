import WritePath.Proofs.Processor.Turns

/-!
# Calls out of order

Whoever makes the calls of a processor can tell from the answers whether a batch
is open, and whether a workset is, with which strategies, and whether one of its
works has failed (`Stage`).  Nothing else decides whether a call is in order:

* `beginBatch` is refused while a batch is open, `beforeWorkset` while a workset
  is, `submit` while none is, and `endBatch` while no batch is open or a workset
  still is (`Refuses`);
* `afterWorkset` is refused while no workset is open, and it fails if a workset
  without failure, whose forced commit went through, ends without a value.

Such a failure is an illegal state and no other, and but for the workset without
a value, which is over then, a call that fails changes nothing at all
(`Orderly`).  So of everything that happens to a processor the calls that were
refused may be left out (`all_heeded`).

All this holds over any engine, whatever happens to it between the calls.
-/

namespace WritePath.Processor

/-! ## What the caller knows -/

/-- What is known from the calls and their answers. -/
structure Stage where
  batch : Bool := false
  /-- The strategies of the open workset, and whether one of its works has
  failed. -/
  workset : Option (Strategies × Bool) := none

/-- What is known after one more call with its answer. -/
def Stage.after (s : Stage) : Instruction × Answer → Stage
  | (.beginBatch, .result (.ok _)) => { s with batch := true }
  | (.endBatch, .result (.ok _)) => { s with batch := false }
  | (.beforeWorkset t, .result (.ok _)) => { s with workset := some (t, false) }
  | (.submit _, .outcome (.ok .failed)) =>
    { s with workset := s.workset.map fun open' => (open'.1, true) }
  | (.afterWorkset _ _, .settled _ (some _)) => { s with workset := none }
  | _ => s

/-- The call failed, and no submitter was told anything. -/
def Answer.isRefusal : Answer → Bool
  | .result (.error _) | .outcome (.error _) | .settled (.error _) none => true
  | _ => false

inductive Deed (ε : Type) where
  | call (now : Nat) (i : Instruction)
  /-- The engine changes from outside. -/
  | meddle (f : ε → ε)

variable {ε : Type}

def stage (p : Processor ε) : Stage where
  batch := p.batchOpen
  workset := p.workset.map fun o => (o.strategies, o.report.isSome)

@[simp] theorem stage_batch (p : Processor ε) : p.stage.batch = p.batchOpen := rfl

theorem stage_workset {p : Processor ε} {o : Option OpenWorkset} (hw : p.workset = o) :
    p.stage.workset = o.map fun o => (o.strategies, o.report.isSome) := by
  rw [stage, hw]

theorem stage_congr {p p' : Processor ε} (hb : p'.batchOpen = p.batchOpen)
    (hw : p'.workset = p.workset) : p'.stage = p.stage := by
  rw [stage, stage, hb, hw]

variable [Engine ε]

namespace Deed

def act : Deed ε → Processor ε → Processor ε
  | .call now i, p => i.act now p
  | .meddle f, p => { p with engine := f p.engine }

def heard : Deed ε → Processor ε → List (Instruction × Answer)
  | .call now i, p => [(i, i.answer now p)]
  | .meddle _, _ => []

def refused (d : Deed ε) (p : Processor ε) : Bool :=
  (d.heard p).any fun y => y.2.isRefusal

end Deed

def all (deeds : List (Deed ε)) (p : Processor ε) : Processor ε :=
  deeds.foldl (fun p d => d.act p) p

def heard : List (Deed ε) → Processor ε → List (Instruction × Answer)
  | [], _ => []
  | d :: rest, p => d.heard p ++ heard rest (d.act p)

/-- What happened, without the calls that were refused. -/
def heeded : List (Deed ε) → Processor ε → List (Deed ε)
  | [], _ => []
  | d :: rest, p =>
    if d.refused p then heeded rest (d.act p) else d :: heeded rest (d.act p)

/-- The stage that follows from the calls and their answers is the one that the
processor is in. -/
theorem stage_act (now : Nat) (i : Instruction) (p : Processor ε) :
    (i.act now p).stage = p.stage.after (i, i.answer now p) := by
  cases i with
  | beginBatch =>
    simp only [Instruction.act, Instruction.answer, beginBatch]
    split <;> rfl
  | beforeWorkset t =>
    cases hw : p.workset <;>
      simp only [Instruction.act, Instruction.answer, beforeWorkset, hw] <;> rfl
  | submit w =>
    rcases hw : p.workset with _ | ⟨t, _ | r⟩
    · simp only [Instruction.act, Instruction.answer, submit_noWorkset hw]
      rfl
    · rcases hr : w.run p.engine with ⟨e | o, m⟩
      · obtain ⟨log, h⟩ := submit_failed hw hr
        simp only [Instruction.act, Instruction.answer, h, Stage.after, stage_workset hw]
        rfl
      · simp only [Instruction.act, Instruction.answer, submit_executed hw hr]
        rfl
    · simp only [Instruction.act, Instruction.answer, submit_skipped hw]
      exact congrArg (Stage.mk p.batchOpen) (stage_workset hw).symm
  | afterWorkset listening value =>
    obtain ⟨frame, closed, told⟩ := afterWorkset_frame (p := p) now listening value
    simp only [Instruction.act, Instruction.answer]
    cases hw : p.workset with
    | none =>
      rw [afterWorkset_noWorkset now listening hw]
      rfl
    | some o =>
      obtain ⟨r, told⟩ := Option.isSome_iff_exists.mp (told (hw ▸ rfl))
      rw [told, stage, closed, frame.batchOpen]
      rfl
  | endBatch =>
    cases hb : p.batchOpen with
    | false =>
      simp only [Instruction.act, Instruction.answer, endBatch, hb]
      rfl
    | true =>
      cases hw : p.workset with
      | some o =>
        simp only [Instruction.act, Instruction.answer, endBatch, hb, hw]
        rfl
      | none =>
        have closed := endBatch_idle now hb hw
        simp only [Instruction.act, Instruction.answer, endBatch_open now hb hw] at closed ⊢
        rw [stage, closed.batchOpen, closed.workset, Stage.after, stage_workset hw]
  | commitPending =>
    obtain ⟨frame, workset⟩ := commitPending_frame now p
    exact stage_congr frame.batchOpen workset

theorem stage_all (deeds : List (Deed ε)) (p : Processor ε) :
    (all deeds p).stage = (heard deeds p).foldl Stage.after p.stage := by
  induction deeds generalizing p with
  | nil => rfl
  | cons d rest ih =>
    have step : (d.act p).stage = (d.heard p).foldl Stage.after p.stage := by
      cases d with
      | call now i => exact stage_act now i p
      | meddle f => rfl
    rw [heard, List.foldl_append, ← step]
    exact ih (d.act p)

/-! ## One call -/

/-- A call fails exactly if it is out of order, its failure is an illegal state,
and it has changed nothing then. -/
structure Refuses {α : Type} (out : Prop) (call : Call (Processor ε) α) (p : Processor ε) :
    Prop where
  iff : (∃ e, (call p).1 = .error e) ↔ out
  illegal : ∀ e, (call p).1 = .error e → ∃ m : Misuse, e = .illegalState (m.message p.index)
  unchanged : ∀ e, (call p).1 = .error e → (call p).2 = p

section Refuses

omit [Engine ε]

variable {α : Type} {out : Prop} {r : Except Failure α}

theorem fails_of_misuse {index : IndexName} (m : Misuse) (ho : out)
    (hr : r = .error (.illegalState (m.message index))) :
    ((∃ e, r = .error e) ↔ out)
      ∧ ∀ e, r = .error e → ∃ m : Misuse, e = .illegalState (m.message index) := by
  refine ⟨⟨fun _ => ho, fun _ => ⟨_, hr⟩⟩, fun e he => ⟨m, ?_⟩⟩
  rw [hr] at he
  cases he
  rfl

theorem fails_of_ok {index : IndexName} {a : α} (ho : ¬ out) (hr : r = .ok a) :
    ((∃ e, r = .error e) ↔ out)
      ∧ ∀ e, r = .error e → ∃ m : Misuse, e = .illegalState (m.message index) := by
  have taken : ∀ e, r ≠ .error e := by
    intro e he
    rw [hr] at he
    cases he
  refine ⟨⟨?_, fun h => absurd h ho⟩, fun e he => absurd he (taken e)⟩
  rintro ⟨e, he⟩
  exact absurd he (taken e)

variable {call : Call (Processor ε) α} {p p' : Processor ε}

theorem Refuses.of_refuse {m : Misuse} (ho : out) (hc : call p = refuse m p) :
    Refuses out call p := by
  obtain ⟨iff, illegal⟩ := fails_of_misuse m ho (congrArg Prod.fst hc)
  refine ⟨iff, illegal, fun e _ => ?_⟩
  rw [hc]
  rfl

theorem Refuses.of_ok {a : α} (ho : ¬ out) (hc : call p = (.ok a, p')) :
    Refuses out call p := by
  obtain ⟨iff, illegal⟩ := fails_of_ok ho (congrArg Prod.fst hc)
  exact ⟨iff, illegal, fun e he => absurd (iff.mp ⟨e, he⟩) ho⟩

theorem refuses_beginBatch (p : Processor ε) : Refuses (p.stage.batch = true) beginBatch p := by
  cases hb : p.batchOpen with
  | true => exact .of_refuse hb (if_pos hb)
  | false =>
    have opened : beginBatch p = (.ok (), { p with batchOpen := true }) := if_neg (by simp [hb])
    exact .of_ok (by simp [hb]) opened

theorem refuses_beforeWorkset (t : Strategies) (p : Processor ε) :
    Refuses (p.stage.workset.isSome = true) (beforeWorkset t) p := by
  cases hw : p.workset with
  | some o =>
    refine .of_refuse (m := .worksetIsOpen) (by simp [stage_workset hw]) ?_
    simp only [beforeWorkset, hw]
  | none => exact .of_ok (by simp [stage_workset hw]) (by simp only [beforeWorkset, hw]; rfl)

end Refuses

theorem refuses_submit (w : Work) (p : Processor ε) :
    Refuses (p.stage.workset = none) (submit w) p := by
  cases hw : p.workset with
  | none => exact .of_refuse (stage_workset hw) (submit_noWorkset hw w)
  | some o =>
    obtain ⟨outcome, p', report, h, -, -⟩ := submit_open hw w
    exact .of_ok (by simp [stage_workset hw]) h

theorem refuses_endBatch (now : Nat) (p : Processor ε) :
    Refuses (p.stage.batch = false ∨ p.stage.workset.isSome = true) (endBatch now) p := by
  cases hb : p.batchOpen with
  | false =>
    refine .of_refuse (m := .noBatch) (.inl hb) ?_
    simp [endBatch, hb]
  | true =>
    cases hw : p.workset with
    | some o =>
      refine .of_refuse (m := .batchHoldsWorkset) (.inr (by simp [stage_workset hw])) ?_
      simp only [endBatch, hb, hw, if_true]
    | none => exact .of_ok (by simp [hb, stage_workset hw]) (endBatch_open now hb hw)

/-- A workset without failure has ended, its forced commit, if any, has gone
through, and there is no value for its submitter. -/
def EndsEmpty {α : Type} (s : Stage) (engine : ε) (value : Option α) : Prop :=
  ∃ t, s.workset = some (t, false)
    ∧ (t.needsCommit = true → ∃ stamp m, Engine.commit engine = (.ok stamp, m))
    ∧ value = none

section Ends

variable {α : Type} (now : Nat) (listening : Bool) (value : Option α) (p : Processor ε)

/-- The end of an open workset is out of order only if it is empty. -/
theorem endsEmpty_iff {s : Stage} {t : Strategies} {failed : Bool} (engine : ε)
    (workset : s.workset = some (t, failed)) :
    s.workset = none ∨ EndsEmpty s engine value
      ↔ failed = false
        ∧ (t.needsCommit = true → ∃ stamp m, Engine.commit engine = (.ok stamp, m))
        ∧ value = none := by
  constructor
  · rintro (none | ⟨t', same, rest⟩)
    · cases workset.symm.trans none
    · cases workset.symm.trans same
      exact ⟨rfl, rest⟩
  · rintro ⟨rfl, rest⟩
    exact .inr ⟨t, workset, rest⟩

theorem forcedSteps_ok_iff (t : Strategies) :
    (∃ p', forcedSteps now t p = (.ok (), p'))
      ↔ (t.needsCommit = true → ∃ stamp m, Engine.commit p.engine = (.ok stamp, m)) := by
  cases hn : t.needsCommit with
  | false => simp [forcedSteps_none hn]
  | true =>
    rcases hc : Engine.commit p.engine with ⟨e | stamp, m⟩
    · simp [forcedSteps_error hn hc]
    · obtain ⟨log, h⟩ := forcedSteps_ok hn hc now
      simp [h]

theorem afterWorkset_uncommitted {t : Strategies} {e : Failure} {p' : Processor ε}
    (hw : p.workset = some ⟨t, none⟩)
    (hf : forcedSteps now t { p with workset := none } = (.error e, p')) :
    (p.afterWorkset now listening value).call = .ok () := by
  simp only [afterWorkset, hw, hf]
  obtain ⟨log, told⟩ := tell_eq listening (.ok ()) (.error e : Except Failure α)
    { p' with journal := p'.journal.report (Report.addError ⟨p'.index, [], [], []⟩ e) }
  exact congrArg Settled.call told

theorem fails_afterWorkset :
    ((∃ e, (p.afterWorkset now listening value).call = .error e)
        ↔ p.stage.workset = none ∨ EndsEmpty p.stage p.engine value)
      ∧ ∀ e, (p.afterWorkset now listening value).call = .error e →
        ∃ m : Misuse, e = .illegalState (m.message p.index) := by
  rcases hw : p.workset with _ | ⟨t, _ | r⟩
  · rw [afterWorkset_noWorkset now listening hw]
    exact fails_of_misuse .noWorkset (.inl (stage_workset hw)) rfl
  · have out := endsEmpty_iff value p.engine (stage_workset hw)
    have through := forcedSteps_ok_iff now { p with workset := none } t
    have frame := (forcedSteps_frame now t { p with workset := none }).1
    rcases hf : forcedSteps now t { p with workset := none } with ⟨e | _, p'⟩
    · refine fails_of_ok (fun empty => ?_) (afterWorkset_uncommitted now listening value p hw hf)
      obtain ⟨-, committed, -⟩ := out.mp empty
      obtain ⟨p₁, taken⟩ := through.mpr committed
      cases hf.symm.trans taken
    · have index : p'.index = p.index := by
        rw [hf] at frame
        exact frame.index
      obtain ⟨log, done⟩ := afterWorkset_done now listening hw hf value
      rw [done, ← index]
      cases value with
      | none => exact fails_of_misuse .noValue (out.mpr ⟨rfl, through.mp ⟨p', hf⟩, rfl⟩) rfl
      | some v => exact fails_of_ok (fun empty => nomatch (out.mp empty).2.2) rfl
  · have out := endsEmpty_iff value p.engine (stage_workset hw)
    obtain ⟨log, failed⟩ := afterWorkset_failed now listening hw value
    rw [failed]
    exact fails_of_ok (fun empty => nomatch (out.mp empty).1) rfl

/-- Without an open workset its end tells nobody anything and changes nothing. -/
theorem afterWorkset_unchanged :
    p.stage.workset = none →
      (p.afterWorkset now listening value).processor = p
        ∧ (p.afterWorkset now listening value).told = none := by
  intro closed
  have hw : p.workset = none := by simpa [stage] using closed
  rw [afterWorkset_noWorkset now listening hw]
  exact ⟨rfl, rfl⟩

theorem workset_of_untold :
    (p.afterWorkset now listening value).told = none → p.stage.workset = none := by
  intro untold
  cases hw : p.workset with
  | none => exact stage_workset hw
  | some o =>
    have told := (afterWorkset_frame (p := p) now listening value).2.2 (hw ▸ rfl)
    rw [untold] at told
    cases told

end Ends

/-- At this stage the calls out of order fail, and no others do. -/
structure Orderly (s : Stage) (p : Processor ε) : Prop where
  beginBatch : Refuses (s.batch = true) beginBatch p
  beforeWorkset : ∀ t, Refuses (s.workset.isSome = true) (beforeWorkset t) p
  submit : ∀ w, Refuses (s.workset = none) (submit w) p
  endBatch : ∀ now, Refuses (s.batch = false ∨ s.workset.isSome = true) (endBatch now) p
  afterWorkset : ∀ {α : Type} (now : Nat) (listening : Bool) (value : Option α),
    (∃ e, (p.afterWorkset now listening value).call = .error e)
      ↔ s.workset = none ∨ EndsEmpty s p.engine value
  afterWorkset_illegal : ∀ {α : Type} (now : Nat) (listening : Bool) (value : Option α) e,
    (p.afterWorkset now listening value).call = .error e →
      ∃ m : Misuse, e = .illegalState (m.message p.index)
  afterWorkset_unchanged : ∀ {α : Type} (now : Nat) (listening : Bool) (value : Option α),
    s.workset = none →
      (p.afterWorkset now listening value).processor = p
        ∧ (p.afterWorkset now listening value).told = none

theorem orderly (p : Processor ε) : Orderly p.stage p where
  beginBatch := refuses_beginBatch p
  beforeWorkset t := refuses_beforeWorkset t p
  submit w := refuses_submit w p
  endBatch now := refuses_endBatch now p
  afterWorkset now listening value := (fails_afterWorkset now listening value p).1
  afterWorkset_illegal now listening value := (fails_afterWorkset now listening value p).2
  afterWorkset_unchanged now listening value := afterWorkset_unchanged now listening value p

/-! ## A whole run -/

section Refusal

omit [Engine ε]

theorem Answer.of_result {r : Except Failure Unit} :
    (Answer.result r).isRefusal = true → ∃ e, r = .error e := by
  intro refusal
  cases r with
  | error e => exact ⟨e, rfl⟩
  | ok _ => cases refusal

theorem Answer.of_outcome {r : Except Failure WorkOutcome} :
    (Answer.outcome r).isRefusal = true → ∃ e, r = .error e := by
  intro refusal
  cases r with
  | error e => exact ⟨e, rfl⟩
  | ok _ => cases refusal

theorem Answer.of_settled {call : Except Failure Unit} {told : Option (Except Failure Output)} :
    (Answer.settled call told).isRefusal = true → told = none := by
  intro refusal
  cases told with
  | none => rfl
  | some _ => cases call <;> cases refusal

end Refusal

theorem act_of_refusal {now : Nat} {i : Instruction} {p : Processor ε} :
    (i.answer now p).isRefusal = true → i.act now p = p := by
  intro refusal
  cases i with
  | beginBatch =>
    obtain ⟨e, h⟩ := Answer.of_result refusal
    exact (refuses_beginBatch p).unchanged e h
  | beforeWorkset t =>
    obtain ⟨e, h⟩ := Answer.of_result refusal
    exact (refuses_beforeWorkset t p).unchanged e h
  | submit w =>
    obtain ⟨e, h⟩ := Answer.of_outcome refusal
    exact (refuses_submit w p).unchanged e h
  | afterWorkset listening value =>
    have closed := workset_of_untold now listening value p (Answer.of_settled refusal)
    exact (afterWorkset_unchanged now listening value p closed).1
  | endBatch =>
    obtain ⟨e, h⟩ := Answer.of_result refusal
    exact (refuses_endBatch now p).unchanged e h
  | commitPending => cases refusal

theorem Deed.act_of_refused {d : Deed ε} {p : Processor ε} : d.refused p = true → d.act p = p := by
  intro refused
  cases d with
  | call now i =>
    have refusal : (i.answer now p).isRefusal = true := by
      simpa [Deed.refused, Deed.heard] using refused
    exact act_of_refusal refusal
  | meddle f => cases refused

theorem Deed.filter_heard (d : Deed ε) (p : Processor ε) :
    (d.heard p).filter (fun y => !y.2.isRefusal) = if d.refused p then [] else d.heard p := by
  cases d with
  | call now i => cases h : (i.answer now p).isRefusal <;> simp [Deed.heard, Deed.refused, h]
  | meddle f => rfl

/-- Without the calls that were refused everything else happens as it did, and
is answered as it was. -/
theorem all_heeded (deeds : List (Deed ε)) (p : Processor ε) :
    all (heeded deeds p) p = all deeds p
      ∧ heard (heeded deeds p) p = (heard deeds p).filter (fun y => !y.2.isRefusal) := by
  induction deeds generalizing p with
  | nil => exact ⟨rfl, rfl⟩
  | cons d rest ih =>
    obtain ⟨same, answers⟩ := ih (d.act p)
    rw [heard, List.filter_append, d.filter_heard p, heeded]
    cases refused : d.refused p with
    | true =>
      have unchanged := Deed.act_of_refused refused
      rw [unchanged] at same answers
      simp only [if_true, List.nil_append, unchanged]
      exact ⟨same.trans (congrArg (all rest) unchanged.symm), answers⟩
    | false =>
      simp only [Bool.false_eq_true, if_false]
      exact ⟨same, congrArg (d.heard p ++ ·) answers⟩

/-- **Calls out of order are refused, and nothing comes of them.**  Whatever was
called before, and whatever has happened to the engine: the calls and answers so
far tell exactly which calls fail.  Every failure is an illegal state, and but
for a workset that ends without a value nothing has changed.  What happened would
have happened in the same way without all the calls that were refused. -/
theorem misuse_harmless (index : IndexName) (engine : ε) (journal : Journal) (interval : Nat)
    (deeds : List (Deed ε)) :
    let start : Processor ε :=
      { index := index, engine := engine, journal := journal, interval := interval }
    Orderly ((heard deeds start).foldl Stage.after {}) (all deeds start)
      ∧ all (heeded deeds start) start = all deeds start
      ∧ heard (heeded deeds start) start
        = (heard deeds start).filter (fun y => !y.2.isRefusal) := by
  intro start
  have stage : (all deeds start).stage = (heard deeds start).foldl Stage.after {} :=
    stage_all deeds start
  rw [← stage]
  exact ⟨orderly _, all_heeded deeds start⟩

end WritePath.Processor
