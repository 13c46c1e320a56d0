import WritePath.Proofs.Processor.Delivery
import WritePath.Proofs.Processor.Naturality

/-!
# What a processor looks at

A `Turn` is a call on a processor over an index in memory, or something that
happens to the index from outside.  `acts` is the processor when a list of them
has happened, and `transcript` is what was answered.

Two things are there that hardly any turn looks at: what was told before
(`acts_recalling`), and, while a workset is open, what is in it (`Ignores`).  If
there are neither works nor the end of a workset among the turns, it might as
well be closed, but for the calls that are refused because it is open
(`free_reopened`).
-/

namespace WritePath.Processor

open Engine (Memory)

/-! ## One call -/

section

variable {δ ε : Type} [Engine δ] [Engine ε] {f : δ → ε} {past : Journal}

theorem faithful_recorded : Faithful (Recorded.engine : Recorded ε → ε) :=
  ⟨fun _ _ => rfl, fun _ _ => rfl, fun _ => rfl, fun _ => rfl, fun _ => rfl, fun _ => rfl⟩

theorem carried_act_of (hf : Consistent f) (now : Nat) {i : Instruction}
    (hw : ∀ w, i = .submit w → Through f w.run w.run) (p : Processor δ) :
    i.act now (p.carried f past) = (i.act now p).carried f past := by
  cases i with
  | beginBatch => exact congrArg Prod.snd (through_beginBatch p)
  | beforeWorkset s => exact congrArg Prod.snd (through_beforeWorkset s p)
  | submit w => exact congrArg Prod.snd (through_submit_of (hw w rfl) p)
  | afterWorkset listening value =>
    exact congrArg Settled.processor (carried_afterWorkset hf now listening value p)
  | endBatch => exact congrArg Prod.snd (through_endBatch hf now p)
  | commitPending => exact carried_commitPending hf now p

theorem carried_act (hf : Faithful f) (now : Nat) (i : Instruction) (p : Processor δ) :
    i.act now (p.carried f past) = (i.act now p).carried f past :=
  carried_act_of hf.consistent now (fun w _ => through_work hf w) p

theorem act_recorded (now : Nat) (i : Instruction) (p : Processor ε) :
    (i.act now p.recorded).carried Recorded.engine ⟨p.journal.handling, [], [], []⟩
      = i.act now p := by
  rw [← carried_act faithful_recorded]
  simp only [carried, Journal.nothing_after]
  rfl

/-- The name, the interval and the handler are the same. -/
structure Fixed (p p' : Processor ε) : Prop where
  index : p'.index = p.index
  interval : p'.interval = p.interval
  handling : p'.journal.handling = p.journal.handling

omit [Engine ε] in
theorem Fixed.trans {p p' p'' : Processor ε} (f : Fixed p p') (g : Fixed p' p'') :
    Fixed p p'' :=
  ⟨g.index.trans f.index, g.interval.trans f.interval, g.handling.trans f.handling⟩

omit [Engine ε] in
theorem Frame.fixed {p p' : Processor ε} (f : Frame p p') : Fixed p p' :=
  ⟨f.index, f.interval, f.handling⟩

theorem fixed_act (now : Nat) (i : Instruction) (p : Processor ε) : Fixed p (i.act now p) := by
  cases i with
  | beginBatch =>
    cases hb : p.batchOpen <;> simp only [Instruction.act, beginBatch, hb] <;>
      exact ⟨rfl, rfl, rfl⟩
  | beforeWorkset s =>
    cases hw : p.workset <;> simp only [Instruction.act, beforeWorkset, hw] <;>
      exact ⟨rfl, rfl, rfl⟩
  | submit w =>
    cases hw : p.workset with
    | none =>
      simp only [Instruction.act, submit_noWorkset hw, refuse]
      exact ⟨rfl, rfl, rfl⟩
    | some o =>
      obtain ⟨outcome, p', report, h, frame, -⟩ := submit_open hw w
      simp only [Instruction.act, h]
      exact frame.fixed
  | afterWorkset listening value => exact (afterWorkset_frame now listening value).1.fixed
  | endBatch =>
    have committed := (commitPending_frame now { p with batchOpen := false }).1
    rcases endBatch_cases now p with h | h | h <;> rw [Instruction.act, h]
    · exact ⟨rfl, rfl, rfl⟩
    · exact ⟨rfl, rfl, rfl⟩
    · exact ⟨committed.index, committed.interval, committed.handling⟩
  | commitPending => exact (commitPending_frame now p).1.fixed

end

/-! ## What is heard -/

inductive Answer where
  | nothing
  | result (r : Except Failure Unit)
  | outcome (r : Except Failure WorkOutcome)
  /-- The result of the call, and what the submitter is told. -/
  | settled (call : Except Failure Unit) (told : Option (Except Failure Output))

section

variable {ε : Type} [Engine ε]

def Instruction.answer (now : Nat) : Instruction → Processor ε → Answer
  | .beginBatch, p => .result (Processor.beginBatch p).1
  | .beforeWorkset s, p => .result (Processor.beforeWorkset s p).1
  | .submit w, p => .outcome (Processor.submit w p).1
  | .afterWorkset listening value, p =>
    .settled (p.afterWorkset now listening value).call (p.afterWorkset now listening value).told
  | .endBatch, p => .result (Processor.endBatch now p).1
  | .commitPending, _ => .nothing

/-- Over the other engine every call answers the same, whatever was told
before. -/
theorem answer_carried {δ : Type} [Engine δ] {f : δ → ε} {past : Journal} (hf : Faithful f)
    (now : Nat) (i : Instruction) (p : Processor δ) :
    i.answer now (p.carried f past) = i.answer now p := by
  cases i with
  | beginBatch => simp only [Instruction.answer, through_beginBatch p]
  | beforeWorkset s => simp only [Instruction.answer, through_beforeWorkset s p]
  | submit w => simp only [Instruction.answer, through_submit hf w p]
  | afterWorkset listening value =>
    simp only [Instruction.answer, carried_afterWorkset hf.consistent now listening value p]
    rfl
  | endBatch => simp only [Instruction.answer, through_endBatch hf.consistent now p]
  | commitPending => rfl

end

namespace Turn

def act : Turn → Processor Memory → Processor Memory
  | .call now i, p => i.act now p
  | .inject faults, p => { p with engine.faults := faults }

def answer : Turn → Processor Memory → Answer
  | .call now i, p => i.answer now p
  | .inject _, _ => .nothing

def work? : Turn → Option Work
  | .call _ (.submit w) => some w
  | _ => none

theorem eq_submit {t : Turn} {w : Work} :
    t.work? = some w → ∃ now, t = .call now (.submit w) := by
  intro h
  cases t with
  | inject faults => cases h
  | call now i =>
    cases i with
    | submit w' =>
      cases h
      exact ⟨now, rfl⟩
    | beginBatch | beforeWorkset | afterWorkset | endBatch | commitPending => cases h

def ends : Turn → Bool
  | .call _ (.afterWorkset _ _) => true
  | _ => false

/-- It makes a difference whether a workset is open. -/
def minds : Turn → Bool
  | .call _ .beginBatch | .call _ .commitPending | .inject _ => false
  | .call _ _ => true

end Turn

def acts (turns : List Turn) (p : Processor Memory) : Processor Memory :=
  turns.foldl (fun p t => t.act p) p

/-- What happened, each with its answer. -/
def transcript : List Turn → Processor Memory → List (Turn × Answer)
  | [], _ => []
  | t :: rest, p => (t, t.answer p) :: transcript rest (t.act p)

theorem acts_cons (t : Turn) (rest : List Turn) (p : Processor Memory) :
    acts (t :: rest) p = acts rest (t.act p) :=
  rfl

theorem acts_append (turns turns' : List Turn) (p : Processor Memory) :
    acts (turns ++ turns') p = acts turns' (acts turns p) :=
  List.foldl_append

theorem transcript_append (turns turns' : List Turn) (p : Processor Memory) :
    transcript (turns ++ turns') p
      = transcript turns p ++ transcript turns' (acts turns p) := by
  induction turns generalizing p with
  | nil => rfl
  | cons t rest ih => exact congrArg (List.cons _) (ih (t.act p))

theorem transcript_turns (turns : List Turn) (p : Processor Memory) :
    (transcript turns p).map Prod.fst = turns := by
  induction turns generalizing p with
  | nil => rfl
  | cons t rest ih => exact congrArg (List.cons t) (ih (t.act p))

theorem mem_transcript {turns : List Turn} {p : Processor Memory} {y : Turn × Answer} :
    y ∈ transcript turns p → y.1 ∈ turns := by
  intro hy
  rw [← transcript_turns turns p]
  exact List.mem_map_of_mem hy

theorem fixed_acts (turns : List Turn) (p : Processor Memory) : Fixed p (acts turns p) := by
  induction turns generalizing p with
  | nil => exact ⟨rfl, rfl, rfl⟩
  | cons t rest ih =>
    have step : Fixed p (t.act p) := by
      cases t with
      | call now i => exact fixed_act now i p
      | inject faults => exact ⟨rfl, rfl, rfl⟩
    exact step.trans (ih (t.act p))

/-! ## What was told before -/

section Recalling

variable (past : Journal) (p : Processor Memory)

theorem Turn.act_recalling (t : Turn) : t.act (p.recalling past) = (t.act p).recalling past := by
  cases t with
  | call now i => exact carried_act .id now i p
  | inject faults => rfl

theorem Turn.answer_recalling (t : Turn) : t.answer (p.recalling past) = t.answer p := by
  cases t with
  | call now i => exact answer_carried .id now i p
  | inject faults => rfl

theorem acts_recalling (turns : List Turn) :
    acts turns (p.recalling past) = (acts turns p).recalling past := by
  induction turns generalizing p with
  | nil => rfl
  | cons t rest ih =>
    rw [acts_cons, t.act_recalling]
    exact ih (t.act p)

theorem transcript_recalling (turns : List Turn) :
    transcript turns (p.recalling past) = transcript turns p := by
  induction turns generalizing p with
  | nil => rfl
  | cons t rest ih =>
    rw [transcript, t.act_recalling, t.answer_recalling, ih]
    rfl

end Recalling

/-- The processor with nothing told. -/
def forgetful {ε : Type} (p : Processor ε) : Processor ε :=
  { p with journal := p.journal.emptied }

theorem recalling_forgetful {ε : Type} (p : Processor ε) (j : Journal)
    (hj : j.handling = p.journal.handling) :
    p.forgetful.recalling j = { p with journal := j } := by
  simp [recalling, carried, forgetful, Journal.after, Journal.append, Journal.emptied, ← hj]

/-! ## What is in the open workset -/

/-- The processor with another workset. -/
def reopened {ε : Type} (o : Option OpenWorkset) (p : Processor ε) : Processor ε :=
  { p with workset := o }

/-- It makes no difference what is in the workset. -/
structure Ignores (t : Turn) (o : Option OpenWorkset) (p : Processor Memory) : Prop where
  act : t.act (p.reopened o) = (t.act p).reopened o
  answer : t.answer (p.reopened o) = t.answer p
  workset : (t.act p).workset = p.workset

section Ignores

variable {p : Processor Memory} {o : Option OpenWorkset}

theorem through_commitNow_reopened (now : Nat) :
    Through (reopened o) (commitNow now : Call (Processor Memory) Unit) (commitNow now) := by
  intro p
  simp only [commitNow, reopened]
  rcases Engine.commit p.engine with ⟨e | stamp, m⟩ <;> rfl

theorem ignores_commitPending (now : Nat) : Ignores (.call now .commitPending) o p := by
  refine ⟨?_, rfl, (commitPending_frame now p).2⟩
  show (p.reopened o).commitPending now = (p.commitPending now).reopened o
  simp only [commitPending, through_commitNow_reopened now p]
  rw [show (p.reopened o).pending = p.pending from rfl]
  split
  · rcases commitNow now p with ⟨e | _, p'⟩ <;> rfl
  · rfl

theorem ignores_of_minds {t : Turn} : t.minds = false → Ignores t o p := by
  intro h
  cases t with
  | inject faults => exact ⟨rfl, rfl, rfl⟩
  | call now i =>
    cases i with
    | beginBatch =>
      have batchOpen : (p.reopened o).batchOpen = p.batchOpen := rfl
      refine ⟨?_, ?_, ?_⟩ <;>
        simp only [Turn.act, Turn.answer, Instruction.act, Instruction.answer, beginBatch,
          batchOpen] <;>
        cases p.batchOpen <;> rfl
    | commitPending => exact ignores_commitPending now
    | beforeWorkset | submit | afterWorkset | endBatch => cases h

theorem refused_of_minds {t : Turn} (batchOpen : Bool) :
    t.minds = true → t.work? = none → t.ends = false →
      ∃ m : Misuse, ∀ (q : Processor Memory) (z : OpenWorkset), q.workset = some z →
        q.batchOpen = batchOpen →
        t.act q = q ∧ t.answer q = .result (.error (m.failure q.index)) := by
  intro asks idle going
  cases t with
  | inject faults => cases asks
  | call now i =>
    cases i with
    | beginBatch | commitPending => cases asks
    | submit w => cases idle
    | afterWorkset => cases going
    | beforeWorkset s =>
      refine ⟨.worksetIsOpen, fun q z hq _ => ?_⟩
      simp only [Turn.act, Turn.answer, Instruction.act, Instruction.answer, beforeWorkset, hq,
        refuse, and_self]
    | endBatch =>
      refine ⟨if batchOpen then .batchHoldsWorkset else .noBatch, fun q z hq hb => ?_⟩
      rw [← hb]
      cases hb' : q.batchOpen <;>
        simp only [Turn.act, Turn.answer, Instruction.act, Instruction.answer, endBatch, hq, hb',
          refuse] <;>
        exact ⟨rfl, rfl⟩

/-- But for the works and the end nobody looks at what is in an open workset. -/
theorem ignores_of_open {t : Turn} {x y : OpenWorkset} :
    t.work? = none → t.ends = false → p.workset = some x → Ignores t (some y) p := by
  intro idle going hw
  cases asks : t.minds with
  | false => exact ignores_of_minds asks
  | true =>
    obtain ⟨m, refused⟩ := refused_of_minds p.batchOpen asks idle going
    obtain ⟨same, answer⟩ := refused p x hw rfl
    obtain ⟨same', answer'⟩ := refused (p.reopened (some y)) y rfl rfl
    exact ⟨same'.trans (congrArg (reopened (some y)) same.symm), answer'.trans answer.symm,
      congrArg Processor.workset same⟩

end Ignores

/-- Turns may be left out that do nothing but to the open workset, if it makes no
difference to the others what is in it. -/
theorem filter_reopened (keep : Turn → Bool) (turns : List Turn) (o : Option OpenWorkset)
    {I : Processor Memory → Prop} {p : Processor Memory} :
    (∀ y ∈ transcript turns p, ∀ q, I q → y.2 = y.1.answer q →
      I (y.1.act q) ∧ if keep y.1 then Ignores y.1 o q
        else (y.1.act q).reopened o = q.reopened o) →
      I p →
      acts (turns.filter keep) (p.reopened o) = (acts turns p).reopened o
        ∧ transcript (turns.filter keep) (p.reopened o)
          = (transcript turns p).filter (fun y => keep y.1)
        ∧ I (acts turns p) := by
  intro step hp
  -- `I` holds of the processor with the open workset that is looked at, all along
  induction turns generalizing p with
  | nil => exact ⟨rfl, rfl, hp⟩
  | cons t rest ih =>
    obtain ⟨next, h⟩ := step (t, t.answer p) List.mem_cons_self p hp rfl
    obtain ⟨acts', heard, last⟩ := ih (fun y hy => step y (List.mem_cons_of_mem _ hy)) next
    cases kept : keep t with
    | true =>
      rw [if_pos kept] at h
      rw [List.filter_cons_of_pos kept, acts_cons, transcript, h.act, h.answer, heard]
      refine ⟨acts', ?_, last⟩
      simp [transcript, kept]
    | false =>
      rw [if_neg (by simp [kept])] at h
      rw [List.filter_cons_of_neg (by simp [kept]), ← h, heard]
      refine ⟨acts', ?_, last⟩
      simp [transcript, kept]

/-- Without what asks whether a workset is open. -/
def free (turns : List Turn) : List Turn :=
  turns.filter fun t => !t.minds

/-- An open workset without works may be missing, if what it refuses is missing
too. -/
theorem free_reopened {turns : List Turn} {p : Processor Memory} {x : OpenWorkset} :
    p.workset = some x → (∀ t ∈ turns, t.work? = none ∧ t.ends = false) →
      acts (free turns) (p.reopened none) = (acts turns p).reopened none
        ∧ transcript (free turns) (p.reopened none)
          = (transcript turns p).filter (fun z => !z.1.minds)
        ∧ (acts turns p).workset = some x := by
  intro hw plain
  refine filter_reopened (fun t => !t.minds) turns none (I := fun q => q.workset = some x) ?_ hw
  intro y hy q hq _
  cases asks : y.1.minds with
  | false =>
    have h : Ignores y.1 none q := ignores_of_minds asks
    exact ⟨h.workset.trans hq, h⟩
  | true =>
    obtain ⟨idle, going⟩ := plain y.1 (mem_transcript hy)
    obtain ⟨m, refused⟩ := refused_of_minds q.batchOpen asks idle going
    obtain ⟨same, -⟩ := refused q x hq rfl
    exact ⟨by rw [same]; exact hq, congrArg (reopened none) same⟩

end WritePath.Processor
