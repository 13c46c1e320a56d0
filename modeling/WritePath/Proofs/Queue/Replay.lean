import Mathlib.Data.List.Infix
import WritePath.Proofs.Processor.Calls
import WritePath.Proofs.Processor.Muted
import WritePath.Proofs.Queue.Ledger

/-!
# What the worker does with the processor

Seen from the processor, a run of the queue is a sequence of calls.
`History.act` makes these calls again, with nothing but the history to go by,
and `History.results` says what comes of every workset that is run.  Neither of
them knows who listens, so what they say does not depend on it.

The two agree with the run: the processor of the queue is the replayed one but
for its log (`Run.alike`), and every submitter whose workset is run is told what
the replay says (`Run.results_told`).
-/

namespace WritePath

variable {ε : Type} [Engine ε]

def Event.act (a : Event) (p : Processor ε) : Processor ε :=
  match a with
  | .received _ => (Processor.beginBatch p).2
  | .ran _ w now => (w.run now true p).processor
  | .ended now => (Processor.endBatch now p).2
  | .expired now => p.commitPending now
  | .finished now => (Processor.close now p).2
  | .arrived _ | .entered _ | .refused _ | .withdrew _ | .deafened _ | .spurned _ | .crashed _ _
  | .rejected _ | .drew _ | .drained | .passed | .stopped => p

/-- What the submitter of a workset is told that a processor runs. -/
def Workset.verdict (w : Workset) (now : Nat) (p : Processor ε) : Except Failure Output :=
  (w.run now true p).told.getD (.error (Queue.dropped p.index))

/-- The ticket that a step runs, with what comes of its workset. -/
def Event.results (a : Event) (p : Processor ε) : List (Nat × Except Failure Output) :=
  match a with
  | .ran ticket w now => [(ticket, w.verdict now p)]
  | _ => []

namespace History

def act (h : History) (p : Processor ε) : Processor ε :=
  h.foldl (fun p a => a.act p) p

def results : History → Processor ε → List (Nat × Except Failure Output)
  | [], _ => []
  | a :: h, p => a.results p ++ results h (a.act p)

@[simp] theorem act_snoc (h : History) (a : Event) (p : Processor ε) :
    act (h ++ [a]) p = a.act (act h p) := by
  simp [act]

@[simp] theorem act_cons (a : Event) (h : History) (p : Processor ε) :
    act (a :: h) p = act h (a.act p) := rfl

theorem results_append (h h' : History) (p : Processor ε) :
    results (h ++ h') p = results h p ++ results h' (act h p) := by
  induction h generalizing p with
  | nil => rfl
  | cons a h ih => simp [results, ih]

@[simp] theorem results_snoc (h : History) (a : Event) (p : Processor ε) :
    results (h ++ [a]) p = results h p ++ a.results (act h p) := by
  simp [results_append, results]

theorem results_tickets (h : History) (p : Processor ε) :
    (h.results p).map Prod.fst = h.runs.map Prod.fst := by
  induction h generalizing p with
  | nil => rfl
  | cons a h ih =>
    show (a.results p ++ results h (a.act p)).map Prod.fst
      = (a.runs ++ runs h).map Prod.fst
    rw [List.map_append, List.map_append, ih]
    congr 1
    cases a <;> rfl

end History

/-! ## The name of the index

It is part of what submitters are told, and no call changes it. -/

theorem Workset.index_run (w : Workset) (now : Nat) (listening : Bool)
    (p : Processor ε) :
    (w.run now listening p).processor.index = p.index := by
  cases hw : p.workset with
  | none => exact (w.run_frame now listening hw).1.index
  | some o =>
    simp only [Workset.run, Call.andThen, Processor.beforeWorkset, hw, Processor.refuse]

theorem Event.index_act (a : Event) (p : Processor ε) :
    (a.act p).index = p.index := by
  cases a with
  | received s =>
    show (Processor.beginBatch p).2.index = p.index
    unfold Processor.beginBatch
    split <;> rfl
  | ran ticket w now => exact w.index_run now true p
  | ended now => exact Processor.index_endBatch now p
  | expired now => exact (Processor.commitPending_frame now p).1.index
  | finished now => exact (Processor.close_frame now p).1.index
  | _ => rfl

theorem History.index_act (h : History) (p : Processor ε) :
    (act h p).index = p.index := by
  induction h generalizing p with
  | nil => rfl
  | cons a h ih => exact (ih (a.act p)).trans (a.index_act p)

namespace Queue

open Processor

omit [Engine ε] in
theorem alike_concluded (q : Queue ε) (e : Entry) (settled : Settled ε Output) :
    Alike (q.concluded e settled).processor settled.processor := by
  simp only [concluded, noteRejected]
  split <;> rfl

theorem alike_runWorkset (q : Queue ε) (e : Entry) (w : Workset) :
    Alike (q.runWorkset e w).processor (w.run q.now e.listening q.processor).processor := by
  rw [runWorkset_eq]
  exact alike_concluded ..

theorem alike_endBatch (q : Queue ε) (count : Nat) :
    Alike (q.endBatch count).processor (Processor.endBatch q.now q.processor).2 := by
  have quiet : Alike (Processor.endBatch q.now (q.note .trace
      ("Ran " ++ toString count ++ " work set(s) on " ++ q.index.label)).processor).2
      (Processor.endBatch q.now q.processor).2 :=
    (Heedless.endBatch q.now _ _ (alike_note _ _ _)).2
  refine Alike.trans ?_ quiet
  simp only [Queue.endBatch]
  split <;> rfl

/-- One step of a queue is the call of its event on the processor. -/
theorem Step.alike {q q' : Queue ε} {a : Event} (s : Step q a q') {p : Processor ε}
    (h : Alike p q.processor) : Alike (a.act p) q'.processor := by
  cases s with
  | arrive | enter | refuse | withdraw | deafen | spurn | crash | reject | draw | drain | pass
  | stop =>
    exact h
  | receive hp he hb =>
    have := (Heedless.beginBatch p q.processor h).2
    simpa [Event.act, Processor.beginBatch, hb] using this
  | @run e count w hp hj =>
    exact (run_alike h q.now true e.listening w).processor.trans (alike_runWorkset q e w).symm
  | @endBatch count hp =>
    exact (Heedless.endBatch q.now _ _ h).2.trans (alike_endBatch q count).symm
  | expire hp hd => exact h.commitPending q.now
  | finish => exact (Heedless.close q.now _ _ (h.trans (alike_note _ _ _).symm)).2

theorem Step.engine {q q' : Queue ε} {a : Event} (s : Step q a q') :
    q'.processor.engine = (a.act q.processor).engine :=
  ((s.alike rfl).congr Processor.engine fun _ _ => rfl).symm

theorem Step.told_prefix {q q' : Queue ε} {a : Event} (s : Step q a q') :
    q.told <+: q'.told := by
  cases s with
  | arrive | enter | withdraw | deafen | receive | draw | drain | pass | stop | expire
  | finish =>
    exact List.prefix_refl _
  | refuse | spurn | crash | reject => exact List.prefix_append _ _
  | @run e count w hp hj =>
    show q.told <+: (q.runWorkset e w).told
    rw [told_runWorkset]
    exact List.prefix_append _ _
  | endBatch hp => rw [told_endBatch]

/-- What a step tells, the processor has answered: nobody hears anything else
from a workset that is run. -/
theorem Step.results {q q' : Queue ε} {a : Event} (s : Step q a q')
    {p : Processor ε} (h : Alike p q.processor) :
    (a.results p).Sublist (q'.told.drop q.told.length) := by
  cases s with
  | @run e count w hp hj =>
    have same := run_alike h q.now true e.listening w
    have answer : w.verdict q.now p = q.outcome e w := by
      simp only [Workset.verdict, Queue.outcome, same.told, w.index_run, h.index]
    show [(e.ticket, w.verdict q.now p)].Sublist ((q.runWorkset e w).told.drop q.told.length)
    rw [told_runWorkset, List.drop_left, answer]
  | _ => exact List.nil_sublist _

/-- The replay of a run leaves the processor that the run leaves, but for its
log. -/
theorem Run.alike {q₀ q : Queue ε} {h : History} (r : Run q₀ h q) {p : Processor ε}
    (hp : Alike p q₀.processor) : Alike (h.act p) q.processor := by
  refine r.invariant (P := fun h q => Alike (h.act p) q.processor) hp ?_
  intro h a q₁ q₂ _ ih s
  rw [History.act_snoc]
  exact s.alike ih

theorem Run.index {p : Processor ε} {size : Nat} {h : History} {q : Queue ε}
    (r : Run (Queue.start p size) h q) : q.index = p.index := by
  have alike : Alike (h.act p) q.processor := r.alike rfl
  exact alike.index.symm.trans (h.index_act p)

theorem Run.results_told {p : Processor ε} {size : Nat} {h : History} {q : Queue ε}
    (r : Run (Queue.start p size) h q) : (h.results p).Sublist q.told := by
  refine r.invariant (P := fun h q => (h.results p).Sublist q.told) (List.nil_sublist _) ?_
  intro h a q₁ q₂ r ih s
  obtain ⟨later, told⟩ := s.told_prefix
  have answered := s.results (r.alike (p := p) rfl)
  rw [← told, List.drop_left] at answered
  rw [History.results_snoc, ← told]
  exact ih.append answered

/-- Whose workset is run is told what the processor answers to it. -/
theorem Run.ran_told {p : Processor ε} {size : Nat} {h : History} {q : Queue ε}
    (r : Run (Queue.start p size) h q) {before after : History} {ticket now : Nat}
    {w : Workset} (hh : h = before ++ .ran ticket w now :: after) :
    (ticket, w.verdict now (before.act p)) ∈ q.told := by
  refine r.results_told.subset ?_
  rw [hh, History.results_append]
  exact List.mem_append_right _ List.mem_cons_self

theorem Run.refused_told {p : Processor ε} {size : Nat} {h : History} {q : Queue ε}
    (r : Run (Queue.start p size) h q) :
    ∀ s ∈ h.refusals, (s.1, .error (.closed p.index)) ∈ q.told := by
  refine r.invariant
    (P := fun h q => ∀ s ∈ h.refusals, (s.1, .error (.closed p.index)) ∈ q.told) nofun ?_
  intro h a q₁ q₂ r ih st s hs
  rw [History.refusals_snoc, List.mem_append] at hs
  rcases hs with earlier | now
  · exact st.told_prefix.subset (ih s earlier)
  · cases st with
    | @refuse before after e hb hr =>
      obtain rfl := List.mem_singleton.mp now
      rw [← r.index]
      exact List.mem_append_right _ (List.mem_singleton.mpr rfl)
    | _ => cases now

end Queue

end WritePath
