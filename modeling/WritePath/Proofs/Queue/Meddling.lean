import WritePath.Engine.Memory
import WritePath.Proofs.Engine.Watched
import WritePath.Proofs.Queue.Endings

/-!
# Runs in which calls are made to fail at will

In a `Run` of a queue the engine has no other users.  Here somebody else may get
at the engine in memory, between the steps of the queue and between the works of
a workset, and tell other calls to fail from then on (`Move`).  Everything else
is as in a `Run`, and every `Run` is one of these runs (`Run.moves`).

What is known of the queue carries over, since it does not depend on what the
engine answers: the `Ledger`, and that the worker keeps the queue `Tidy`.  What
is new in the history are the `passages`, that is the worksets that were run,
each with what became of its works.
-/

namespace WritePath

open Engine (Memory Faults)

def Processor.meddled {ε : Type} (g : Option (ε → ε)) (p : Processor ε) : Processor ε :=
  match g with
  | some g => { p with engine := g p.engine }
  | none => p

theorem Processor.meddled_frame {ε : Type} (g : Option (ε → ε)) (p : Processor ε) :
    Frame p (p.meddled g) ∧ (p.meddled g).workset = p.workset := by
  cases g <;> exact ⟨⟨rfl, rfl, rfl, rfl⟩, rfl⟩

namespace Workset

variable {ε : Type} [Engine ε]

/-- Submits works one after the other.  Before each of them, and once after the
last one, the next thing on the agenda happens to the engine, as long as there
is one. -/
def submitUnder : List (ε → ε) → List Work → Call (Processor ε) (List WorkOutcome)
  | agenda, [] => fun p => (.ok [], p.meddled agenda.head?)
  | agenda, w :: rest => fun p =>
    Call.andThen (Processor.submit w)
      (fun outcome => Call.map (outcome :: ·) (submitUnder agenda.tail rest))
      (p.meddled agenda.head?)

def attemptUnder (agenda : List (ε → ε)) (w : Workset) :
    Call (Processor ε) (List WorkOutcome) :=
  Call.andThen (Processor.beforeWorkset w.strategies) fun _ => submitUnder agenda w.works

def runUnder (now : Nat) (listening : Bool) (agenda : List (ε → ε)) (w : Workset)
    (p : Processor ε) : Settled ε Output :=
  match attemptUnder agenda w p with
  | (.ok outcomes, p) => p.afterWorkset now listening (w.answer outcomes)
  | (.error e, p) => ⟨.error e, none, p⟩

def outcomesUnder (agenda : List (ε → ε)) (w : Workset) (p : Processor ε) : List WorkOutcome :=
  match (attemptUnder agenda w p).1 with
  | .ok outcomes => outcomes
  | .error _ => []

theorem submitUnder_nil (works : List Work) :
    submitUnder [] works = (submitAll works : Call (Processor ε) (List WorkOutcome)) := by
  induction works with
  | nil => rfl
  | cons w rest ih =>
    funext p
    simp only [submitUnder, submitAll, List.head?_nil, List.tail_nil, Processor.meddled, ih]

/-- With nothing on the agenda nothing is different. -/
theorem runUnder_nil (now : Nat) (listening : Bool) (w : Workset) (p : Processor ε) :
    w.runUnder now listening [] p = w.run now listening p := by
  rw [runUnder, attemptUnder, submitUnder_nil]
  rfl

theorem submitUnder_open (works : List Work) (agenda : List (ε → ε)) {p : Processor ε}
    {o : OpenWorkset} (hw : p.workset = some o) :
    ∃ outcomes p' report, submitUnder agenda works p = (.ok outcomes, p')
      ∧ Processor.Frame p p' ∧ p'.workset = some ⟨o.strategies, report⟩ := by
  induction works generalizing p o agenda with
  | nil =>
    obtain ⟨frame, workset⟩ := p.meddled_frame agenda.head?
    exact ⟨[], _, o.report, rfl, frame, workset.trans hw⟩
  | cons w rest ih =>
    obtain ⟨frame, workset⟩ := p.meddled_frame agenda.head?
    obtain ⟨outcome, p₁, report₁, h₁, frame₁, hw₁⟩ :=
      Processor.submit_open (workset.trans hw) w
    obtain ⟨outcomes, p₂, report₂, h₂, frame₂, hw₂⟩ := ih agenda.tail hw₁
    refine ⟨outcome :: outcomes, p₂, report₂, ?_, frame.trans (frame₁.trans frame₂), hw₂⟩
    simp only [submitUnder, Call.andThen, h₁, Call.map, h₂, Except.map]

theorem runUnder_frame (now : Nat) (listening : Bool) (agenda : List (ε → ε)) (w : Workset)
    {p : Processor ε} (hw : p.workset = none) :
    Processor.Frame p (w.runUnder now listening agenda p).processor
      ∧ (w.runUnder now listening agenda p).processor.workset = none := by
  obtain ⟨outcomes, p', report, h, frame, hw'⟩ :=
    submitUnder_open w.works agenda
      (p := { p with workset := some ⟨w.strategies, none⟩ }) rfl
  have hr : w.runUnder now listening agenda p
      = p'.afterWorkset now listening (w.answer outcomes) := by
    simp only [runUnder, attemptUnder, Call.andThen, Processor.beforeWorkset, hw, h]
  obtain ⟨frame', none', -⟩ :=
    Processor.afterWorkset_frame (p := p') now listening (w.answer outcomes)
  rw [hr]
  have before : Processor.Frame p p' :=
    ⟨frame.index, frame.interval, frame.handling, frame.batchOpen⟩
  exact ⟨before.trans frame', none'⟩

omit [Engine ε] in
theorem changed_meddled {agenda : List (Watched ε → Watched ε)}
    (quiet : ∀ g ∈ agenda, ∀ x : Watched ε, (g x).asked = x.asked) (p : Processor (Watched ε)) :
    p.engine.Changed (p.meddled agenda.head?).engine := by
  cases agenda with
  | nil => exact .refl _
  | cons g rest =>
    refine ⟨[], ?_, by simp⟩
    rw [List.append_nil]
    exact quiet g List.mem_cons_self p.engine

theorem changed_submitUnder (works : List Work) {agenda : List (Watched ε → Watched ε)}
    (p : Processor (Watched ε)) :
    (∀ g ∈ agenda, ∀ x : Watched ε, (g x).asked = x.asked) →
      p.engine.Changed (submitUnder agenda works p).2.engine := by
  intro quiet
  induction works generalizing p agenda with
  | nil => exact changed_meddled quiet p
  | cons w rest ih =>
    have first := (changed_meddled quiet p).trans
      (Processor.changed_submit w (p.meddled agenda.head?))
    have later : ∀ g ∈ agenda.tail, ∀ x : Watched ε, (g x).asked = x.asked :=
      fun g hg => quiet g (List.mem_of_mem_tail hg)
    simp only [submitUnder, Call.andThen]
    rcases hs : Processor.submit w (p.meddled agenda.head?) with ⟨e | outcome, p'⟩
    · rw [hs] at first
      exact first
    · rw [hs] at first
      exact first.trans (ih p' later)

/-- The works of a workset ask for changes of documents.  When all of them are
done, its end asks for a commit and a refresh, or for less. -/
theorem asked_runUnder (now : Nat) (listening : Bool) {agenda : List (Watched ε → Watched ε)}
    (w : Workset) (p : Processor (Watched ε)) :
    (∀ g ∈ agenda, ∀ x : Watched ε, (g x).asked = x.asked) →
      p.engine.Changed (attemptUnder agenda w p).2.engine
        ∧ ∃ last ∈ [[], [Request.commit], [.commit, .refresh]],
          (w.runUnder now listening agenda p).processor.engine.asked
            = (attemptUnder agenda w p).2.engine.asked ++ last := by
  intro quiet
  have changed : p.engine.Changed (attemptUnder agenda w p).2.engine := by
    cases hw : p.workset with
    | some o =>
      simp only [attemptUnder, Call.andThen, Processor.beforeWorkset, hw, Processor.refuse]
      exact .refl _
    | none =>
      simp only [attemptUnder, Call.andThen, Processor.beforeWorkset, hw]
      exact changed_submitUnder w.works { p with workset := some ⟨w.strategies, none⟩ } quiet
  refine ⟨changed, ?_⟩
  unfold runUnder
  rcases attemptUnder agenda w p with ⟨e | outcomes, p'⟩
  · exact ⟨[], by simp, by simp⟩
  · exact Processor.asked_afterWorkset now listening (w.answer outcomes) p'

section Naturality

open Processor

variable {δ ι : Type} [Engine δ] {f : δ → ε} {past : Journal} (hf : Faithful f)
  {g : ι → δ → δ} {g' : ι → ε → ε} (hg : ∀ a x, g' a (f x) = f (g a x))
include hf hg

theorem through_submitUnder (works : List Work) (agenda : List ι) :
    Through (carried f past) (submitUnder (agenda.map g) works)
      (submitUnder (agenda.map g') works) := by
  have outside (agenda : List ι) (p : Processor δ) :
      (p.carried f past).meddled (agenda.map g').head?
        = (p.meddled (agenda.map g).head?).carried f past := by
    cases agenda with
    | nil => rfl
    | cons a rest => simp [meddled, carried, hg]
  induction works generalizing agenda with
  | nil =>
    intro p
    simp only [submitUnder, outside]
  | cons w rest ih =>
    intro p
    have step := ((through_submit hf w).andThen fun outcome =>
      (ih agenda.tail).map (outcome :: ·)) (p.meddled (agenda.map g).head?)
    simp only [List.map_tail] at step
    simp only [submitUnder, outside]
    exact step

theorem carried_runUnder (now : Nat) (listening : Bool) (agenda : List ι) (w : Workset)
    (p : Processor δ) :
    w.runUnder now listening (agenda.map g') (p.carried f past)
      = (w.runUnder now listening (agenda.map g) p).carried f past := by
  have attempt : Through (carried f past) (attemptUnder (agenda.map g) w)
      (attemptUnder (agenda.map g') w) :=
    (through_beforeWorkset w.strategies).andThen
      fun _ => through_submitUnder hf hg w.works agenda
  simp only [runUnder, attempt p]
  rcases attemptUnder (agenda.map g) w p with ⟨e | outcomes, p'⟩
  · rfl
  · exact carried_afterWorkset hf.consistent now listening _ p'

end Naturality

end Workset

/-! ## Passages -/

/-- A workset that was run, and what became of its works. -/
structure Passage where
  ticket : Nat
  workset : Workset
  outcomes : List WorkOutcome

namespace Passage

def submission (x : Passage) : Submission :=
  (x.ticket, .workset x.workset)

/-- The works that were done before one failed. -/
def worked : List Work → List WorkOutcome → List Work
  | w :: works, .executed _ :: outcomes => w :: worked works outcomes
  | _, _ => []

/-- What the workset contributes to the index. -/
def contribution (x : Passage) : List Work :=
  worked x.workset.works x.outcomes

end Passage

/-- What happens to a queue over an index in memory that others get at. -/
inductive Incident where
  | step (a : Event)
  | ran (x : Passage) (now : Nat)
  /-- Other calls are told to fail. -/
  | meddled

namespace Incident

/-- What it is for the ledger.  That others get at the engine is nothing. -/
def event : Incident → Event
  | .step a => a
  | .ran x now => .ran x.ticket x.workset now
  | .meddled => .passed

def passages : Incident → List Passage
  | .ran x _ => [x]
  | .step _ | .meddled => []

end Incident

/-- What has happened, without what others have done to the engine. -/
def events (l : List Incident) : History :=
  l.map Incident.event

def passages (l : List Incident) : List Passage :=
  l.flatMap Incident.passages

theorem events_snoc (l : List Incident) (i : Incident) :
    events (l ++ [i]) = events l ++ [i.event] := by
  simp [events]

theorem passages_snoc (l : List Incident) (i : Incident) :
    passages (l ++ [i]) = passages l ++ i.passages := by
  simp [passages]

/-- The engine, which now fails other calls. -/
def Engine.Memory.under (faults : Faults) (m : Memory) : Memory :=
  { m with faults := faults }

namespace Queue

/-- One step, or others get at the engine. -/
inductive Move : Queue Memory → Incident → Queue Memory → Prop where
  | step {q q' : Queue Memory} {a : Event} : Step q a q' → a.runs = [] → Move q (.step a) q'
  | run {q : Queue Memory} {e : Entry} {count : Nat} {w : Workset} (agenda : List Faults) :
      q.phase = .running e count → e.job = .workset w →
      Move q
        (.ran ⟨e.ticket, w, w.outcomesUnder (agenda.map Memory.under) q.processor⟩ q.now)
        { q.concluded e
            (w.runUnder q.now e.listening (agenda.map Memory.under) q.processor) with
          phase := .drawing (count + 1) }
  | meddle {q : Queue Memory} (faults : Faults) :
      Move q .meddled { q with processor.engine := q.processor.engine.under faults }

/-- Moves one after the other, with what they were. -/
inductive Moves : Queue Memory → List Incident → Queue Memory → Prop where
  | start (q : Queue Memory) : Moves q [] q
  | snoc {q q₁ q₂ : Queue Memory} {l : List Incident} {i : Incident} :
      Moves q l q₁ → Move q₁ i q₂ → Moves q (l ++ [i]) q₂

variable {q q' : Queue Memory} {l : List Incident} {i : Incident}

theorem Step.move {a : Event} (s : Step q a q') : ∃ i, Move q i q' ∧ i.event = a := by
  cases s with
  | @run e count w hp hj =>
    have alone := Move.run [] hp hj
    simp only [List.map_nil, w.runUnder_nil] at alone
    exact ⟨_, alone, rfl⟩
  | arrive job h => exact ⟨_, .step (.arrive job h) rfl, rfl⟩
  | enter h₁ h₂ h₃ => exact ⟨_, .step (.enter h₁ h₂ h₃) rfl, rfl⟩
  | refuse h₁ h₂ => exact ⟨_, .step (.refuse h₁ h₂) rfl, rfl⟩
  | withdraw h => exact ⟨_, .step (.withdraw h) rfl, rfl⟩
  | deafen ticket => exact ⟨_, .step (.deafen ticket) rfl, rfl⟩
  | receive h₁ h₂ h₃ => exact ⟨_, .step (.receive h₁ h₂ h₃) rfl, rfl⟩
  | spurn h₁ h₂ h₃ => exact ⟨_, .step (.spurn h₁ h₂ h₃) rfl, rfl⟩
  | crash h₁ h₂ h₃ => exact ⟨_, .step (.crash h₁ h₂ h₃) rfl, rfl⟩
  | reject h₁ h₂ h₃ => exact ⟨_, .step (.reject h₁ h₂ h₃) rfl, rfl⟩
  | draw h₁ h₂ h₃ => exact ⟨_, .step (.draw h₁ h₂ h₃) rfl, rfl⟩
  | drain h₁ h₂ => exact ⟨_, .step (.drain h₁ h₂) rfl, rfl⟩
  | endBatch h => exact ⟨_, .step (.endBatch h) rfl, rfl⟩
  | expire h₁ h₂ => exact ⟨_, .step (.expire h₁ h₂) rfl, rfl⟩
  | pass later credit h => exact ⟨_, .step (.pass later credit h) rfl, rfl⟩
  | stop h => exact ⟨_, .step (.stop h) rfl, rfl⟩
  | finish h₁ h₂ h₃ h₄ => exact ⟨_, .step (.finish h₁ h₂ h₃ h₄) rfl, rfl⟩

theorem Run.moves {h : History} (r : Run q h q') : ∃ l, Moves q l q' ∧ events l = h := by
  induction r with
  | start => exact ⟨[], .start _, rfl⟩
  | snoc _ s ih =>
    obtain ⟨l, moves, rfl⟩ := ih
    obtain ⟨i, move, rfl⟩ := s.move
    exact ⟨_, moves.snoc move, events_snoc l i⟩

theorem Moves.invariant {P : List Incident → Queue Memory → Prop} (m : Moves q l q')
    (start : P [] q)
    (step : ∀ {l : List Incident} {i : Incident} {q₁ q₂ : Queue Memory},
      Moves q l q₁ → P l q₁ → Move q₁ i q₂ → P (l ++ [i]) q₂) :
    P l q' := by
  induction m with
  | start => exact start
  | snoc m s ih => exact step m ih s

/-! ## What is known of the queue -/

theorem Move.balanced (m : Move q i q') : Balanced q i.event q' := by
  cases m with
  | step s _ => exact s.balanced
  | run agenda hp hj => exact balanced_concluded _ hp hj
  | meddle faults =>
    exact .worker ⟨rfl, rfl, rfl, rfl⟩ rfl rfl rfl (by simp [Incident.event, Event.settlements])
      (by simp [Incident.event, Event.settlements]) (Nat.le_refl _)

theorem Tidy.move {h : History} (t : Tidy h q) (m : Move q i q') :
    Tidy (h ++ [i.event]) q' := by
  cases m with
  | step s _ => exact t.step s
  | @run e count w agenda hp hj =>
    obtain ⟨frame, closed⟩ :=
      w.runUnder_frame q.now e.listening (agenda.map Memory.under) t.workset
    exact t.concluded w hp frame closed
  | meddle faults =>
    refine ⟨t.workset, t.batchOpen, fun open' => ?_⟩
    rw [History.settlements_snoc, History.runs_snoc, t.runs open']
    rfl

section Moves

variable {p : Processor Memory} {size : Nat}

theorem Ledger.of_moves (m : Moves (Queue.start p size) l q) : Ledger (events l) q := by
  refine m.invariant (P := fun l q => Ledger (events l) q) (.start p size) ?_
  intro l i q₁ q₂ _ ledger move
  rw [events_snoc]
  exact ledger.snoc move.balanced

theorem Tidy.of_moves (idle : p.Idle) (m : Moves (Queue.start p size) l q) :
    Tidy (events l) q := by
  refine m.invariant (P := fun l q => Tidy (events l) q) (.start idle size) ?_
  intro l i q₁ q₂ _ tidy move
  rw [events_snoc]
  exact tidy.move move

/-- The worksets are run in the order in which they got in, and none is left
out. -/
theorem Moves.runs_prefix (idle : p.Idle) (m : Moves (Queue.start p size) l q) :
    (events l).runs <+: (events l).entries := by
  have settled : (events l).runs <+: (events l).settlements := by
    refine m.invariant (P := fun l _ => (events l).runs <+: (events l).settlements)
      (List.prefix_refl _) ?_
    intro l i q₁ q₂ moves before move
    rw [events_snoc, History.runs_snoc, History.settlements_snoc]
    by_cases crashed : q₁.phase = .crashed
    · -- then nothing is run, and nothing is done with
      obtain ⟨runs, settlements⟩ : i.event.runs = [] ∧ i.event.settlements = [] := by
        cases move with
        | step s _ =>
          have after := s.afterwards (by rw [crashed]; rfl)
          exact ⟨after.runs, after.settlements⟩
        | run agenda hp => rw [crashed] at hp; cases hp
        | meddle => exact ⟨rfl, rfl⟩
      rw [runs, settlements, List.append_nil, List.append_nil]
      exact before
    · rw [(Tidy.of_moves idle moves).runs crashed, List.prefix_append_right_inj]
      cases i.event <;> first | exact List.prefix_refl _ | exact List.nil_prefix
  rw [(Ledger.of_moves m).order, List.append_assoc]
  exact settled.trans (List.prefix_append _ _)

end Moves

end Queue

end WritePath
