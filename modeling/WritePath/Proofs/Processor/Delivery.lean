import WritePath.Proofs.Engine.Recorded
import WritePath.Proofs.Engine.Staging

/-!
# Nothing is lost in silence

A processor over an index in memory gets any calls in any order, while commits
and documents are made to fail at will, and is closed in the end (`Course`).
Then either all works that were done are committed, in the order in which they
were done, or the last commit failed; and every commit that failed was handed
over once, where the failures of such a call go: into the report of a workset,
to the handler as an exception, or into the failure of the close
(`no_silent_loss`).

The processor forgets what is pending whenever it attempts a commit, whatever
comes of the attempt.  So what holds all the time is this: what is staged is
what the works have made of the empty index, and if nothing is pending then
either all of it is committed or the last commit has failed (`Kept`).  `Turned`
says what one call does to this; in three ways: it attempts no commit, or one
that goes through, or one that fails.
-/

namespace WritePath.Processor

open Engine (Memory Faults)

/-! ## Calls -/

/-- A call on a processor, but for the last one. -/
inductive Instruction where
  | beginBatch
  | beforeWorkset (s : Strategies)
  | submit (w : Work)
  | afterWorkset (listening : Bool) (value : Option Output)
  | endBatch
  | commitPending

/-- Where the failure of a commit can go. -/
inductive Channel where
  /-- Among the errors of a report. -/
  | report
  | exception
  /-- Into the failure of a close. -/
  | shutdown
  deriving DecidableEq

namespace Instruction

/-- Where the failure of a commit goes that the call attempts. -/
def channel : Instruction → Channel
  | .afterWorkset _ _ => .report
  | .beginBatch | .beforeWorkset _ | .submit _ | .endBatch | .commitPending => .exception

variable {ε : Type} [Engine ε]

def act (now : Nat) : Instruction → Processor ε → Processor ε
  | .beginBatch, p => (Processor.beginBatch p).2
  | .beforeWorkset s, p => (Processor.beforeWorkset s p).2
  | .submit w, p => (Processor.submit w p).2
  | .afterWorkset listening value, p => (p.afterWorkset now listening value).processor
  | .endBatch, p => (Processor.endBatch now p).2
  | .commitPending, p => p.commitPending now

def executed : Instruction → Processor ε → List Work
  | .submit w, p =>
    match (Processor.submit w p).1 with
    | .ok (.executed _) => [w]
    | _ => []
  | _, _ => []

/-- What comes of the commits that the call attempts. -/
def attempts (now : Nat) (i : Instruction) (p : Processor ε) : List (Except Failure Stamp) :=
  (i.act now p.recorded).engine.attempts

end Instruction

/-- Something that happens to a processor over an index in memory. -/
inductive Turn where
  | call (now : Nat) (i : Instruction)
  /-- From now on other calls of the engine fail. -/
  | inject (faults : Faults)

structure Course where
  processor : Processor Memory
  /-- The works that were done, oldest first. -/
  executed : List Work := []
  /-- The commits that were attempted, oldest first, each with the place where
  its failure goes. -/
  attempts : List (Channel × Except Failure Stamp) := []

namespace Course

/-- A new processor over an empty index, with a handler that keeps
everything. -/
def start (index : IndexName) (interval : Nat) : Course where
  processor :=
    { index := index
      engine := {}
      journal := { handling := .collecting }
      interval := interval }

def turn (c : Course) : Turn → Course
  | .call now i =>
    { processor := i.act now c.processor
      executed := c.executed ++ i.executed c.processor
      attempts := c.attempts ++ (i.attempts now c.processor).map (i.channel, ·) }
  | .inject faults => { c with processor.engine.faults := faults }

def run (c : Course) (turns : List Turn) : Course :=
  turns.foldl turn c

/-- The end: what the close answers, and what happened. -/
def close (c : Course) (now : Nat) : Except Failure Unit × Course :=
  ((Processor.close now c.processor).1,
    { c with
      processor := (Processor.close now c.processor).2
      attempts := c.attempts
        ++ (Processor.close now c.processor.recorded).2.engine.attempts.map (.shutdown, ·) })

end Course

/-! ## Failures of commits -/

def isCommit : Failure → Bool
  | .commit _ _ => true
  | _ => false

/-- What a handler was given in each place; it knows nothing of a close. -/
def handed (j : Journal) : Channel → List Failure
  | .report => j.reports.flatMap Report.errors
  | .exception => j.exceptions.map Exception.cause
  | .shutdown => []

/-- The failures of commits among those that a close answers. -/
def answered : Except Failure Unit → List Failure
  | .error (.shutdown _ source suppressed) => (source :: suppressed).filter isCommit
  | _ => []

/-- The failures that were given in each place, the answer of the close
included. -/
def delivered (answer : Except Failure Unit) (j : Journal) : Channel → List Failure
  | .report => handed j .report
  | .exception => handed j .exception
  | .shutdown => answered answer

/-- The failures of the commits that were attempted where failures go to a
place. -/
def failures (index : IndexName) (channel : Channel)
    (attempts : List (Channel × Except Failure Stamp)) : List Failure :=
  attempts.filterMap fun
    | (c, .error e) => if c = channel then some (.commit index e) else none
    | (_, .ok _) => none

/-! ## What one call does -/

/-- The report of the open workset, if there is one, speaks of works alone. -/
def Blameless (p : Processor Memory) : Prop :=
  ∀ s r, p.workset = some ⟨s, some r⟩ → r.errors = []

/-- What no call changes before the close. -/
structure Steady (p p' : Processor Memory) : Prop where
  index : p'.index = p.index
  handling : p'.journal.handling = p.journal.handling
  closed : p'.engine.closed = p.engine.closed
  blameless : Blameless p → Blameless p'

/-- What a call does to the documents, with what comes of the commits that it
attempts. -/
inductive Turned (channel : Channel) (executed : List Work) (p p' : Processor Memory) :
    List (Except Failure Stamp) → Prop where
  | quiet :
      p'.engine.staged = Work.effects executed p.engine.staged →
      p'.engine.committed = p.engine.committed →
      (p'.pending = false → p.pending = false ∧ executed = []) →
      (∀ c, handed p'.journal c = handed p.journal c) →
      Turned channel executed p p' []
  | committed (stamp : Stamp) :
      executed = [] →
      p'.engine.staged = p.engine.staged →
      p'.engine.committed = p.engine.staged →
      (∀ c, handed p'.journal c = handed p.journal c) →
      Turned channel executed p p' [.ok stamp]
  | failed (e : Failure) :
      executed = [] →
      p'.engine.staged = p.engine.staged →
      (∀ c, handed p'.journal c
        = handed p.journal c ++ if c = channel then [.commit p.index e] else []) →
      Turned channel executed p p' [.error e]

theorem Turned.same {channel : Channel} {p p' : Processor Memory}
    (engine : p'.engine = p.engine)
    (journal : ∀ c, handed p'.journal c = handed p.journal c)
    (pending : p'.pending = p.pending) :
    Turned channel [] p p' [] :=
  .quiet (by rw [engine]; rfl) (by rw [engine]) (fun h => ⟨pending ▸ h, rfl⟩) journal

theorem Turned.of_batch {channel : Channel} {executed : List Work}
    {p p' : Processor Memory} {b : Bool} {l : List (Except Failure Stamp)}
    (h : Turned channel executed { p with batchOpen := b } p' l) :
    Turned channel executed p p' l := by
  cases h with
  | quiet staged committed pending journal =>
    exact .quiet staged committed pending journal
  | committed stamp none staged committed journal =>
    exact .committed stamp none staged committed journal
  | failed e none staged journal => exact .failed e none staged journal

/-! ## What the handler is given -/

@[simp] theorem handed_record (j : Journal) (log : List Log.Record) (c : Channel) :
    handed (j.record log) c = handed j c := by
  cases c <;> rfl

theorem handed_report {j : Journal} (hj : j.handling = .collecting) (r : Report)
    (c : Channel) :
    handed (j.report r) c = handed j c ++ if c = .report then r.errors else [] := by
  unfold Journal.report
  split
  · next empty =>
    have none : r.errors = [] := by
      simp only [Report.isEmpty, Bool.and_eq_true, List.isEmpty_iff] at empty
      exact empty.2
    simp [none]
  · simp only [hj]
    cases c <;> simp [handed]

theorem handed_exception {j : Journal} (hj : j.handling = .collecting)
    (message : String) (e : Failure) (c : Channel) :
    handed (j.exception message e) c
      = handed j c ++ if c = .exception then [e] else [] := by
  simp only [Journal.exception, hj]
  cases c <;> simp [handed]

/-! ## The calls, one by one -/

theorem shownIf_durable (s : Strategies) (m : Memory) :
    (shownIf s m).staged = m.staged ∧ (shownIf s m).committed = m.committed
      ∧ (shownIf s m).closed = m.closed := by
  unfold shownIf
  split
  · exact Memory.refresh_durable m
  · exact ⟨rfl, rfl, rfl⟩

section Calls

variable {p : Processor Memory} (hm : p.engine.closed = false)
  (hj : p.journal.handling = .collecting)
include hm

theorem turned_submit (w : Work) :
    Steady p (submit w p).2
      ∧ Turned .exception ((Instruction.submit w).executed p) p (submit w p).2 [] := by
  rcases hw : p.workset with _ | ⟨s, _ | r⟩
  · simp only [Instruction.executed, submit_noWorkset hw, refuse]
    exact ⟨⟨rfl, rfl, rfl, id⟩, .same rfl (fun _ => rfl) rfl⟩
  · cases hf : w.fault? p.engine.faults with
    | some e =>
      obtain ⟨log, h⟩ := submit_failed hw (Memory.work_refused hm hf)
      simp only [Instruction.executed, h]
      refine ⟨⟨rfl, rfl, rfl, fun _ s r opened => ?_⟩,
        .same rfl (fun c => handed_record _ _ c) rfl⟩
      cases opened
      rfl
    | none =>
      obtain ⟨o, stamp, events, hr, -⟩ := Memory.work_taken hm hf
      have h := submit_executed hw hr
      simp only [Instruction.executed, h]
      refine ⟨⟨rfl, rfl, rfl, id⟩,
        .quiet rfl rfl (fun clear => ?_) fun c => handed_record _ _ c⟩
      cases clear
  · simp only [Instruction.executed, submit_skipped hw]
    refine ⟨⟨rfl, rfl, rfl, fun blameless s' r' opened => ?_⟩, .same rfl (fun _ => rfl) rfl⟩
    cases opened
    exact blameless s r hw

include hj

theorem turned_commitPending (now : Nat) :
    Steady p (p.commitPending now)
      ∧ Turned .exception [] p (p.commitPending now)
        (p.recorded.commitPending now).engine.attempts := by
  cases hp : p.pending with
  | false =>
    have idle : p.commitPending now = p := by simp [commitPending, hp]
    have idle' : p.recorded.commitPending now = p.recorded := by
      simp [commitPending, show p.recorded.pending = false from hp]
    rw [idle, idle']
    exact ⟨⟨rfl, rfl, rfl, id⟩, .same rfl (fun _ => rfl) rfl⟩
  | true =>
    have hp' : p.recorded.pending = true := hp
    rcases Memory.commit_cases hm with
      ⟨stamp, m, hc, durable, staged, closed⟩ | ⟨e, m, hc, staged, closed⟩
    · obtain ⟨log, h⟩ := commitNow_ok hc now
      obtain ⟨log', h'⟩ := commitNow_ok (p := p.recorded) (Recorded.commit_ok hc []) now
      simp only [commitPending, hp, hp', if_true, h, h']
      exact ⟨⟨rfl, rfl, closed.trans hm.symm, id⟩,
        .committed stamp rfl staged durable fun c => handed_record _ _ c⟩
    · have h := commitNow_error hc now
      have h' := commitNow_error (p := p.recorded) (Recorded.commit_error hc []) now
      simp only [commitPending, hp, hp', if_true, h, h']
      exact ⟨⟨rfl, handling_exception _ _ _, closed.trans hm.symm, id⟩,
        .failed e rfl staged fun c => handed_exception hj _ _ c⟩

theorem turned_endBatch (now : Nat) :
    Steady p (endBatch now p).2
      ∧ Turned .exception [] p (endBatch now p).2
        (endBatch now p.recorded).2.engine.attempts := by
  have same : Steady p p ∧ Turned .exception [] p p [] :=
    ⟨⟨rfl, rfl, rfl, id⟩, .same rfl (fun _ => rfl) rfl⟩
  have batchOpen : p.recorded.batchOpen = p.batchOpen := rfl
  have workset : p.recorded.workset = p.workset := rfl
  cases hb : p.batchOpen with
  | false =>
    simp only [endBatch, batchOpen, hb, Bool.false_eq_true, if_false, refuse]
    exact same
  | true =>
    cases hw : p.workset with
    | some o =>
      simp only [endBatch, batchOpen, workset, hb, if_true, hw, refuse]
      exact same
    | none =>
      have delay : p.recorded.pendingDelay now = p.pendingDelay now := rfl
      have ended : endBatch now p = _ := endBatch_open now hb hw
      have ended' : endBatch now p.recorded = _ :=
        endBatch_open now (batchOpen.trans hb) (workset.trans hw)
      rw [ended, ended', delay]
      dsimp only
      split
      · obtain ⟨steady, turned⟩ :=
          turned_commitPending (p := { p with batchOpen := false }) hm hj now
        exact ⟨⟨steady.index, steady.handling, steady.closed, steady.blameless⟩,
          turned.of_batch⟩
      · exact ⟨⟨rfl, rfl, rfl, id⟩, .same rfl (fun _ => rfl) rfl⟩

theorem turned_afterWorkset (hr : Blameless p) (now : Nat) (listening : Bool)
    (value : Option Output) :
    Steady p (p.afterWorkset now listening value).processor
      ∧ Turned .report [] p (p.afterWorkset now listening value).processor
        (p.recorded.afterWorkset now listening value).processor.engine.attempts := by
  have workset : p.recorded.workset = p.workset := rfl
  rcases hw : p.workset with _ | ⟨s, _ | r⟩
  · rw [afterWorkset_noWorkset now listening hw,
      afterWorkset_noWorkset now listening (workset.trans hw)]
    exact ⟨⟨rfl, rfl, rfl, id⟩, .same rfl (fun _ => rfl) rfl⟩
  · have hw' := workset.trans hw
    cases hn : s.needsCommit with
    | false =>
      obtain ⟨log, h⟩ :=
        afterWorkset_done now listening hw (forcedSteps_none hn now _) value
      obtain ⟨log', h'⟩ :=
        afterWorkset_done now listening hw' (forcedSteps_none hn now _) value
      rw [h, h']
      exact ⟨⟨rfl, rfl, rfl, fun _ => nofun⟩, .same rfl (fun c => handed_record _ _ c) rfl⟩
    | true =>
      rcases Memory.commit_cases hm with
        ⟨stamp, m, hc, durable, staged, closed⟩ | ⟨e, m, hc, staged, closed⟩
      · obtain ⟨shownStaged, shownCommitted, shownClosed⟩ := shownIf_durable s m
        obtain ⟨log, forced⟩ := forcedSteps_ok hn (p := { p with workset := none }) hc now
        obtain ⟨log', forced'⟩ := forcedSteps_ok hn
          (p := { p.recorded with workset := none }) (Recorded.commit_ok hc []) now
        obtain ⟨log₁, h⟩ := afterWorkset_done now listening hw forced value
        obtain ⟨log₁', h'⟩ := afterWorkset_done now listening hw' forced' value
        rw [h, h']
        dsimp only
        rw [Recorded.attempts_shownIf]
        exact ⟨⟨rfl, rfl, shownClosed.trans (closed.trans hm.symm), fun _ => nofun⟩,
          .committed stamp rfl (shownStaged.trans staged) (shownCommitted.trans durable)
            fun c => by simp⟩
      · obtain ⟨log, h⟩ := afterWorkset_commitFailed now listening hw hn hc value
        obtain ⟨log', h'⟩ :=
          afterWorkset_commitFailed now listening hw' hn (Recorded.commit_error hc []) value
        rw [h, h']
        exact ⟨⟨rfl, handling_report _ _, closed.trans hm.symm, fun _ => nofun⟩,
          .failed e rfl staged fun c => by simp [handed_report hj]⟩
  · obtain ⟨log, h⟩ := afterWorkset_failed now listening hw value
    obtain ⟨log', h'⟩ := afterWorkset_failed now listening (workset.trans hw) value
    rw [h, h']
    exact ⟨⟨rfl, handling_report _ _, rfl, fun _ => nofun⟩,
      .same rfl (fun c => by simp [handed_report hj, hr s r hw]) rfl⟩

end Calls

theorem turned_act {p : Processor Memory} (hm : p.engine.closed = false)
    (hj : p.journal.handling = .collecting) (hr : Blameless p) (now : Nat)
    (i : Instruction) :
    Steady p (i.act now p)
      ∧ Turned i.channel (i.executed p) p (i.act now p) (i.attempts now p) := by
  cases i with
  | beginBatch =>
    have none : (Instruction.beginBatch).attempts now p = [] := by
      show (Processor.beginBatch p.recorded).2.engine.attempts = []
      unfold Processor.beginBatch
      split <;> rfl
    rw [none]
    show Steady p (Processor.beginBatch p).2 ∧ Turned _ [] p (Processor.beginBatch p).2 []
    unfold Processor.beginBatch
    split <;> exact ⟨⟨rfl, rfl, rfl, id⟩, .same rfl (fun _ => rfl) rfl⟩
  | beforeWorkset s =>
    have none : (Instruction.beforeWorkset s).attempts now p = [] := by
      show (Processor.beforeWorkset s p.recorded).2.engine.attempts = []
      unfold Processor.beforeWorkset
      split <;> rfl
    rw [none]
    show Steady p (Processor.beforeWorkset s p).2
      ∧ Turned _ [] p (Processor.beforeWorkset s p).2 []
    unfold Processor.beforeWorkset
    split
    · exact ⟨⟨rfl, rfl, rfl, id⟩, .same rfl (fun _ => rfl) rfl⟩
    · exact ⟨⟨rfl, rfl, rfl, fun _ => nofun⟩, .same rfl (fun _ => rfl) rfl⟩
  | submit w =>
    have none : (Instruction.submit w).attempts now p = [] := attempts_submit w p.recorded
    rw [none]
    exact turned_submit hm w
  | afterWorkset listening value => exact turned_afterWorkset hm hj hr now listening value
  | endBatch => exact turned_endBatch hm hj now
  | commitPending => exact turned_commitPending hm hj now

/-! ## A course -/

theorem failures_append (index : IndexName) (channel : Channel)
    (l l' : List (Channel × Except Failure Stamp)) :
    failures index channel (l ++ l')
      = failures index channel l ++ failures index channel l' :=
  List.filterMap_append

/-- The last commit failed. -/
def LastFailed (attempts : List (Channel × Except Failure Stamp)) : Prop :=
  ∃ channel e, attempts.getLast? = some (channel, .error e)

theorem lastFailed_snoc (l : List (Channel × Except Failure Stamp))
    (channel : Channel) (e : Failure) :
    LastFailed (l ++ [(channel, .error e)]) :=
  ⟨channel, e, List.getLast?_concat⟩

/-- What holds until the close. -/
structure Kept (index : IndexName) (c : Course) : Prop where
  name : c.processor.index = index
  handling : c.processor.journal.handling = .collecting
  closed : c.processor.engine.closed = false
  blameless : Blameless c.processor
  staged : c.processor.engine.staged = Work.effects c.executed []
  durable : c.processor.pending = false →
    c.processor.engine.committed = c.processor.engine.staged ∨ LastFailed c.attempts
  given : ∀ channel, handed c.processor.journal channel
    = failures index channel c.attempts

theorem Kept.start (index : IndexName) (interval : Nat) :
    Kept index (Course.start index interval) where
  name := rfl
  handling := rfl
  closed := rfl
  blameless := nofun
  staged := rfl
  durable _ := .inl rfl
  given channel := by cases channel <;> rfl

theorem Kept.of_turned {index : IndexName} {c : Course} (k : Kept index c)
    {p' : Processor Memory} {channel : Channel} {executed : List Work}
    {l : List (Except Failure Stamp)} (steady : Steady c.processor p')
    (turned : Turned channel executed c.processor p' l) :
    Kept index
      { processor := p'
        executed := c.executed ++ executed
        attempts := c.attempts ++ l.map (channel, ·) } := by
  have name := steady.index.trans k.name
  have handling := steady.handling.trans k.handling
  have closed := steady.closed.trans k.closed
  have blameless := steady.blameless k.blameless
  have staged (hs : p'.engine.staged = Work.effects executed c.processor.engine.staged) :
      p'.engine.staged = Work.effects (c.executed ++ executed) [] := by
    rw [hs, k.staged, Work.effects_append]
  cases turned with
  | quiet hs hc hp hh =>
    rw [List.map_nil, List.append_nil]
    refine ⟨name, handling, closed, blameless, staged hs, fun clear => ?_, fun place => ?_⟩
    · -- a quiet call sets the flag or leaves it, so it was clear before
      obtain ⟨before, rfl⟩ := hp clear
      have same : p'.engine.staged = c.processor.engine.staged := hs
      exact (k.durable before).imp_left fun durable => (hc.trans durable).trans same.symm
    · exact (hh place).trans (k.given place)
  | committed stamp nothing hs hc hh =>
    subst nothing
    refine ⟨name, handling, closed, blameless, staged hs, fun _ => .inl (hc.trans hs.symm),
      fun place => ?_⟩
    rw [hh, k.given, failures_append]
    exact (List.append_nil _).symm
  | failed e nothing hs hh =>
    subst nothing
    refine ⟨name, handling, closed, blameless, staged hs, fun _ => .inr (lastFailed_snoc _ _ e),
      fun place => ?_⟩
    rw [hh, k.given, failures_append, k.name]
    by_cases same : place = channel
    · simp [failures, same]
    · simp [failures, same, Ne.symm same]

theorem Kept.turn {index : IndexName} {c : Course} (k : Kept index c) (t : Turn) :
    Kept index (c.turn t) := by
  cases t with
  | inject faults =>
    exact ⟨k.name, k.handling, k.closed, k.blameless, k.staged, k.durable, k.given⟩
  | call now i =>
    obtain ⟨steady, turned⟩ := turned_act k.closed k.handling k.blameless now i
    exact k.of_turned steady turned

theorem Kept.run {index : IndexName} {c : Course} (k : Kept index c)
    (turns : List Turn) :
    Kept index (c.run turns) := by
  induction turns generalizing c with
  | nil => exact k
  | cons t turns ih => exact ih (k.turn t)

/-! ## The close -/

theorem answered_finish (c : Closer) (text : String) :
    answered (c.finish text) = c.failures.filter isCommit := by
  unfold Closer.finish
  split
  · next none => simp [none, answered]
  · next first rest some => simp only [some, answered]

theorem close_isCommit {m : Memory} {e : Failure}
    (h : (Engine.close m).1 = .error e) :
    isCommit e = false := by
  have h : (Memory.close m).1 = .error e := h
  simp only [Memory.close, Memory.whileOpen] at h
  split at h
  · cases h
    rfl
  · split at h <;> cases h
    rfl

/-- What a close answers about commits is what the first of its two steps
answers. -/
theorem answered_close {first : Except Failure Unit}
    (hf : ∀ e, first = .error e → isCommit e = true) (m : Memory) (text : String) :
    answered (((({} : Closer).take first).take (Engine.close m).1).finish text)
      = match first with
        | .error e => [e]
        | .ok _ => [] := by
  rw [answered_finish]
  cases first with
  | ok _ =>
    cases hc : (Engine.close m).1 with
    | ok _ => rfl
    | error e' => simp [Closer.take, close_isCommit hc]
  | error e =>
    cases hc : (Engine.close m).1 with
    | ok _ => simp [Closer.take, hf e rfl]
    | error e' => simp [Closer.take, hf e rfl, close_isCommit hc]

theorem failures_shutdown (index : IndexName) {channel : Channel}
    (h : channel ≠ .shutdown) (l : List (Except Failure Stamp)) :
    failures index channel (l.map (.shutdown, ·)) = [] := by
  induction l with
  | nil => rfl
  | cons a l ih => cases a <;> simp_all [failures, Ne.symm h]

/-- The failures in the answer of a close come on top of what the handler was
given before. -/
theorem Kept.closing {index : IndexName} {c : Course} (k : Kept index c)
    {j : Journal}
    (hj : ∀ channel, handed j channel = handed c.processor.journal channel)
    {answer : Except Failure Unit} {last : List (Except Failure Stamp)}
    (ha : answered answer = failures index .shutdown (last.map (.shutdown, ·)))
    (channel : Channel) :
    delivered answer j channel
      = failures index channel (c.attempts ++ last.map (.shutdown, ·)) := by
  rw [failures_append, ← k.given]
  cases channel with
  | report => rw [failures_shutdown index (by simp), List.append_nil]; exact hj .report
  | exception => rw [failures_shutdown index (by simp), List.append_nil]; exact hj .exception
  | shutdown => rw [← ha]; rfl

/-- What a close comes to, whatever was done before. -/
structure Ended (index : IndexName) (answer : Except Failure Unit) (c : Course) : Prop where
  committed : c.processor.engine.committed = Work.effects c.executed []
    ∨ LastFailed c.attempts
  delivered : ∀ channel, delivered answer c.processor.journal channel
    = failures index channel c.attempts

theorem Kept.close {index : IndexName} {c : Course} (k : Kept index c) (now : Nat) :
    Ended index (c.close now).1 (c.close now).2 := by
  obtain ⟨log, h⟩ := close_eq now c.processor
  obtain ⟨log', h'⟩ := close_eq now c.processor.recorded
  simp only [Course.close, h, h']
  cases hp : c.processor.pending with
  | false =>
    have idle : flush now c.processor = (.ok (), c.processor) := by simp [flush, hp]
    have idle' : flush now c.processor.recorded = (.ok (), c.processor.recorded) := by
      simp [flush, show c.processor.recorded.pending = false from hp]
    rw [idle, idle']
    refine ⟨?_, k.closing (fun channel => ?_) (answered_close (fun _ he => by cases he) _ _)⟩
    · show (Engine.close c.processor.engine).2.committed = _
        ∨ LastFailed (c.attempts ++ [])
      rw [(Memory.close_durable _).1, ← k.staged, List.append_nil]
      exact k.durable hp
    · cases channel <;> rfl
  | true =>
    have hp' : c.processor.recorded.pending = true := hp
    rcases Memory.commit_cases k.closed with ⟨stamp, m, hc, durable, -, -⟩ | ⟨e, m, hc, -, -⟩
    · obtain ⟨log₁, committed⟩ := commitNow_ok hc now
      obtain ⟨log₁', committed'⟩ :=
        commitNow_ok (p := c.processor.recorded) (Recorded.commit_ok hc []) now
      have flushed : flush now c.processor = _ := (if_pos hp).trans committed
      have flushed' : flush now c.processor.recorded = _ := (if_pos hp').trans committed'
      rw [flushed, flushed']
      refine ⟨.inl ?_,
        k.closing (fun channel => ?_) (answered_close (fun _ he => by cases he) _ _)⟩
      · show (Engine.close m).2.committed = _
        rw [(Memory.close_durable m).1, durable, k.staged]
      · cases channel <;> rfl
    · have failed := commitNow_error hc now
      have failed' :=
        commitNow_error (p := c.processor.recorded) (Recorded.commit_error hc []) now
      have flushed : flush now c.processor = _ := (if_pos hp).trans failed
      have flushed' : flush now c.processor.recorded = _ := (if_pos hp').trans failed'
      rw [flushed, flushed']
      refine ⟨.inr (lastFailed_snoc _ _ e), k.closing (fun channel => ?_) ?_⟩
      · cases channel <;> rfl
      · refine (answered_close (fun e' he => ?_) m _).trans ?_
        · cases he
          rfl
        · rw [k.name]
          rfl

/-- **Nothing is lost in silence.**  Whatever calls are made and whatever fails:
in the end the works that were done are committed, or the last commit has
failed, and its failure is the last one in the place where it goes.  All
failures of commits are there, each of them once, and no others. -/
theorem no_silent_loss (index : IndexName) (interval : Nat) (turns : List Turn)
    (now : Nat) :
    let ended := ((Course.start index interval).run turns).close now
    (ended.2.processor.engine.committed = Work.effects ended.2.executed []
      ∨ ∃ channel e, ended.2.attempts.getLast? = some (channel, .error e)
        ∧ (delivered ended.1 ended.2.processor.journal channel).getLast?
          = some (.commit index e))
    ∧ ∀ channel, delivered ended.1 ended.2.processor.journal channel
        = failures index channel ended.2.attempts := by
  intro ended
  obtain ⟨committed, delivered⟩ := ((Kept.start index interval).run turns).close now
  refine ⟨committed.imp_right ?_, delivered⟩
  rintro ⟨channel, e, last⟩
  refine ⟨channel, e, last, ?_⟩
  obtain ⟨before, attempts⟩ := List.getLast?_eq_some_iff.mp last
  have given : Processor.delivered ended.1 ended.2.processor.journal channel
      = failures index channel ended.2.attempts := delivered channel
  rw [given, attempts, failures_append]
  simp [failures]

end WritePath.Processor
