import WritePath.Proofs.Queue.Commits
import WritePath.Proofs.Queue.Protocol
import WritePath.Proofs.Queue.Service

/-!
# The time between commits

A worker that waits with something pending sets a timer for the moment at which
the delay is over, and the timer does not fire before that moment.  `Timed` are
the runs of such a worker: wherever the timer is set, the clock may go on, jobs
may come, and the deadline stays.

In these runs nobody but a submitter who insists on it, or the end of the worker,
gets a commit before the interval has passed since the one before
(`commit_spacing`).  The invariant is `Spaced`: no attempt is later than the
clock, none is later than the one that the processor remembers, and the deadline
is an interval away from all of them.  A batch attempts its commit when the delay
is zero (`due_pendingDelay`), and the timer is set to the end of the delay
(`deadline_pendingDelay`); both come down to the same subtraction.
-/

namespace WritePath

theorem Event.ended_of_batch {a : Event} {now : Nat} :
    a.initiator? = some (.batch, now) → a = .ended now := by
  intro asks
  cases a <;> cases asks
  rfl

theorem Event.expired_of_timer {a : Event} {now : Nat} :
    a.initiator? = some (.timer, now) → a = .expired now := by
  intro asks
  cases a <;> cases asks
  rfl

variable {ε : Type} [Engine ε]

/-- When commits were attempted, the last one before the history included. -/
def History.times (h : History) (p : Processor ε) : List Nat :=
  p.lastCommit.toList ++ (h.commits p).map Attempt.time

theorem History.times_snoc (h : History) (a : Event) (p : Processor ε) :
    times (h ++ [a]) p = h.times p ++ (a.commits (h.act p)).map Attempt.time := by
  simp [times, List.append_assoc]

theorem History.getLast?_times (h : History) (p : Processor ε) :
    (h.act p).lastCommit = (h.times p).getLast? := by
  rw [h.lastCommit_act, times, List.getLast?_append, List.getLast?_map]
  cases p.lastCommit <;> rfl

namespace Processor

/-! ## The delay -/

variable {p : Processor ε} {now last delay : Nat}

omit [Engine ε]

theorem pendingDelay_eq (pending : p.pending = true) (committed : p.lastCommit = some last)
    (now : Nat) : p.pendingDelay now = some (p.interval - (now - last)) := by
  simp [pendingDelay, pending, committed]

theorem pendingDelay_some (delayed : p.pendingDelay now = some delay)
    (committed : p.lastCommit = some last) : delay = p.interval - (now - last) := by
  rw [pendingDelay_eq (pending_of_delay delayed) committed] at delayed
  exact (Option.some.inj delayed).symm

/-- What is due has waited for an interval. -/
theorem due_pendingDelay (due : p.pendingDelay now = some 0) (committed : p.lastCommit = some last)
    (past : last ≤ now) : last + p.interval ≤ now := by
  have := pendingDelay_some due committed
  omega

/-- At the end of the delay an interval has passed. -/
theorem deadline_pendingDelay (delayed : p.pendingDelay now = some delay)
    (committed : p.lastCommit = some last) (past : last ≤ now) :
    last + p.interval ≤ now + delay := by
  have := pendingDelay_some delayed committed
  omega

end Processor

namespace Queue

/-! ## Runs with a timer -/

def startAt (now : Nat) (p : Processor ε) (size : Nat) : Queue ε :=
  { start p size with now := now }

/-- Steps one after the other, with the deadline of the timer if it is set. -/
inductive Timed (q₀ : Queue ε) : History → Option Nat → Queue ε → Prop where
  | start : Timed q₀ [] none q₀
  /-- The worker begins to wait. -/
  | arm {h : History} {timer : Option Nat} {q : Queue ε} {delay : Nat} :
      Timed q₀ h timer q → q.phase = .waiting → q.processor.pendingDelay q.now = some delay →
      Timed q₀ h (some (q.now + delay)) q
  /-- Anything but the timer; a worker that moves waits no longer. -/
  | step {h : History} {timer : Option Nat} {q q' : Queue ε} {a : Event} :
      Timed q₀ h timer q → Step q a q' → (∀ now, a ≠ .expired now) →
      Timed q₀ (h ++ [a]) (if a.ofWorker then none else timer) q'
  /-- The timer fires, not before its deadline. -/
  | fire {h : History} {q q' : Queue ε} {deadline : Nat} :
      Timed q₀ h (some deadline) q → deadline ≤ q.now → Step q (.expired q.now) q' →
      Timed q₀ (h ++ [.expired q.now]) none q'

variable {q₀ q q' : Queue ε} {h : History} {timer : Option Nat}

theorem Timed.run (r : Timed q₀ h timer q) : Run q₀ h q := by
  induction r with
  | start => exact .start q₀
  | arm _ _ _ ih => exact ih
  | step _ s _ ih => exact ih.snoc s
  | fire _ _ s ih => exact ih.snoc s

/-! The queue lets time go by in such a run. -/

def TimedTo (q₀ q : Queue ε) : Prop :=
  ∃ h timer, Timed q₀ h timer q

theorem TimedTo.step {a : Event} (r : TimedTo q₀ q) (s : Step q a q') :
    (∀ now, a ≠ .expired now) → TimedTo q₀ q' := by
  intro unfired
  obtain ⟨h, timer, r⟩ := r
  exact ⟨_, _, r.step s unfired⟩

theorem TimedTo.steps (n : Nat) (r : TimedTo q₀ q) : TimedTo q₀ (steps n q) := by
  induction n generalizing q with
  | zero => exact r
  | succ n ih =>
    simp only [Queue.steps]
    split
    · next q' hs =>
      obtain ⟨a, s⟩ := step_of_step? hs
      refine ih (r.step s ?_)
      -- a commit because of the time leaves as much to do as there was
      rintro now rfl
      have less := (step?_keeps hs).1
      cases s with
      | expire => exact absurd less (Nat.lt_irrefl _)
    · exact r

theorem TimedTo.pass (r : TimedTo q₀ q) {later : Nat} (le : q.now ≤ later) (credit : Nat) :
    TimedTo q₀ { q with now := later, credit := credit } :=
  r.step (.pass later credit le) nofun

/-- The worker begins to wait, and its timer fires when the delay is over. -/
theorem TimedTo.fire {delay : Nat} (r : TimedTo q₀ q) :
    q.phase = .waiting → q.processor.pendingDelay q.now = some delay →
      TimedTo q₀ ({ q with now := q.now + delay } : Queue ε).expire := by
  intro hp hd
  obtain ⟨h, timer, r⟩ := r
  have waited := (r.arm hp hd).step (.pass (q.now + delay) q.credit (Nat.le_add_right ..)) nofun
  exact ⟨_, _, waited.fire (Nat.le_refl _) (.expire hp (Processor.pending_of_delay hd))⟩

theorem TimedTo.idle (ms : Nat) (r : TimedTo q₀ q) : TimedTo q₀ (q.idle ms) := by
  have settled : TimedTo q₀ q.settle.renew.spend :=
    ((r.steps q.load).pass (Nat.le_refl _) fullCredit).pass (Nat.le_refl _) _
  have later (q' : Queue ε) (r : TimedTo q₀ q') : TimedTo q₀ { q' with now := q'.now + ms } :=
    r.pass (Nat.le_add_right ..) q'.credit
  simp only [Queue.idle]
  generalize q.settle.renew.spend = q' at settled ⊢
  split
  · next hp =>
    split
    · next delay hd =>
      split
      · next due => exact (settled.fire hp hd).pass (Nat.add_le_add_left due _) _
      · exact later q' settled
    · exact later q' settled
  all_goals exact later q' settled

/-! ## One step -/

theorem Step.attempt_time {a : Event} (s : Step q a q') {who : Initiator} {now : Nat} :
    a.initiator? = some (who, now) → now = q.now := by
  intro asks
  cases s <;> cases asks <;> rfl

/-- What the run so far has to do with the time. -/
structure Spaced (p : Processor ε) (h : History) (timer : Option Nat) (q : Queue ε) : Prop where
  past : ∀ t ∈ h.times p, t ≤ q.now
  latest : ∀ t ∈ h.times p, ∀ last, (h.times p).getLast? = some last → t ≤ last
  armed : ∀ deadline, timer = some deadline → ∀ t ∈ h.times p, t + p.interval ≤ deadline
  spaced : ∀ before x after, h.commits p = before ++ x :: after →
    x.initiator = .batch ∨ x.initiator = .timer →
      ∀ t ∈ p.lastCommit.toList ++ before.map Attempt.time, t + p.interval ≤ x.time

section Spaced

variable {p : Processor ε}

theorem Spaced.start (past : ∀ last, p.lastCommit = some last → last ≤ q.now) :
    Spaced p [] none q := by
  refine ⟨?_, ?_, nofun, ?_⟩
  · simpa [History.times, History.commits] using past
  · intro t ht last hl
    simp [History.times, History.commits] at ht hl
    simp_all
  · intro before x after hc
    simp [History.commits] at hc

theorem Spaced.of_last (s : Spaced p h timer q) {time : Nat}
    (far : ∀ last, (h.act p).lastCommit = some last → last + p.interval ≤ time) :
    ∀ t ∈ h.times p, t + p.interval ≤ time := by
  intro t ht
  have some' : (h.times p).getLast?.isSome := by
    rw [List.getLast?_isSome]
    exact List.ne_nil_of_mem ht
  obtain ⟨last, hl⟩ := Option.isSome_iff_exists.mp some'
  have := s.latest t ht last hl
  have := far last ((h.getLast?_times p).trans hl)
  omega

theorem Spaced.last_le (s : Spaced p h timer q) {last : Nat} :
    (h.act p).lastCommit = some last → last ≤ q.now := by
  intro hl
  rw [h.getLast?_times] at hl
  exact s.past last (List.mem_of_getLast? hl)

/-- A step keeps the time between the commits if those that it attempts are due,
and a timer that stays is that of a step without commits. -/
theorem Spaced.step (s : Spaced p h timer q) {a : Event} (st : Step q a q')
    {timer' : Option Nat}
    (due : ∀ x ∈ a.commits (h.act p), x.initiator = .batch ∨ x.initiator = .timer →
      ∀ t ∈ h.times p, t + p.interval ≤ x.time)
    (stays : timer' = none ∨ timer' = timer ∧ a.commits (h.act p) = []) :
    Spaced p (h ++ [a]) timer' q' := by
  rcases (a.charged (h.act p)).nil_or_one with none | ⟨x, one⟩
  · rw [none] at stays
    have same : History.times (h ++ [a]) p = h.times p := by
      rw [h.times_snoc, none, List.map_nil, List.append_nil]
    have commits : History.commits (h ++ [a]) p = h.commits p := by
      rw [History.commits_snoc, none, List.append_nil]
    refine ⟨fun t ht => ?_, by rw [same]; exact s.latest, fun deadline hd => ?_, ?_⟩
    · exact (s.past t (same ▸ ht)).trans st.now_le
    · rw [same]
      rcases stays with rfl | ⟨rfl, -⟩
      · cases hd
      · exact s.armed deadline hd
    · rw [commits]
      exact s.spaced
  · rw [one] at stays due
    have time : x.time = q.now :=
      st.attempt_time (Event.commits_time (one ▸ List.mem_singleton_self x))
    obtain rfl : timer' = .none := stays.resolve_right fun same => by cases same.2
    have more : History.times (h ++ [a]) p = h.times p ++ [x.time] := by
      rw [h.times_snoc, one]
      rfl
    refine ⟨?past, ?latest, nofun, ?spaced⟩
    case past =>
      rw [more]
      intro t ht
      rcases List.mem_append.mp ht with earlier | last
      · exact (s.past t earlier).trans st.now_le
      · rw [List.mem_singleton.mp last, time]
        exact st.now_le
    case latest =>
      rw [more, List.getLast?_concat]
      rintro t ht _ ⟨⟩
      rcases List.mem_append.mp ht with earlier | last
      · exact time ▸ s.past t earlier
      · exact (List.mem_singleton.mp last).le
    case spaced =>
      intro before y after hc
      rw [History.commits_snoc, one] at hc
      rcases snoc_eq_append_cons hc with ⟨rfl, rfl⟩ | ⟨rest, earlier⟩
      · exact due _ (List.mem_singleton_self _)
      · exact s.spaced before y rest earlier

end Spaced

/-- The time between the commits of a run. -/
theorem Timed.spaced {p : Processor ε} (alike : Processor.Alike p q₀.processor)
    (past : ∀ last, p.lastCommit = some last → last ≤ q₀.now) (r : Timed q₀ h timer q) :
    Spaced p h timer q := by
  induction r with
  | start => exact .start past
  | @arm h timer q delay r hp hd ih =>
    have same : (h.act p).pendingDelay q.now = some delay :=
      ((r.run.alike alike).congr (Processor.pendingDelay q.now) fun _ _ => rfl).trans hd
    refine ⟨ih.past, ih.latest, ?_, ih.spaced⟩
    rintro _ ⟨⟩
    refine ih.of_last fun last hl => ?_
    rw [← (h.fixed_act p).interval]
    exact Processor.deadline_pendingDelay same hl (ih.last_le hl)
  | @step h timer q q' a r st unfired ih =>
    refine ih.step st (fun x hx due => ih.of_last fun last hl => ?_) ?_
    · have asks := Event.commits_time hx
      have time : x.time = q.now := st.attempt_time asks
      rcases due with batch | byTimer
      · obtain rfl := Event.ended_of_batch (batch ▸ asks)
        rw [← (h.fixed_act p).interval]
        exact Processor.due_pendingDelay (Event.due_of_ended hx) hl (time ▸ ih.last_le hl)
      · exact absurd (Event.expired_of_timer (byTimer ▸ asks)) (unfired _)
    · cases hw : a.ofWorker with
      | true => exact .inl rfl
      | false =>
        refine .inr ⟨rfl, ?_⟩
        cases a <;> first | rfl | cases hw
  | @fire h q q' deadline r le st ih =>
    refine ih.step st (fun x hx _ t ht => ?_) (.inl rfl)
    rw [st.attempt_time (Event.commits_time hx)]
    exact (ih.armed deadline rfl t ht).trans le

/-! ## What is left pending at the end of a batch -/

/-- The end of a batch leaves something pending only if it is not due. -/
theorem endBatch_deferred {p : Processor ε} {now : Nat} :
    p.batchOpen = true → p.workset = none → (Processor.endBatch now p).2.pending = true →
      (Processor.endBatch now p).2 = { p with batchOpen := false }
        ∧ p.pendingDelay now ≠ some 0 := by
  intro hb hw pending
  rw [Processor.endBatch_open now hb hw] at pending ⊢
  by_cases due : p.pendingDelay now = some 0
  · rw [if_pos due, commitPending_clear] at pending
    cases pending
  · exact ⟨if_neg due, due⟩

theorem Run.deferred {p : Processor ε} (idle : p.Idle) (alike : Processor.Alike p q₀.processor)
    (waiting : q₀.phase = .waiting) (r : Run q₀ h q) {before : History} {now : Nat} :
    h = before ++ [.ended now] → q.processor.pending = true →
      ∃ last, (h.times p).getLast? = some last ∧ p.interval - (now - last) ≠ 0
        ∧ ∀ later, q.processor.pendingDelay later = some (p.interval - (later - last)) := by
  intro hh pending
  obtain ⟨q₁, r₁, st⟩ := r.last hh
  have t : Tidy before q₁ := by
    refine r₁.invariant (P := Tidy) ⟨?_, ?_, fun _ => rfl⟩ fun _ t s => t.step s
    · exact alike.workset.symm.trans idle.workset
    · rw [← alike.batchOpen, idle.batchOpen, waiting]
      rfl
  cases st with
  | @endBatch count hp =>
    have after := alike_endBatch q₁ count
    have batchOpen : q₁.processor.batchOpen = true := by
      rw [t.batchOpen, hp]
      rfl
    have left : (Processor.endBatch q₁.now q₁.processor).2.pending = true :=
      (after.congr Processor.pending fun _ _ => rfl) ▸ pending
    obtain ⟨same, notDue⟩ := endBatch_deferred batchOpen t.workset left
    rw [same] at after left
    have interval : q₁.processor.interval = p.interval :=
      ((r₁.alike alike).congr Processor.interval fun _ _ => rfl).symm.trans
        (before.fixed_act p).interval
    have delays (later : Nat) :
        (q₁.endBatch count).processor.pendingDelay later = q₁.processor.pendingDelay later :=
      after.congr (Processor.pendingDelay later) fun _ _ => rfl
    cases committed : q₁.processor.lastCommit with
    | none =>
      -- the first commit of all is always due
      exact absurd (by simp [Processor.pendingDelay, committed, show q₁.processor.pending = true
        from left]) notDue
    | some last =>
      have delay (later : Nat) := Processor.pendingDelay_eq (p := q₁.processor) left committed later
      rw [interval] at delay
      refine ⟨last, ?_, fun zero => notDue (by rw [delay, zero]), fun later => ?_⟩
      · rw [← h.getLast?_times p, (r.alike alike).congr Processor.lastCommit fun _ _ => rfl,
          after.congr Processor.lastCommit fun _ _ => rfl]
        exact committed
      · rw [delays, delay]

/-! ## The law -/

/-- **The spacing of commits.**  In a run with a timer that does not fire too
early, a commit that no submitter insists on is attempted an interval after every
attempt before it, whoever made that one and whatever came of it.

What is left pending at the end of a batch has been waiting for less than an
interval since the last attempt.  Its delay is then at least one and at most the
interval, and gets zero exactly when an interval has passed since that attempt.

A delay is never computed from a time that is still to come, and if it were, the
two subtractions would stop at zero. -/
theorem commit_spacing {p : Processor ε} {size opened : Nat} :
    (∀ last, p.lastCommit = some last → last ≤ opened) →
      Timed (startAt opened p size) h timer q →
      (∀ before x after, h.commits p = before ++ x :: after →
        x.initiator = .batch ∨ x.initiator = .timer →
          ∀ t ∈ p.lastCommit.toList ++ before.map Attempt.time, t + p.interval ≤ x.time)
      ∧ (p.Idle → ∀ before now, h = before ++ [.ended now] → q.processor.pending = true →
        ∃ last delay, (h.times p).getLast? = some last
          ∧ last ≤ now ∧ now < last + p.interval
          ∧ q.processor.pendingDelay now = some delay ∧ 0 < delay ∧ delay ≤ p.interval
          ∧ ∀ later, last ≤ later →
            (q.processor.pendingDelay later = some 0 ↔ last + p.interval ≤ later))
      ∧ (∀ last, q.processor.lastCommit = some last → last ≤ q.now)
      ∧ ∀ (s : Processor ε) (now delay last : Nat),
        s.pendingDelay now = some delay → s.lastCommit = some last →
          (delay : Int) = max 0 ((s.interval : Int) - max 0 ((now : Int) - last)) := by
  intro past r
  have alike : Processor.Alike p (startAt opened p size).processor := rfl
  have spaced := r.spaced alike past
  have remembered : (h.act p).lastCommit = q.processor.lastCommit :=
    (r.run.alike alike).congr Processor.lastCommit fun _ _ => rfl
  refine ⟨spaced.spaced, ?_, ?_, ?_⟩
  · intro idle before now hh pending
    obtain ⟨last, hl, left, delays⟩ := r.run.deferred idle alike rfl hh pending
    have before_now : last ≤ now := by
      have time : now = q.now := by
        obtain ⟨q₁, -, st⟩ := r.run.last hh
        cases st with
        | @endBatch count hp => exact (now_endBatch q₁ count).symm
      exact time ▸ spaced.past last (List.mem_of_getLast? hl)
    refine ⟨last, p.interval - (now - last), hl, before_now, by omega, delays now, by omega,
      by omega, fun later le => ?_⟩
    rw [delays, Option.some.injEq]
    omega
  · intro last hl
    exact spaced.last_le (remembered.trans hl)
  · intro s now delay last delayed committed
    have := Processor.pendingDelay_some delayed committed
    omega

/-! ## There are such runs -/

theorem Timed.append {h' : History} (r : Timed q₀ h timer q) (r' : Run q h' q') :
    (∀ now, .expired now ∉ h') → ∃ timer', Timed q₀ (h ++ h') timer' q' := by
  intro unfired
  induction r' with
  | start => exact ⟨timer, by rwa [List.append_nil]⟩
  | @snoc q₁ q₂ h' a r' st ih =>
    obtain ⟨timer', r₁⟩ := ih fun now hn => unfired now (List.mem_append_left _ hn)
    rw [← List.append_assoc]
    refine ⟨_, r₁.step st fun now hn => unfired now ?_⟩
    exact List.mem_append_right _ (List.mem_singleton.mpr hn.symm)

/-- A first batch commits at once.  What a second one does soon afterwards is
left pending, and is committed when the timer fires. -/
theorem commit_spacing_of_two_batches :
    let p : Processor Engine.Memory :=
      { index := ⟨"books"⟩, engine := {}, journal := { handling := .collecting }, interval := 1000 }
    ∃ h q h' q' timer, Timed (startAt 0 p 1) h timer q ∧ q.processor.pending = true
      ∧ (∃ last delay, (h.times p).getLast? = some last ∧ 10 < last + 1000
        ∧ q.processor.pendingDelay 10 = some delay ∧ 0 < delay)
      ∧ Timed (startAt 0 p 1) h' none q'
      ∧ ∃ x y, h'.commits p = [x, y] ∧ x.initiator = .batch ∧ y.initiator = .timer
        ∧ x.time + 1000 ≤ y.time := by
  intro p
  let w : Workset := { content := .single .flush }
  -- a batch at zero and another one at ten
  obtain ⟨q₁, first, rest, ticket, now⟩ :=
    exists_solo (q := startAt 0 p 1) ⟨rfl, rfl, rfl, rfl⟩ rfl w (Nat.le_refl 0)
  have closed : q₁.processor.batchOpen = false := (first.alike (p := p) rfl).batchOpen.symm
  obtain ⟨q₂, second, rest', -, now'⟩ := exists_solo rest closed w (show q₁.now ≤ 10 by omega)
  rw [ticket] at second
  obtain ⟨timer, deferred⟩ := Timed.start.append (first.append second) (by simp [solo])
  -- what the second one does is pending
  have seen : (History.act (solo 0 w 0 ++ solo 1 w 10) p).pendingDelay 10 = some 990 := by
    decide +kernel
  have delay₂ : q₂.processor.pendingDelay q₂.now = some 990 := by
    rw [now', ← (deferred.run.alike (p := p) rfl).congr (Processor.pendingDelay 10) fun _ _ => rfl]
    exact seen
  have pending := Processor.pending_of_delay delay₂
  obtain ⟨-, left, -⟩ := commit_spacing (p := p) nofun deferred
  obtain ⟨last, delay, hl, -, soon, hd, positive, -⟩ := left ⟨rfl, rfl⟩
    (solo 0 w 0 ++ (solo 1 w 10).dropLast) 10 rfl pending
  -- then the worker waits until the timer fires
  have armed := deferred.arm rest'.phase delay₂
  rw [now'] at armed
  have waited := armed.step (.pass 1000 128 (by omega)) nofun
  have fired := waited.fire (Nat.le_refl _) (.expire rest'.phase pending)
  obtain ⟨spaced, -⟩ := commit_spacing (p := p) nofun fired
  have both : (History.commits (solo 0 w 0 ++ solo 1 w 10 ++ [.passed] ++ [.expired 1000]) p).map
      (fun x => (x.initiator, x.time)) = [(.batch, 0), (.timer, 1000)] := by
    decide +kernel
  obtain ⟨x, l, commits, first, more⟩ := List.map_eq_cons_iff.mp both
  obtain ⟨y, rfl, last'⟩ := List.map_eq_singleton_iff.mp more
  obtain ⟨batch, zero⟩ := Prod.mk.inj first
  obtain ⟨timed, -⟩ := Prod.mk.inj last'
  exact ⟨_, q₂, _, _, timer, deferred, pending, ⟨last, delay, hl, soon, hd, positive⟩, fired,
    x, y, commits, batch, timed, spaced [x] y [] commits (.inr timed) x.time (by simp)⟩

end Queue

end WritePath
