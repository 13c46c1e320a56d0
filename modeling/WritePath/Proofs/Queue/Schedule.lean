import WritePath.Proofs.Queue.Run

/-!
# The schedule of one thread is a run

All that the functions of `Queue` do to a queue are steps, so whatever holds
after every run holds after every one of their calls: `reaches_submitAll`,
`reaches_submit`, `reaches_abandon`, `reaches_idle` and `reaches_close`.

A close needs more than the others.  It takes for granted that the worker has
nothing to do once it has settled (`step?_settle`), which is so because every
step makes the load smaller.
-/

namespace WritePath.Queue

variable {ε : Type} [Engine ε]

def Reaches (q q' : Queue ε) : Prop :=
  ∃ h, Run q h q'

theorem Reaches.refl (q : Queue ε) : Reaches q q := ⟨[], .start q⟩

theorem Reaches.of_step {q q' : Queue ε} {a : Event} (s : Step q a q') :
    Reaches q q' :=
  ⟨[a], .single s⟩

theorem Reaches.trans {q q' q'' : Queue ε} (r : Reaches q q')
    (r' : Reaches q' q'') :
    Reaches q q'' := by
  obtain ⟨h, r⟩ := r
  obtain ⟨h', r'⟩ := r'
  exact ⟨h ++ h', r.append r'⟩

theorem Reaches.snoc {q q' q'' : Queue ε} {a : Event} (r : Reaches q q')
    (s : Step q' a q'') :
    Reaches q q'' :=
  r.trans (.of_step s)

theorem reaches_spend (q : Queue ε) : Reaches q q.spend :=
  .of_step (.pass q.now (q.credit - 1) (Nat.le_refl _))

theorem reaches_renew (q : Queue ε) : Reaches q q.renew :=
  .of_step (.pass q.now fullCredit (Nat.le_refl _))

/-! ## Submitters -/

theorem reaches_letIn (q : Queue ε) :
    Reaches q q.letIn ∧ q.letIn.closing = q.closing := by
  unfold letIn
  split
  · exact ⟨.refl q, rfl⟩
  · next e rest hb =>
    have hb : q.blocked = [] ++ e :: rest := hb
    split
    · exact ⟨.refl q, rfl⟩
    · split
      · next hr => exact ⟨(Reaches.of_step (.refuse hb hr)).trans (reaches_spend _), rfl⟩
      · next hr =>
        split
        · next hc =>
          have entered : Step q _ _ := .enter hb (by simpa using hr) hc
          exact ⟨(Reaches.of_step entered).trans (reaches_spend _), rfl⟩
        · exact ⟨.refl q, rfl⟩

theorem reaches_offer {q : Queue ε} (hq : q.closing = false) (job : Job) :
    Reaches q (q.offer job).2 ∧ (q.offer job).2.closing = false := by
  have arrived : Reaches q _ := .of_step (.arrive job hq)
  simp only [offer]
  split
  · obtain ⟨entered, closing⟩ := reaches_letIn
      { q with
        nextTicket := q.nextTicket + 1
        blocked := q.blocked ++ [{ ticket := q.nextTicket, job := job }] }
    exact ⟨arrived.trans entered, closing.trans hq⟩
  · exact ⟨arrived, hq⟩

theorem reaches_offerAll {q : Queue ε} (hq : q.closing = false) (jobs : List Job) :
    Reaches q (q.offerAll jobs).2 := by
  induction jobs generalizing q with
  | nil => exact .refl q
  | cons job rest ih =>
    obtain ⟨offered, open'⟩ := reaches_offer hq job
    exact offered.trans (ih open')

/-- Whoever goes away goes away from the front of the queue first, and then
stops listening. -/
theorem reaches_leave (q : Queue ε) (ticket : Nat) :
    Reaches q (q.leave ticket) := by
  have gone (l before : List Entry) :
      Reaches { q with blocked := before ++ l }
        { q with blocked := before ++ l.filter (·.ticket != ticket) } := by
    induction l generalizing before with
    | nil => exact .refl _
    | cons e rest ih =>
      rw [List.filter_cons]
      split
      · simpa using ih (before ++ [e])
      · exact (Reaches.of_step (.withdraw rfl)).trans (ih before)
  exact (gone q.blocked []).snoc (.deafen ticket)

theorem reaches_abandon {q : Queue ε} (hq : q.closing = false) (job : Job) :
    Reaches q (q.abandon job).2 := by
  obtain ⟨offered, -⟩ := reaches_offer hq job
  simp only [abandon]
  split
  · exact offered
  all_goals exact offered.trans (reaches_leave _ _)

theorem reaches_visit (q : Queue ε) (ticket : Nat) :
    Reaches q (q.visit ticket).2 := by
  unfold visit
  split
  · exact reaches_spend q
  · split
    · exact (reaches_letIn q).1
    · exact .refl q

theorem reaches_round (q : Queue ε) (tickets : List Nat) :
    Reaches q (q.round tickets).2 := by
  induction tickets generalizing q with
  | nil => exact .refl q
  | cons ticket rest ih => exact (reaches_visit q ticket).trans (ih _)

/-! ## The worker -/

theorem reaches_steps (n : Nat) (q : Queue ε) : Reaches q (steps n q) := by
  induction n generalizing q with
  | zero => exact .refl q
  | succ n ih =>
    simp only [steps]
    split
    · next q' hs =>
      obtain ⟨a, s⟩ := step_of_step? hs
      exact (Reaches.of_step s).trans (ih q')
    · exact .refl q

theorem reaches_settle (q : Queue ε) : Reaches q q.settle := reaches_steps q.load q

theorem reaches_rounds (n : Nat) (waiting : List Nat) (q : Queue ε) :
    Reaches q (rounds n waiting q) := by
  induction n generalizing waiting q with
  | zero => exact .refl q
  | succ n ih =>
    cases waiting with
    | nil => exact .refl q
    | cons ticket rest =>
      have settled := (reaches_settle q).trans (reaches_renew _)
      simp only [rounds]
      exact (settled.trans (reaches_round _ _)).trans (ih _ _)

theorem reaches_submitAll {q : Queue ε} (hq : q.closing = false) (jobs : List Job) :
    Reaches q (q.submitAll jobs).2 :=
  (reaches_offerAll hq jobs).trans (reaches_rounds _ _ _)

theorem reaches_submit {q : Queue ε} (hq : q.closing = false) (job : Job) :
    Reaches q (q.submit job).2 :=
  (reaches_offer hq job).1.trans (reaches_rounds _ _ _)

theorem reaches_idle (q : Queue ε) (ms : Nat) : Reaches q (q.idle ms) := by
  have settled := ((reaches_settle q).trans (reaches_renew _)).trans (reaches_spend _)
  have later (q' : Queue ε) (n : Nat) : Reaches q' { q' with now := q'.now + n } :=
    .of_step (.pass (q'.now + n) q'.credit (Nat.le_add_right _ _))
  simp only [idle]
  generalize q.settle.renew.spend = q' at settled ⊢
  split
  · next hp =>
    split
    · next delay hd =>
      split
      · next due =>
        have pending : q'.processor.pending = true := by
          cases hq : q'.processor.pending with
          | true => rfl
          | false => simp [Processor.pendingDelay, hq] at hd
        have waited : Reaches q' { q' with now := q'.now + delay } := later q' delay
        have expired := (settled.trans waited).snoc (.expire hp pending)
        exact expired.snoc (.pass (q'.now + ms) q'.credit (Nat.add_le_add_left due _))
      · exact settled.trans (later q' ms)
    · exact settled.trans (later q' ms)
  all_goals exact settled.trans (later q' ms)

/-! ## The end -/

/-- What the worker does makes its load smaller, and is nothing that submitters
do. -/
theorem step?_keeps {q q' : Queue ε} (h : q.step? = some q') :
    q'.load < q.load ∧ q'.blocked = q.blocked ∧ q'.closing = q.closing
      ∧ q'.phase ≠ .closed := by
  unfold step? at h
  split at h
  case h_1 hp =>
    split at h
    case h_1 first rest he =>
      obtain rfl := Option.some.inj h
      cases hb : q.processor.batchOpen with
      | false =>
        rw [beginBatch_received (q := { q with entries := rest }) hb]
        exact ⟨by simp [load, hp, he]; omega, rfl, rfl, nofun⟩
      | true =>
        rw [beginBatch_spurned (q := { q with entries := rest }) hb]
        exact ⟨by simp [load, hp, he, tell, note], rfl, rfl, by simp [hp, tell, note]⟩
    case h_2 => cases h
  case h_2 next count hp =>
    obtain rfl := Option.some.inj h
    cases hj : next.job with
    | workset w =>
      rw [runEntry_workset hj]
      have same := sameJobs_runWorkset q next w
      exact ⟨by simp [load, hp, same.entries], same.blocked, same.closing, nofun⟩
    | crash =>
      cases hw : q.processor.workset with
      | none =>
        rw [runEntry_crash hj hw]
        exact ⟨by simp [load, hp, crash], rfl, rfl, nofun⟩
      | some o =>
        rw [runEntry_rejected hj hw]
        exact ⟨by simp [load, hp, tell, note], rfl, rfl, nofun⟩
  case h_3 count hp =>
    obtain rfl := Option.some.inj h
    by_cases hc : q.entries = [] ∨ q.capacity ≤ count
    · rw [draw_nothing hc]
      exact ⟨by simp [load, hp], rfl, rfl, nofun⟩
    · obtain ⟨some, fits⟩ := not_or.mp hc
      obtain ⟨next, rest, he⟩ := List.exists_cons_of_ne_nil some
      rw [draw_next he (Nat.not_le.mp fits)]
      exact ⟨by simp [load, hp, he]; omega, rfl, rfl, nofun⟩
  case h_4 count hp =>
    obtain rfl := Option.some.inj h
    have same := sameJobs_endBatch q count
    exact ⟨by simp [load, hp, phase_endBatch, same.entries], same.blocked, same.closing,
      by simp [phase_endBatch]⟩
  case h_5 => cases h
  case h_6 => cases h

theorem steps_keeps (n : Nat) (q : Queue ε) (hq : q.phase ≠ .closed) :
    (steps n q).blocked = q.blocked ∧ (steps n q).closing = q.closing
      ∧ (steps n q).phase ≠ .closed := by
  induction n generalizing q with
  | zero => exact ⟨rfl, rfl, hq⟩
  | succ n ih =>
    simp only [steps]
    split
    · next q' hs =>
      obtain ⟨-, blocked, closing, phase⟩ := step?_keeps hs
      obtain ⟨blocked', closing', phase'⟩ := ih q' phase
      exact ⟨blocked'.trans blocked, closing'.trans closing, phase'⟩
    · exact ⟨rfl, rfl, hq⟩

theorem step?_steps {n : Nat} {q : Queue ε} (hn : q.load ≤ n) :
    (steps n q).step? = none := by
  induction n generalizing q with
  | zero =>
    cases hs : q.step? with
    | none => exact hs
    | some q' =>
      have := (step?_keeps hs).1
      omega
  | succ n ih =>
    simp only [steps]
    split
    · next q' hs =>
      have := (step?_keeps hs).1
      exact ih (by omega)
    · assumption

/-- A worker that has settled has nothing to do. -/
theorem step?_settle (q : Queue ε) : q.settle.step? = none :=
  step?_steps (Nat.le_refl _)

/-- A worker that has nothing to do waits at an empty queue, or takes no more
jobs. -/
theorem waiting_of_step? {q : Queue ε} (h : q.step? = none)
    (hq : q.phase.isOver = false) :
    q.phase = .waiting ∧ q.entries = [] := by
  unfold step? at h
  split at h
  case h_1 hp =>
    split at h
    · cases h
    · next he => exact ⟨hp, he⟩
  case h_5 hp | h_6 hp => simp [hp, Phase.isOver] at hq
  all_goals cases h

theorem reaches_close {q : Queue ε} (hc : q.closing = false) (hb : q.blocked = [])
    (hp : q.phase ≠ .closed) : Reaches q q.close.2 := by
  have stopped : Reaches q q.stop := .of_step (.stop hc)
  obtain ⟨blocked, closing, open'⟩ := steps_keeps q.stop.load q.stop hp
  have joined : Reaches q q.stop.join ∧ (q.stop.join.phase ≠ .crashed →
      q.stop.join.closing = true ∧ q.stop.join.phase = .waiting ∧ q.stop.join.entries = []
        ∧ q.stop.join.blocked = []) := by
    unfold join
    split
    · next ended =>
      refine ⟨stopped.trans (reaches_spend _), fun alive => ?_⟩
      have ended : q.phase.isOver = true := (Bool.and_eq_true _ _ ▸ ended).1
      have alive : q.phase ≠ .crashed := alive
      cases hq : q.phase <;> simp_all [Phase.isOver]
    · refine ⟨((stopped.trans (reaches_settle _)).trans (reaches_renew _)).trans
          (reaches_spend _),
        fun alive => ?_⟩
      have alive : q.stop.settle.phase ≠ .crashed := alive
      have going : q.stop.settle.phase.isOver = false := by
        have : q.stop.settle.phase ≠ .closed := open'
        cases hq : q.stop.settle.phase <;> simp_all [Phase.isOver]
      obtain ⟨waiting, empty⟩ := waiting_of_step? (step?_settle q.stop) going
      exact ⟨closing, waiting, empty, blocked.trans hb⟩
  obtain ⟨reached, ready⟩ := joined
  simp only [close]
  split
  · exact reached
  all_goals
    next hq =>
    obtain ⟨closing, waiting, empty, nobody⟩ := ready (by simp [hq])
    exact reached.snoc (.finish closing waiting empty nobody)

end WritePath.Queue
