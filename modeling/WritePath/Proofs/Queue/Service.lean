import WritePath.Proofs.Queue.Independence
import WritePath.Proofs.Queue.Schedule

/-!
# One submitter at a time

A queue is `Ready` if the worker waits, nobody is in front of it, and everybody
who came before has been told.  A submitter who comes then, and waits for the
answer, gets a batch of its own: the function that serves it takes the steps of a
run in which nothing but its workset is run (`serves_submit`), and leaves the
queue ready for the next one.  Letting time go by runs nothing (`serves_idle`).
-/

namespace WritePath.Queue

variable {ε : Type}

/-- Nothing is going on, and whoever comes is served. -/
structure Ready (q : Queue ε) : Prop where
  rest : AtRest q
  idle : q.processor.Idle
  ledger : ∃ h, Ledger h q

theorem ready_start {p : Processor ε} (idle : p.Idle) (size : Nat) : Ready (start p size) :=
  ⟨⟨rfl, rfl, rfl, rfl⟩, ⟨idle.batchOpen, idle.workset⟩, [], .start p size⟩

theorem Ready.note {q : Queue ε} (ready : Ready q) (level : Log.Level) (text : String) :
    Ready (q.note level text) := by
  obtain ⟨⟨phase, entries, blocked, closing⟩, ⟨batchOpen, workset⟩, h, l⟩ := ready
  exact ⟨⟨phase, entries, blocked, closing⟩, ⟨batchOpen, workset⟩, h,
    ⟨l.tickets, l.spread, l.order, l.told, l.bounded⟩⟩

theorem Ready.answer?_next {q : Queue ε} (ready : Ready q) : q.answer? q.nextTicket = none := by
  obtain ⟨-, -, h, l⟩ := ready
  unfold answer?
  rw [Option.map_eq_none_iff, List.find?_eq_none]
  intro x hx same
  have given : x.1 < q.nextTicket := by
    rcases List.mem_append.mp (l.perm_told.subset (List.mem_map_of_mem hx)) with resolved | refused
    · exact l.known resolved
    · exact l.known refused
  exact Nat.lt_irrefl _ (beq_iff_eq.mp same ▸ given)

/-- A ready queue is as good as a new one. -/
theorem Ready.tidy {q : Queue ε} (ready : Ready q) : Tidy [] q :=
  ⟨ready.idle.workset, by rw [ready.idle.batchOpen, ready.rest.phase]; rfl, fun _ => rfl⟩

variable [Engine ε]

theorem Ready.tidy_run {q q' : Queue ε} {h : History} (ready : Ready q) (r : Run q h q') :
    Tidy h q' :=
  r.invariant ready.tidy fun _ t s => t.step s

theorem Ready.ledger_run {q q' : Queue ε} {h : History} (ready : Ready q) (r : Run q h q') :
    ∃ h', Ledger h' q' := by
  refine r.invariant (P := fun _ q => ∃ h', Ledger h' q) ready.ledger ?_
  rintro h a q₁ q₂ - ⟨h', l⟩ s
  exact ⟨_, l.snoc s.balanced⟩

/-- A run that comes to rest leaves the queue ready. -/
theorem Ready.run {q q' : Queue ε} {h : History} (ready : Ready q) (r : Run q h q')
    (rest : AtRest q') : Ready q' := by
  have t := ready.tidy_run r
  refine ⟨rest, ⟨?_, t.workset⟩, ready.ledger_run r⟩
  rw [t.batchOpen, rest.phase]
  rfl

theorem Run.length_runs_le {q q' : Queue ε} {h : History} (r : Run q h q') :
    q.told.length + h.runs.length ≤ q'.told.length := by
  refine r.invariant (P := fun h q' => q.told.length + h.runs.length ≤ q'.told.length)
    (Nat.le_refl _) ?_
  intro h a q₁ q₂ _ ih s
  have told := congrArg List.length s.balanced.told
  have ran : a.runs.length ≤ a.settlements.length := by
    cases a <;> simp [Event.runs, Event.settlements]
  rw [History.runs_snoc]
  simp only [List.length_append, List.length_map] at told ⊢
  omega

theorem Run.runs_eq_nil {q q' : Queue ε} {h : History} (r : Run q h q') (told : q'.told = q.told) :
    h.runs = [] := by
  have le := r.length_runs_le
  rw [told] at le
  exact List.eq_nil_of_length_eq_zero (by omega)

/-- What the worker has run in a run that leaves it at rest. -/
structure Serves (q : Queue ε) (ran : List Submission) (q' : Queue ε) : Prop where
  run : ∃ h, Run q h q' ∧ h.runs = ran
  rest : AtRest q'
  credit : 0 < q'.credit

/-! ## Time goes by -/

omit [Engine ε] in
theorem load_atRest {q : Queue ε} (rest : AtRest q) : q.load = 0 := by
  simp [load, rest.phase, rest.entries]

theorem steps_cons {q q' : Queue ε} {n : Nat} (h : q.step? = some q') :
    steps (n + 1) q = steps n q' := by
  simp only [steps, h]

theorem settle_atRest {q : Queue ε} (rest : AtRest q) : q.settle = q := by
  rw [settle, load_atRest rest]
  rfl

theorem serves_idle {q : Queue ε} (rest : AtRest q) (ms : Nat) : Serves q [] (q.idle ms) := by
  obtain ⟨phase, entries, blocked, closing⟩ := rest
  have settled := settle_atRest ⟨phase, entries, blocked, closing⟩
  have spent : 0 < fullCredit - 1 := by decide
  obtain ⟨told, rest', credit⟩ : (q.idle ms).told = q.told ∧ AtRest (q.idle ms)
      ∧ 0 < (q.idle ms).credit := by
    have phase' : q.renew.spend.phase = .waiting := phase
    simp only [idle, settled, phase']
    split
    · split
      · exact ⟨rfl, ⟨rfl, entries, blocked, closing⟩, spent⟩
      · exact ⟨rfl, ⟨rfl, entries, blocked, closing⟩, spent⟩
    · exact ⟨rfl, ⟨rfl, entries, blocked, closing⟩, spent⟩
  obtain ⟨h, r⟩ := reaches_idle q ms
  exact ⟨⟨h, r, r.runs_eq_nil told⟩, rest', credit⟩

theorem idle_notDue {q : Queue ε} (rest : AtRest q)
    (waits : q.processor.pendingDelay q.now ≠ some 0) :
    q.idle 0 = { q with credit := fullCredit - 1 } := by
  have settled := settle_atRest rest
  obtain ⟨p, size, entries, blocked, phase, closing, told, nextTicket, credit, now⟩ := q
  obtain rfl : phase = .waiting := rest.phase
  simp only [idle, settled]
  cases hd : p.pendingDelay now with
  | none => simp only [renew, spend, hd, Nat.add_zero]
  | some delay =>
    have later : ¬ delay ≤ 0 := fun due => waits (by rw [hd, Nat.le_zero.mp due])
    simp only [renew, spend, hd, later, if_false, Nat.add_zero]

theorem idle_due {q : Queue ε} (rest : AtRest q)
    (due : q.processor.pendingDelay q.now = some 0) :
    q.idle 0
      = { q with
          processor := q.processor.commitPending q.now
          credit := fullCredit - 1 } := by
  have settled := settle_atRest rest
  obtain ⟨p, size, entries, blocked, phase, closing, told, nextTicket, credit, now⟩ := q
  obtain rfl : phase = .waiting := rest.phase
  have due : p.pendingDelay now = some 0 := due
  simp only [idle, settled, renew, spend, due, Nat.le_refl, if_true, expire, Nat.add_zero]

theorem Step.no_arrival {q q' : Queue ε} {a : Event} (s : Step q a q')
    (blocked : q'.blocked = q.blocked) : a.arrivals = [] := by
  cases s with
  | arrive => simp at blocked
  | _ => rfl

theorem nextTicket_steps (n : Nat) (q : Queue ε) : (steps n q).nextTicket = q.nextTicket := by
  induction n generalizing q with
  | zero => rfl
  | succ n ih =>
    simp only [steps]
    split
    · next q' hs =>
      obtain ⟨a, s⟩ := step_of_step? hs
      have given := s.balanced.tickets
      rw [s.no_arrival (step?_keeps hs).2.1, List.map_nil, List.append_nil] at given
      rw [ih, ← List.length_range (n := q'.nextTicket), ← given, List.length_range]
    · rfl

/-- Everybody who comes gets a ticket. -/
theorem Run.arrivals_eq_nil {q q' : Queue ε} {h : History} (r : Run q h q')
    (same : q'.nextTicket = q.nextTicket) : h.arrivals = [] := by
  have given : List.range q.nextTicket ++ h.arrivals.map Prod.fst = List.range q'.nextTicket := by
    refine r.invariant (P := fun h q' => List.range q.nextTicket ++ h.arrivals.map Prod.fst
      = List.range q'.nextTicket) (List.append_nil _) fun _ ih s => ?_
    rw [History.arrivals_snoc, List.map_append, ← List.append_assoc, ih, s.balanced.tickets]
  rw [same, List.append_right_eq_self, List.map_eq_nil_iff] at given
  exact given

theorem exists_idle (q : Queue ε) (ms : Nat) : ∃ h, Run q h (q.idle ms) ∧ h.arrivals = [] := by
  obtain ⟨h, r⟩ := reaches_idle q ms
  have same : (q.idle ms).nextTicket = q.settle.nextTicket := by
    simp only [idle]
    split
    · split
      · split <;> rfl
      · rfl
    all_goals rfl
  exact ⟨h, r, r.arrivals_eq_nil (same.trans (nextTicket_steps _ q))⟩

/-! ## A submitter -/

section Submit

variable {q : Queue ε} (w : Workset)

def alone (q : Queue ε) (w : Workset) : Entry :=
  { ticket := q.nextTicket, job := .workset w }

/-- The queue when a workset has come to a worker at rest and has got in. -/
def holding (q : Queue ε) (w : Workset) : Queue ε :=
  { q with
    nextTicket := q.nextTicket + 1
    entries := [q.alone w]
    credit := q.credit - 1 }

def taking (q : Queue ε) (w : Workset) : Queue ε :=
  { q.holding w with
    processor := { q.processor with batchOpen := true }
    entries := []
    phase := .running (q.alone w) 0 }

/-- The workset has been run, and the worker has found no other one. -/
def ending (q : Queue ε) (w : Workset) : Queue ε :=
  { (q.taking w).runWorkset (q.alone w) w with phase := .ending 1 }

omit [Engine ε] in
theorem offer_ready (rest : AtRest q) (credit : 0 < q.credit) :
    q.offer (.workset w) = (q.nextTicket, q.holding w) := by
  obtain ⟨phase, entries, blocked, closing⟩ := rest
  simp [offer, letIn, holding, alone, spend, refuses, phase, entries, blocked, Phase.isOver,
    capacity, Nat.pos_iff_ne_zero.mp credit]

/-- The worker takes the workset, runs it and finds no other one. -/
theorem settle_holding (rest : AtRest q) (noBatch : q.processor.batchOpen = false) :
    (q.holding w).settle = (q.ending w).endBatch 1 := by
  have load : (q.holding w).load = 4 := by simp [Queue.load, holding, rest.phase]
  have taken : (q.holding w).step? = some (q.taking w) := by
    simp only [step?, holding, rest.phase, alone]
    exact congrArg some
      (beginBatch_received (q := { q.holding w with entries := [], phase := .waiting }) noBatch)
  have ran : (q.taking w).step?
      = some { (q.taking w).runWorkset (q.alone w) w with phase := .drawing 1 } :=
    congrArg some (runEntry_workset rfl)
  have drained :
      step? { (q.taking w).runWorkset (q.alone w) w with phase := .drawing 1 }
        = some (q.ending w) :=
    congrArg some (draw_nothing (.inl (sameJobs_runWorkset ..).entries))
  have ended : (q.ending w).step? = some ((q.ending w).endBatch 1) := rfl
  rw [settle, load, steps_cons taken, steps_cons ran, steps_cons drained, steps_cons ended]
  rfl

theorem run_holding (rest : AtRest q) (noBatch : q.processor.batchOpen = false) :
    ∃ h, Run (q.holding w) h ((q.ending w).endBatch 1)
      ∧ h.runs = [(q.nextTicket, .workset w)] := by
  have received := Run.single (Step.receive (q := q.holding w) rest.phase rfl noBatch)
  have ran := received.snoc (.run rfl rfl)
  have drained := ran.snoc (.drain rfl (.inl (sameJobs_runWorkset ..).entries))
  exact ⟨_, drained.snoc (.endBatch rfl), rfl⟩

theorem atRest_ended (rest : AtRest q) : AtRest ((q.ending w).endBatch 1) := by
  have ended := sameJobs_endBatch (q.ending w) 1
  have ran := sameJobs_runWorkset (q.taking w) (q.alone w) w
  exact ⟨phase_endBatch .., ended.entries.trans ran.entries,
    (ended.blocked.trans ran.blocked).trans rest.blocked,
    (ended.closing.trans ran.closing).trans rest.closing⟩

theorem answer?_ended (fresh : q.answer? q.nextTicket = none) :
    ((q.ending w).endBatch 1).answer? q.nextTicket
      = some ((q.taking w).outcome (q.alone w) w) := by
  have told : ((q.ending w).endBatch 1).told
      = q.told ++ [(q.nextTicket, (q.taking w).outcome (q.alone w) w)] := by
    rw [told_endBatch]
    exact told_runWorkset (q.taking w) (q.alone w) w
  unfold answer? at fresh ⊢
  rw [told, List.find?_append, Option.map_eq_none_iff.mp fresh]
  simp

/-- Whoever submits a workset and waits for the answer gets a batch of its own. -/
theorem submit_eq (ready : Ready q) (credit : 0 < q.credit) :
    q.submit (.workset w)
      = ((q.taking w).outcome (q.alone w) w, ((q.ending w).endBatch 1).renew.spend) := by
  have fresh := ready.answer?_next
  have answered := answer?_ended w fresh
  have waits : ([q.nextTicket].filter fun t => ((q.holding w).answer? t).isNone)
      = [q.nextTicket] := by
    have fresh' : (q.holding w).answer? q.nextTicket = none := fresh
    simp [fresh']
  have visited : ((q.ending w).endBatch 1).renew.visit q.nextTicket
      = (true, ((q.ending w).endBatch 1).renew.spend) := by
    have answered' : ((q.ending w).endBatch 1).renew.answer? q.nextTicket = _ := answered
    rw [visit, answered']
    rfl
  have awaited : (q.holding w).await [q.nextTicket] = ((q.ending w).endBatch 1).renew.spend := by
    rw [await, waits]
    simp only [List.length_singleton, rounds,
      settle_holding w ready.rest ready.idle.batchOpen, round, visited]
    rfl
  rw [submit, offer_ready w ready.rest credit]
  simp only [awaited]
  refine Prod.ext ?_ rfl
  show (((q.ending w).endBatch 1).answer? q.nextTicket).getD _ = _
  rw [answered]
  rfl

theorem submit_answer (q : Queue ε) (job : Job) :
    (q.submit job).1 = (q.submit job).2.answer q.nextTicket :=
  rfl

theorem serves_submit (ready : Ready q) (credit : 0 < q.credit) :
    Serves q [(q.nextTicket, .workset w)] (q.submit (.workset w)).2 := by
  have offered := (reaches_offer ready.rest.closing (.workset w)).1
  rw [offer_ready w ready.rest credit] at offered
  obtain ⟨h, came⟩ := offered
  have none : h.runs = [] := came.runs_eq_nil rfl
  obtain ⟨h', ran, runs⟩ := run_holding w ready.rest ready.idle.batchOpen
  obtain ⟨h'', seen⟩ := (reaches_renew ((q.ending w).endBatch 1)).trans (reaches_spend _)
  have none' : History.runs h'' = [] := seen.runs_eq_nil rfl
  have rest := atRest_ended w ready.rest
  have spent : 0 < fullCredit - 1 := by decide
  rw [submit_eq w ready credit]
  refine ⟨⟨_, (came.append ran).append seen, ?_⟩,
    ⟨rest.phase, rest.entries, rest.blocked, rest.closing⟩, spent⟩
  simp only [History.runs, List.flatMap_append] at none none' runs ⊢
  rw [none, none', runs]
  rfl

end Submit

/-! ## The steps of such a batch -/

theorem exists_rest {q : Queue ε} {e : Entry} {w : Workset} (running : q.phase = .running e 0)
    (job : e.job = .workset w) (entries : q.entries = []) (blocked : q.blocked = [])
    (closing : q.closing = false) :
    ∃ q', Run q [.ran e.ticket w q.now, .drained, .ended q.now] q' ∧ AtRest q'
      ∧ q'.nextTicket = q.nextTicket ∧ q'.now = q.now := by
  have ran := sameJobs_runWorkset q e w
  have run := ((Run.single (.run running job)).snoc
    (.drain rfl (.inl (ran.entries.trans entries)))).snoc (.endBatch rfl)
  generalize hq : ({ q.runWorkset e w with phase := .ending 1 } : Queue ε) = q₁ at run
  have same := sameJobs_endBatch q₁ 1
  have now : q₁.now = q.now := by
    rw [← hq]
    exact now_runWorkset q e w
  refine ⟨_, now ▸ run, ⟨phase_endBatch .., ?_, ?_, ?_⟩, ?_, (now_endBatch ..).trans now⟩
  · exact same.entries.trans (hq ▸ ran.entries.trans entries)
  · exact same.blocked.trans (hq ▸ ran.blocked.trans blocked)
  · exact same.closing.trans (hq ▸ ran.closing.trans closing)
  · exact same.nextTicket.trans (hq ▸ ran.nextTicket)

/-- What happens when a workset comes, after some time, to a worker at rest. -/
def solo (ticket : Nat) (w : Workset) (now : Nat) : History :=
  [.passed, .arrived (ticket, .workset w), .entered (ticket, .workset w),
    .received (ticket, .workset w), .ran ticket w now, .drained, .ended now]

theorem exists_solo {q : Queue ε} (rest : AtRest q) (noBatch : q.processor.batchOpen = false)
    (w : Workset) {now : Nat} (later : q.now ≤ now) :
    ∃ q', Run q (solo q.nextTicket w now) q' ∧ AtRest q' ∧ q'.nextTicket = q.nextTicket + 1
      ∧ q'.now = now := by
  have room : q.entries.length < q.capacity := by
    rw [rest.entries]
    exact Nat.lt_of_lt_of_le Nat.one_pos (Nat.le_max_right _ _)
  have going : q.refuses = false := by simp [refuses, rest.phase, Phase.isOver]
  have came := ((Run.single (.pass now q.credit later)).snoc
    (.arrive (.workset w) rest.closing)).snoc
    (.enter (show _ = [] ++ q.alone w :: [] by rw [rest.blocked]; rfl) going room)
  obtain ⟨q₁, taken, running, entries, blocked, closing, ticket, same⟩ : ∃ q₁, Run q _ q₁
      ∧ q₁.phase = .running (q.alone w) 0 ∧ q₁.entries = [] ∧ q₁.blocked = [] ∧ q₁.closing = false
      ∧ q₁.nextTicket = q.nextTicket + 1 ∧ q₁.now = now :=
    ⟨_, came.snoc (.receive rest.phase (by rw [rest.entries]; rfl) noBatch), rfl, rfl, rfl,
      rest.closing, rfl, rfl⟩
  obtain ⟨q', run, rest', ticket', same'⟩ := exists_rest running rfl entries blocked closing
  rw [same] at run
  exact ⟨q', taken.append run, rest', ticket'.trans ticket, same'.trans same⟩

end WritePath.Queue
