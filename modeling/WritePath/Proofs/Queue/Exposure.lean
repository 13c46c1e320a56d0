import WritePath.Proofs.Queue.Commits
import WritePath.Proofs.Queue.Protocol
import WritePath.Proofs.Queue.Service

/-!
# How much is at stake

However fast the submitters fill the queue up again, a batch is not longer than
the queue may be, because the worker counts the jobs that it has run.  `Fits` is
the invariant: the count stays below the limit while a job is about to run, and
is not zero when the batch ends.  `left` says how many steps the worker has left
in its batch; all that the others do leaves it as it is.

Without an interval nothing is pending after a batch.  So whatever stretch of a
run one looks at in which something is pending all the time, the worksets that
were run in it belong to one batch, and there are not more of them than the batch
may have (`bounded_exposure`).
-/

namespace WritePath

/-- The job that a step runs, to its end or into a crash. -/
def Event.begun : Event → List Submission
  | .crashed s _ => [s]
  | a => a.runs

/-- The jobs that were run, the one included in which the worker has crashed. -/
def History.begun (h : History) : List Submission := h.flatMap Event.begun

@[simp] theorem History.begun_snoc (h : History) (a : Event) :
    begun (h ++ [a]) = h.begun ++ a.begun := by simp [begun]

theorem Event.begun_sublist (a : Event) : a.begun.Sublist a.settlements := by
  cases a with
  | crashed s behind => exact (List.nil_sublist behind).cons_cons s
  | ran => exact List.Sublist.refl _
  | _ => exact List.nil_sublist _

theorem History.begun_eq_runs {h : History} :
    (∀ s behind, .crashed s behind ∉ h) → h.begun = h.runs := by
  intro alive
  refine List.flatMap_congr fun a ha => ?_
  cases a with
  | crashed s behind => exact absurd ha (alive s behind)
  | _ => rfl

theorem History.length_runs_le (h : History) : h.runs.length ≤ h.begun.length := by
  refine List.Sublist.length_le ?_
  induction h with
  | nil => exact List.Sublist.refl _
  | cons a h ih =>
    refine List.Sublist.append ?_ ih
    cases a <;> first | exact List.Sublist.refl _ | exact List.nil_sublist _

namespace Phase

def count : Phase → Nat
  | .running _ count | .drawing count | .ending count => count
  | .waiting | .crashed | .closed => 0

/-- The batch runs a job at least, and `limit` jobs at most. -/
def Fits (limit : Nat) : Phase → Prop
  | .running _ count => count < limit
  | .drawing count | .ending count => 1 ≤ count ∧ count ≤ limit
  | .waiting | .crashed | .closed => True

/-- How many steps the worker has left in its batch, at most. -/
def left (limit : Nat) : Phase → Nat
  | .running _ count => 2 * (limit - count) + 1
  | .drawing count => 2 * (limit - count) + 2
  | .ending _ => 1
  | .waiting | .crashed | .closed => 0

theorem count_le {limit : Nat} {phase : Phase} (fits : phase.Fits limit) : phase.count ≤ limit := by
  cases phase with
  | running next count => exact Nat.le_of_lt fits
  | drawing count | ending count => exact fits.2
  | waiting | crashed | closed => exact Nat.zero_le _

variable (ticket limit : Nat) (phase : Phase)

@[simp] theorem count_deafen : (phase.deafen ticket).count = phase.count := by
  cases phase <;> rfl

@[simp] theorem left_deafen : (phase.deafen ticket).left limit = phase.left limit := by
  cases phase <;> rfl

theorem fits_deafen : (phase.deafen ticket).Fits limit ↔ phase.Fits limit := by
  cases phase <;> rfl

end Phase

namespace Queue

variable {ε : Type} [Engine ε] {q q' : Queue ε} {a : Event}

/-! ## One step -/

theorem Step.capacity (s : Step q a q') : q'.capacity = q.capacity := by
  have size : q'.size = q.size := by
    cases s with
    | @run e count w hp hj => exact (sameJobs_runWorkset q e w).size
    | @endBatch count hp => exact (sameJobs_endBatch q count).size
    | _ => rfl
  simp only [Queue.capacity, size]

theorem Step.fits (s : Step q a q') :
    q.phase.Fits q.capacity → q'.phase.Fits q'.capacity := by
  intro fits
  rw [s.capacity]
  cases s with
  | deafen ticket => exact (q.phase.fits_deafen ticket q.capacity).mpr fits
  | receive => exact Nat.lt_of_lt_of_le Nat.one_pos (Nat.le_max_right ..)
  | run hp | reject hp =>
    rw [hp] at fits
    exact ⟨Nat.le_add_left .., fits⟩
  | draw hp he hc => exact hc
  | drain hp he =>
    rw [hp] at fits
    exact fits
  | endBatch hp =>
    rw [phase_endBatch]
    trivial
  | crash | finish => trivial
  | _ => exact fits

theorem Step.count (s : Step q a q') (taken : ∀ s, a ≠ .rejected s)
    (going : ∀ now, a ≠ .ended now) :
    q'.phase.isOver = false → q'.phase.count = q.phase.count + a.begun.length := by
  intro open'
  cases s with
  | deafen ticket => exact q.phase.count_deafen ticket
  | receive hp | run hp | draw hp | drain hp =>
    rw [hp]
    rfl
  | reject => exact absurd rfl (taken _)
  | endBatch => exact absurd rfl (going _)
  | crash | finish => cases open'
  | _ => rfl

/-- The worker has one step less left when it has moved, and as many otherwise. -/
theorem Step.left (s : Step q a q') (fits : q.phase.Fits q.capacity) :
    0 < q.phase.left q.capacity →
      q'.phase.left q'.capacity + (if a.ofWorker then 1 else 0) ≤ q.phase.left q.capacity
        ∧ ((∀ now, a ≠ .ended now) → (∀ s behind, a ≠ .crashed s behind) →
          0 < q'.phase.left q'.capacity) := by
  intro inside
  rw [s.capacity]
  cases s with
  | receive hp | spurn hp | expire hp | finish _ hp =>
    rw [hp] at inside
    cases inside
  | run hp | reject hp =>
    rw [hp] at fits ⊢
    have below : _ < q.capacity := fits
    exact ⟨by simp [Phase.left, Event.ofWorker]; omega, fun _ _ => Nat.succ_pos _⟩
  | draw hp he hc =>
    rw [hp]
    exact ⟨by simp [Phase.left, Event.ofWorker], fun _ _ => Nat.succ_pos _⟩
  | drain hp he =>
    rw [hp]
    exact ⟨by simp [Phase.left, Event.ofWorker], fun _ _ => Nat.one_pos⟩
  | endBatch hp =>
    rw [phase_endBatch, hp]
    exact ⟨Nat.le_refl _, fun going => absurd rfl (going _)⟩
  | crash hp =>
    exact ⟨inside, fun _ alive => absurd rfl (alive _ _)⟩
  | deafen ticket => simpa [Event.ofWorker] using inside
  | _ => exact ⟨Nat.le_refl _, fun _ _ => inside⟩

/-! ## A stretch of a run -/

variable {p : Processor ε} {size : Nat} {h l : History}

theorem Run.capacity (r : Run q h q') : q'.capacity = q.capacity := by
  induction r with
  | start => rfl
  | snoc _ s ih => exact s.capacity.trans ih

theorem Run.fits (r : Run (Queue.start p size) h q) : q.phase.Fits q.capacity :=
  r.invariant (P := fun _ q => q.phase.Fits q.capacity) trivial fun _ fits s => s.fits fits

/-- As long as no batch ends, the jobs that are run belong to one batch. -/
theorem Run.stretch (idle : p.Idle) (r₀ : Run (Queue.start p size) h q) (r : Run q l q')
    (going : ∀ now, .ended now ∉ l) :
    l.begun.length ≤ q.capacity
      ∧ (q'.phase.isOver = false → q'.phase.count = q.phase.count + l.begun.length) := by
  induction r with
  | start => exact ⟨Nat.zero_le _, fun _ => rfl⟩
  | @snoc q₁ q₂ l a r s ih =>
    obtain ⟨bounded, counted⟩ := ih fun now hn => going now (List.mem_append_left _ hn)
    have last : a ∈ l ++ [a] := List.mem_append_right _ (List.mem_singleton_self a)
    rw [History.begun_snoc, List.length_append]
    cases gone : q₂.phase.isOver with
    | false =>
      have open' : q₁.phase.isOver = false := by
        cases gone' : q₁.phase.isOver with
        | false => rfl
        | true => rw [(s.afterwards gone').phase, gone'] at gone; cases gone
      have taken := fun s' => ((Tidy.of_run idle (r₀.append r)).not_refused s s').2
      have counted : q₂.phase.count = q.phase.count + (l.begun.length + a.begun.length) := by
        rw [s.count taken (fun now hn => going now (hn ▸ last)) gone, counted open', Nat.add_assoc]
      have below := Phase.count_le ((r₀.append r).snoc s).fits
      rw [(r.snoc s).capacity, counted] at below
      exact ⟨by omega, fun _ => counted⟩
    | true =>
      refine ⟨?_, nofun⟩
      rcases s.of_isOver gone with before | ⟨-, s', behind, rfl⟩ | ⟨-, ⟨now, rfl⟩, -⟩
      · have none := a.begun_sublist
        rw [(s.afterwards before).settlements, List.sublist_nil] at none
        rw [none]
        exact bounded
      · -- there was room for the job in which the worker has crashed
        have fits := (r₀.append r).fits
        have same : q₁.capacity = q.capacity := r.capacity
        cases s with
        | crash hp =>
          have counted := counted (by rw [hp]; rfl)
          rw [hp, same] at fits
          rw [hp] at counted
          have below : _ < q.capacity := fits
          simp only [Phase.count] at counted
          simp only [Event.begun, List.length_singleton]
          omega
      · exact bounded

theorem Run.alive (r : Run (Queue.start p size) h q) :
    q.phase.isOver = false → ∀ s behind, .crashed s behind ∉ h := by
  intro open' s behind crashed
  obtain ⟨before, after, hh⟩ := List.append_of_mem crashed
  rw [(r.wreck before s behind after hh).phase] at open'
  cases open'

/-- The worker comes to the end of its batch: each of its steps takes one from
those that it has left. -/
theorem Run.left (r₀ : Run (Queue.start p size) h q) (r : Run q l q')
    (going : ∀ now, .ended now ∉ l) (alive : ∀ s behind, .crashed s behind ∉ l) :
    0 < q.phase.left q.capacity →
      l.countP Event.ofWorker + q'.phase.left q'.capacity ≤ q.phase.left q.capacity
        ∧ 0 < q'.phase.left q'.capacity := by
  intro inside
  induction r with
  | start => exact ⟨by simp, inside⟩
  | @snoc q₁ q₂ l a r s ih =>
    obtain ⟨before, inside⟩ := ih (fun now hn => going now (List.mem_append_left _ hn))
      (fun s behind hn => alive s behind (List.mem_append_left _ hn))
    have last : a ∈ l ++ [a] := List.mem_append_right _ (List.mem_singleton_self a)
    obtain ⟨less, still⟩ := s.left (r₀.append r).fits inside
    refine ⟨?_, still (fun now hn => going now (hn ▸ last))
      (fun s behind hn => alive s behind (hn ▸ last))⟩
    rw [List.countP_append, List.countP_singleton]
    omega

/-! ## A batch -/

theorem Run.opened (r : Run q h q') {before : History} {s : Submission} :
    h = before ++ [.received s] → ∃ e, q'.phase = .running e 0 := by
  intro hh
  obtain ⟨q₁, -, st⟩ := r.last hh
  cases st with
  | receive => exact ⟨_, rfl⟩

theorem exists_step (inside : 0 < q.phase.left q.capacity) : ∃ q', q.step? = some q' := by
  unfold step?
  cases hp : q.phase with
  | running next count | drawing count | ending count => exact ⟨_, rfl⟩
  | waiting | crashed | closed =>
    rw [hp] at inside
    cases inside

/-- Without an interval nothing is pending after a batch, and what was pending
before its end takes one commit. -/
theorem ended_noInterval {p : Processor ε} (now : Nat) :
    p.batchOpen = true → p.workset = none → p.interval = 0 →
      ((Event.ended now).act p).pending = false
        ∧ (p.pending = true → ∃ x, (Event.ended now).commits p = [x]
          ∧ x.initiator = .batch ∧ x.time = now) := by
  intro hb hw hi
  have attempts : Processor.Attempts p.recorded ((Event.ended now).act p.recorded)
      (p.recorded.commitsAtEndBatch now) := Processor.attempts_endBatch now p.recorded
  rw [Processor.commitsAtEndBatch_noInterval (p := p.recorded) now hb hw hi] at attempts
  rw [← Event.pending_recorded, Event.commits, Event.initiator?]
  generalize (Event.ended now).act p.recorded = p' at attempts ⊢
  generalize hp : p.recorded.pending = pending at attempts
  cases attempts with
  | none _ quiet => exact ⟨quiet.trans hp, fun pending => by cases hp.symm.trans pending⟩
  | one result more clear =>
    exact ⟨clear, fun _ => ⟨⟨.batch, now, result⟩, by rw [more]; rfl, rfl, rfl⟩⟩

theorem Run.ended (idle : p.Idle) (zero : p.interval = 0) {now : Nat}
    (r : Run (Queue.start p size) (h ++ [.ended now]) q) :
    (History.act (h ++ [.ended now]) p).pending = false
      ∧ ((h.act p).pending = true → ∃ x, (Event.ended now).commits (h.act p) = [x]
        ∧ x.initiator = .batch ∧ x.time = now) := by
  obtain ⟨q₁, r₁, st⟩ := r.last rfl
  have tidy := Tidy.of_run idle r₁
  have alike := r₁.alike (p := p) rfl
  have batchOpen : (h.act p).batchOpen = true := by
    cases st with
    | endBatch hp =>
      rw [alike.batchOpen, tidy.batchOpen, hp]
      rfl
  rw [History.act_snoc]
  exact ended_noInterval now batchOpen (alike.workset.trans tidy.workset)
    ((h.fixed_act p).interval.trans zero)

/-! ## The bound -/

/-- **Bounded exposure.**  Whatever the submitters do, a batch runs a job at
least, and not more jobs than the queue can hold; and as long as the worker does
not crash in a job, it can go on to the end of the batch, which is not far away.

Without an interval, therefore, while something is pending all the time, no more
worksets are run than fit into one batch.  A batch in which a work was done after
the last commit was attempted attempts one more at its end, and then nothing is
pending. -/
theorem bounded_exposure :
    p.Idle → Run (Queue.start p size) h q →
      (∀ before s inside, h = before ++ .received s :: inside → (∀ now, .ended now ∉ inside) →
        (History.begun inside).length ≤ max size 1
          ∧ ((∀ s behind, .crashed s behind ∉ inside) →
            (∃ q', q.step? = some q') ∧ inside.countP Event.ofWorker ≤ 2 * max size 1))
      ∧ (∀ before s inside now, h = before ++ .received s :: inside ++ [.ended now] →
        (∀ now, .ended now ∉ inside) →
          1 ≤ (History.runs inside).length ∧ (History.runs inside).length ≤ max size 1)
      ∧ (p.interval = 0 →
        (∀ before during, h = before ++ during →
          (∀ first rest, during = first ++ rest → first ≠ [] →
            (History.act (before ++ first) p).pending = true) →
          (History.runs during).length ≤ max size 1)
        ∧ ∀ before s inside now, h = before ++ .received s :: inside ++ [.ended now] →
          (∀ now, .ended now ∉ inside) →
          Processor.Outstanding (History.marks inside (History.act (before ++ [.received s]) p)) →
            (∃ x, (Event.ended now).commits (History.act (before ++ .received s :: inside) p) = [x]
              ∧ x.initiator = .batch ∧ x.time = now)
            ∧ q.processor.pending = false) := by
  intro idle r
  have limit {h₁ : History} {q₁ : Queue ε} (r₁ : Run (Queue.start p size) h₁ q₁) :
      q₁.capacity = max size 1 := r₁.capacity
  refine ⟨?inside, ?batch, fun zero => ⟨?stretch, ?commit⟩⟩
  case inside =>
    intro before s inside hh going
    obtain ⟨q₁, r₁, r₂⟩ := r.split (show h = (before ++ [.received s]) ++ inside by simp [hh])
    obtain ⟨e, opened⟩ := r₁.opened rfl
    refine ⟨limit r₁ ▸ (r₁.stretch idle r₂ going).1, fun alive => ?_⟩
    have inside : q₁.phase.left q₁.capacity = 2 * max size 1 + 1 := by
      rw [opened, limit r₁]
      rfl
    obtain ⟨moved, still⟩ := r₁.left r₂ going alive (by omega)
    exact ⟨exists_step still, by omega⟩
  case batch =>
    intro before s inside now hh going
    have cut : h = (before ++ [.received s]) ++ (inside ++ [.ended now]) := by simp [hh]
    obtain ⟨q₁, r₁, r₂⟩ := r.split cut
    obtain ⟨e, opened⟩ := r₁.opened rfl
    obtain ⟨q₂, ran, st⟩ := r₂.last rfl
    obtain ⟨bounded, counted⟩ := r₁.stretch idle ran going
    refine ⟨?_, (History.length_runs_le inside).trans (limit r₁ ▸ bounded)⟩
    have fits := (r₁.append ran).fits
    cases st with
    | endBatch hp =>
      have alive := (r₁.append ran).alive (by rw [hp]; rfl)
      have all : History.begun inside = History.runs inside :=
        History.begun_eq_runs fun s behind hn => alive s behind (List.mem_append_right _ hn)
      have counted := counted (by rw [hp]; rfl)
      rw [hp] at fits counted
      rw [opened, all] at counted
      have first := fits.1
      simp only [Phase.count] at counted
      omega
  case stretch =>
    intro before during hh stays
    obtain ⟨q₁, r₁, r₂⟩ := r.split hh
    -- no batch ends in between, for nothing would be pending then
    refine (History.length_runs_le during).trans
      (limit r₁ ▸ (r₁.stretch idle r₂ fun now ends => ?_).1)
    obtain ⟨first, rest, rfl⟩ := List.append_of_mem ends
    have cut : h = (before ++ (first ++ [.ended now])) ++ rest := by simp [hh]
    have pending := stays (first ++ [.ended now]) rest (by simp) (by simp)
    obtain ⟨q₂, r₂, -⟩ := r.split cut
    rw [← List.append_assoc] at r₂ pending
    rw [(r₂.ended idle zero).1] at pending
    cases pending
  case commit =>
    intro before s inside now hh going outstanding
    subst hh
    obtain ⟨clear, commits⟩ := r.ended idle zero
    refine ⟨commits ?_, ?_⟩
    · rw [show before ++ .received s :: inside = (before ++ [.received s]) ++ inside by simp,
        History.act_append]
      exact (History.pending_act _ _).mpr (.inl outstanding)
    · exact ((r.alike (p := p) rfl).congr Processor.pending fun _ _ => rfl).symm.trans clear

/-- A queue of size zero holds one job.  While the worker runs it another one comes,
but the batch is over, and ends with a commit. -/
theorem bounded_exposure_of_refilled_queue :
    let p : Processor Engine.Memory :=
      { index := ⟨"books"⟩, engine := {}, journal := { handling := .collecting } }
    ∃ before s inside now q,
      Run (Queue.start p 0) (before ++ .received s :: inside ++ [.ended now]) q
        ∧ q.entries.length = 1 ∧ (History.runs inside).length = 1
        ∧ (∃ x, (Event.ended now).commits (History.act (before ++ .received s :: inside) p) = [x])
        ∧ q.processor.pending = false := by
  intro p
  let w : Workset := { content := .single .flush }
  let job : Job := .workset w
  let before : History := [.arrived (0, job), .entered (0, job)]
  let inside : History := [.arrived (1, job), .entered (1, job), .ran 0 w 0, .drained]
  -- the second job gets in while the first one is about to run
  obtain ⟨q₁, refilled, running, entries, now⟩ : ∃ q₁,
      Run (Queue.start p 0)
        (before ++ [.received (0, job), .arrived (1, job), .entered (1, job)]) q₁
      ∧ q₁.phase = .running { ticket := 0, job := job } 0 ∧ q₁.entries.length = 1 ∧ q₁.now = 0 := by
    have came := ((Run.start (Queue.start p 0)).snoc (.arrive job rfl)).snoc
      (.enter (show _ = [] ++ _ :: [] from rfl) rfl (by decide))
    have refilled := (came.snoc (.receive rfl rfl rfl)).snoc (.arrive job rfl)
    have inQueue := refilled.snoc (.enter (show _ = [] ++ _ :: [] from rfl) rfl (by decide))
    exact ⟨_, inQueue, rfl, rfl, rfl⟩
  have ran := refilled.snoc (.run running rfl)
  have drained := ran.snoc (.drain rfl (.inr ran.capacity.le))
  have ended := drained.snoc (.endBatch rfl)
  have time : (q₁.runWorkset { ticket := 0, job := job } w).now = 0 :=
    (now_runWorkset ..).trans now
  generalize hq : Queue.endBatch (ε := Engine.Memory) _ _ = q at ended
  rw [time, now] at ended
  have still : q.entries.length = 1 := by
    rw [← hq, (sameJobs_endBatch ..).entries]
    exact (congrArg List.length (sameJobs_runWorkset ..).entries).trans entries
  obtain ⟨-, batch, commits⟩ := bounded_exposure ⟨rfl, rfl⟩ ended
  have going : ∀ now, Event.ended now ∉ inside := by simp [inside]
  obtain ⟨least, most⟩ := batch before (0, job) inside 0 rfl going
  obtain ⟨⟨x, commits, -⟩, clear⟩ :=
    (commits rfl).2 before (0, job) inside 0 rfl going
      ⟨[], [], by decide +kernel, List.not_mem_nil⟩
  exact ⟨before, (0, job), inside, 0, q, ended, still, Nat.le_antisymm most least, ⟨x, commits⟩,
    clear⟩

end Queue

end WritePath
