import Mathlib.Data.List.Nodup
import WritePath.Engine.Memory
import WritePath.Proofs.Queue.Endings

/-!
# Nothing is lost, and nothing is done twice

Whatever the submitters, the worker and the clock do, and in whatever order
(`Queue.conservation`):

* every submission has one `Standing` and no other;
* what got in is done with in the order in which it got in, each job once;
* everyone is told at most once, and whose workset was run is told what the
  processor answered to it;
* a worker that comes to its end has run everything that got in;
* a worker that crashes runs nothing any more, and tells all whom it leaves
  behind that they were dropped.

The first three come from the `Ledger`, where they are questions of counting;
the last two are about the ends of a worker.
-/

namespace WritePath

/-- Where a submission can be. -/
inductive Standing where
  /-- In front of the queue. -/
  | waiting
  | queued
  | running
  /-- The worker is done with it. -/
  | resolved
  /-- It was turned away. -/
  | refused
  /-- It was taken back before it got in. -/
  | withdrawn

namespace Queue

variable {ε : Type}

/-- The tickets of the submissions with a standing. -/
def tickets (q : Queue ε) (h : History) : Standing → List Nat
  | .waiting => q.blocked.map Entry.ticket
  | .queued => q.entries.map Entry.ticket
  | .running => q.phase.held.map Entry.ticket
  | .resolved => h.settlements.map Prod.fst
  | .refused => h.refusals.map Prod.fst
  | .withdrawn => h.withdrawals.map Prod.fst

/-! ## Standings -/

theorem map_fst_submission (l : List Entry) :
    (l.map Entry.submission).map Prod.fst = l.map Entry.ticket := by
  rw [List.map_map]
  rfl

/-- Every ticket that was given out is under all standings together once, and no
other ticket is anywhere. -/
theorem Ledger.count_tickets {h : History} {q : Queue ε} (l : Ledger h q)
    (t : Nat) :
    (q.tickets h .waiting).count t + (q.tickets h .queued).count t
      + (q.tickets h .running).count t + (q.tickets h .resolved).count t
      + (q.tickets h .refused).count t + (q.tickets h .withdrawn).count t
      = if t < q.nextTicket then 1 else 0 := by
  -- `spread` counts what came, `order` splits what got in
  have spread := (l.spread.map Prod.fst).count_eq t
  rw [l.tickets, l.order, List.nodup_range.count] at spread
  simp only [List.map_append, List.count_append, map_fst_submission, List.mem_range] at spread
  simp only [Queue.tickets]
  omega

theorem exists_unique_standing {f : Standing → Nat}
    (h : f .waiting + f .queued + f .running + f .resolved + f .refused + f .withdrawn = 1) :
    ∃! standing, 0 < f standing := by
  have one : 0 < f .waiting ∨ 0 < f .queued ∨ 0 < f .running ∨ 0 < f .resolved
      ∨ 0 < f .refused ∨ 0 < f .withdrawn := by omega
  rcases one with pos | pos | pos | pos | pos | pos <;>
    refine ⟨_, pos, fun standing (other : 0 < f standing) => ?_⟩ <;>
    cases standing <;> first | rfl | omega

theorem Ledger.placed {h : History} {q : Queue ε} (l : Ledger h q) {t : Nat}
    (ht : t < q.nextTicket) :
    ∃! standing, t ∈ q.tickets h standing := by
  have count := l.count_tickets t
  rw [if_pos ht] at count
  simpa only [List.count_pos_iff] using
    exists_unique_standing (f := fun standing => (q.tickets h standing).count t) count

theorem Ledger.known {h : History} {q : Queue ε} (l : Ledger h q) {t : Nat}
    {standing : Standing} (ht : t ∈ q.tickets h standing) : t < q.nextTicket := by
  have count := l.count_tickets t
  have pos := List.count_pos_iff.mpr ht
  by_contra late
  rw [if_neg late] at count
  cases standing <;> omega

theorem Ledger.nodup_entries {h : History} {q : Queue ε} (l : Ledger h q) :
    (h.entries.map Prod.fst).Nodup := by
  rw [List.nodup_iff_count_le_one]
  intro t
  have count := l.count_tickets t
  rw [l.order]
  simp only [Queue.tickets] at count
  simp only [List.map_append, List.count_append, map_fst_submission]
  split at count <;> omega

theorem Ledger.perm_told {h : History} {q : Queue ε} (l : Ledger h q) :
    (q.told.map Prod.fst).Perm (q.tickets h .resolved ++ q.tickets h .refused) := by
  rw [l.told]
  simpa [Queue.tickets] using (h.answered_perm.map Prod.fst).symm

theorem Ledger.nodup_told {h : History} {q : Queue ε} (l : Ledger h q) :
    (q.told.map Prod.fst).Nodup := by
  rw [l.perm_told.nodup_iff, List.nodup_iff_count_le_one]
  intro t
  have count := l.count_tickets t
  rw [List.count_append]
  split at count <;> omega

variable [Engine ε]

/-- What every run keeps. -/
structure Conserved (p : Processor ε) (h : History) (q : Queue ε) : Prop where
  /-- Every submission has one standing and no other, -/
  placed : ∀ t < q.nextTicket, ∃! standing, t ∈ q.tickets h standing
  /-- and nothing else is anywhere. -/
  known : ∀ t standing, t ∈ q.tickets h standing → t < q.nextTicket
  bounded : q.entries.length ≤ q.capacity
  /-- Nothing gets in twice, -/
  once : (h.entries.map Prod.fst).Nodup
  /-- and what got in is done with in the order in which it got in. -/
  order : h.entries
    = h.settlements ++ q.phase.held.map Entry.submission ++ q.entries.map Entry.submission
  runs : h.runs.Sublist h.settlements
  /-- Everybody is told at most once, who was turned away or whose job is done
  with, -/
  toldOnce : (q.told.map Prod.fst).Nodup
  told : ∀ t,
    t ∈ q.told.map Prod.fst ↔ t ∈ q.tickets h .resolved ∨ t ∈ q.tickets h .refused
  /-- and whose workset was run, what the processor answered to it. -/
  ran : ∀ (before : History) ticket w now after,
    h = before ++ .ran ticket w now :: after →
    (ticket, w.verdict now (before.act p)) ∈ q.told
      ∧ (p.Idle → (w.run now true (before.act p)).told = some (w.verdict now (before.act p)))
  refused : ∀ s ∈ h.refusals, (s.1, .error (.closed p.index)) ∈ q.told
  /-- Who comes to the end has run everything that got in. -/
  finished : p.Idle → q.phase = .closed →
    q.entries = [] ∧ q.blocked = [] ∧ h.runs = h.entries
      ∧ ∀ s ∈ h.entries, s.1 ∈ q.told.map Prod.fst
  /-- Who crashes runs nothing any more, neither the job itself nor those that
  were in the queue. -/
  crashed : ∀ (before : History) s behind after,
    h = before ++ .crashed s behind :: after →
    Wreck p.index before s behind h q ∧ (∀ x ∈ s :: behind, x.1 ∉ h.runs.map Prod.fst)
      ∧ q.close.1 = .error (abnormal p.index)
  /-- Without a crash there is no wreck. -/
  unharmed : q.phase = .crashed →
    ∃ before s behind after, h = before ++ .crashed s behind :: after

/-- **Conservation.**  Whatever happens to a queue, in whatever order. -/
theorem conservation {p : Processor ε} {size : Nat} {h : History} {q : Queue ε}
    (r : Run (Queue.start p size) h q) : Conserved p h q := by
  have l := Ledger.of_run r
  have told (t : Nat) :
      t ∈ q.told.map Prod.fst ↔ t ∈ q.tickets h .resolved ∨ t ∈ q.tickets h .refused := by
    rw [l.perm_told.mem_iff, List.mem_append]
  refine
    { placed := fun t ht => l.placed ht
      known := fun t standing ht => l.known ht
      bounded := l.bounded
      once := l.nodup_entries
      order := l.order
      runs := h.runs_sublist
      toldOnce := l.nodup_told
      told := told
      ran := fun _ _ _ _ _ hh => ⟨r.ran_told hh, fun idle => r.answers idle hh⟩
      refused := r.refused_told
      finished := ?finished
      crashed := ?crashed
      unharmed := r.exists_crash }
  case finished =>
    intro idle hq
    obtain ⟨-, entries, blocked⟩ := Finished.of_run r hq
    have runs := r.runs_eq idle hq
    refine ⟨entries, blocked, runs, fun s hs => (told s.1).mpr (.inl ?_)⟩
    rw [← runs] at hs
    exact List.mem_map_of_mem (h.runs_sublist.subset hs)
  case crashed =>
    intro before s behind after hh
    have w := r.wreck before s behind after hh
    refine ⟨w, fun x hx ran => ?_, by rw [close_crashed w.phase, r.index]⟩
    have nodup := l.nodup_entries
    rw [w.entries, w.left, List.map_append] at nodup
    have earlier : x.1 ∈ before.settlements.map Prod.fst := by
      rw [w.runs] at ran
      exact (before.runs_sublist.map Prod.fst).subset ran
    exact (List.nodup_append.mp nodup).2.2 _ earlier _ (List.mem_map_of_mem hx) rfl

/-- A workset is run to its end.  Then either the worker crashes in the next job,
with another one behind it and one more that comes too late, or the queue is closed
and the worker comes to its end. -/
theorem conservation_after_crash :
    let p : Processor Engine.Memory :=
      { index := ⟨"books"⟩, engine := {}, journal := { handling := .collecting } }
    (∃ h q, Run (start p 2) h q ∧ q.phase = .crashed ∧ h.runs.map Prod.fst = [0]
        ∧ q.told.map Prod.fst = [0, 1, 2, 3] ∧ Conserved p h q)
      ∧ ∃ h q, Run (start p 2) h q ∧ q.phase = .closed ∧ h.runs.map Prod.fst = [0]
        ∧ q.told.map Prod.fst = [0] ∧ Conserved p h q := by
  intro p
  let flush : Workset := { content := .single .flush, strategies := { commit := .force } }
  let q : Queue Engine.Memory := start p 2
  let first : Entry := { ticket := 0, job := .workset flush }
  let second : Entry := { ticket := 1, job := .crash }
  let third : Entry := { ticket := 2, job := .workset flush }
  let began : Processor Engine.Memory := { q.processor with batchOpen := true }
  obtain ⟨done, closed, settled⟩ : ∃ done : Processor Engine.Memory,
      done.workset = none
        ∧ flush.run 0 true began = ⟨.ok (), some (.ok .unit), done⟩ := ⟨_, rfl, rfl⟩
  let told : List (Nat × Except Failure Output) := [(0, .ok .unit)]
  have front {q : Queue Engine.Memory} {e : Entry} (h : q.blocked = [e]) :
      q.blocked = [] ++ e :: [] := h
  have entered : Run q _ { q with entries := [first], nextTicket := 1 } :=
    (Run.single (.arrive (.workset flush) rfl)).snoc (.enter (front rfl) rfl (by decide))
  have received : Run q _ { q with processor := began, phase := .running first 0, nextTicket := 1 } :=
    entered.snoc (.receive rfl rfl rfl)
  constructor
  · have doomed : Run q _
        { q with
          processor := began, entries := [second], phase := .running first 0, nextTicket := 2 } :=
      (received.snoc (.arrive .crash rfl)).snoc (.enter (front rfl) rfl (by decide))
    have drawn : Run q _
        { q with processor := done, phase := .running second 1, told := told, nextTicket := 2 } :=
      (doomed.snoc (.settle rfl rfl settled)).snoc (.draw rfl rfl (show 1 < q.capacity by decide))
    have queued : Run q _
        { q with
          processor := done, entries := [third], phase := .running second 1, told := told
          nextTicket := 3 } :=
      (drawn.snoc (.arrive (.workset flush) rfl)).snoc
        (.enter (front rfl) rfl (show 0 < q.capacity by decide))
    have refused := ((queued.snoc (.crash rfl rfl closed)).snoc (.arrive (.workset flush) rfl)).snoc
      (.refuse (front rfl) rfl)
    exact ⟨_, _, refused, rfl, rfl, rfl, conservation refused⟩
  · have ran := received.snoc (.settle rfl rfl settled)
    let last : Queue Engine.Memory :=
      { q with processor := done, phase := .ending 1, told := told, nextTicket := 1 }
    have drained : Run q _ last := ran.snoc (.drain rfl (.inl rfl))
    have same := sameJobs_endBatch last 1
    have finished := ((drained.snoc (.endBatch rfl)).snoc (.stop same.closing)).snoc
      (.finish rfl (phase_endBatch last 1) same.entries same.blocked)
    refine ⟨_, _, finished, rfl, rfl, ?_, conservation finished⟩
    exact congrArg (List.map Prod.fst) (told_endBatch last 1)

end Queue

end WritePath
