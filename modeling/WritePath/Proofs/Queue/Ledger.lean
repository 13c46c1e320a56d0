import Mathlib.Data.List.Perm.Basic
import WritePath.Proofs.Queue.Run

/-!
# The ledger of a run

What a history says about every submission, and the invariant that ties it to
the state of the queue (`Ledger`): where each submission is, that those which
got in leave the queue in the order in which they came into it, and who has been
told.

Four of the five lists below are filled by one kind of event each.
`settlements` is filled by all the ways in which the worker can be done with a
submission that got in: it was run, it was given up when no batch or no workset
could be opened for it, or it went down with a crash.
-/

namespace WritePath

namespace Event

/-- The submission that comes. -/
def arrivals : Event → List Submission
  | .arrived s => [s]
  | _ => []

/-- The submission that gets in. -/
def entries : Event → List Submission
  | .entered s => [s]
  | _ => []

/-- The submission that is turned away. -/
def refusals : Event → List Submission
  | .refused s => [s]
  | _ => []

/-- The submission that is taken back. -/
def withdrawals : Event → List Submission
  | .withdrew s => [s]
  | _ => []

/-- The submission that is run to its end. -/
def runs : Event → List Submission
  | .ran ticket w _ => [(ticket, .workset w)]
  | _ => []

/-- The submissions that the worker is done with. -/
def settlements : Event → List Submission
  | .ran ticket w _ => [(ticket, .workset w)]
  | .spurned s => [s]
  | .rejected s => [s]
  | .crashed s behind => s :: behind
  | _ => []

end Event

namespace History

def arrivals (h : History) : List Submission := h.flatMap Event.arrivals

def entries (h : History) : List Submission := h.flatMap Event.entries

def refusals (h : History) : List Submission := h.flatMap Event.refusals

def withdrawals (h : History) : List Submission := h.flatMap Event.withdrawals

def runs (h : History) : List Submission := h.flatMap Event.runs

def settlements (h : History) : List Submission := h.flatMap Event.settlements

/-- The submissions whose submitters were told something. -/
def answered (h : History) : List Submission :=
  h.flatMap fun a => a.settlements ++ a.refusals

@[simp] theorem arrivals_snoc (h : History) (a : Event) :
    arrivals (h ++ [a]) = h.arrivals ++ a.arrivals := by simp [arrivals]

@[simp] theorem entries_snoc (h : History) (a : Event) :
    entries (h ++ [a]) = h.entries ++ a.entries := by simp [entries]

@[simp] theorem refusals_snoc (h : History) (a : Event) :
    refusals (h ++ [a]) = h.refusals ++ a.refusals := by simp [refusals]

@[simp] theorem withdrawals_snoc (h : History) (a : Event) :
    withdrawals (h ++ [a]) = h.withdrawals ++ a.withdrawals := by simp [withdrawals]

@[simp] theorem runs_snoc (h : History) (a : Event) :
    runs (h ++ [a]) = h.runs ++ a.runs := by simp [runs]

@[simp] theorem settlements_snoc (h : History) (a : Event) :
    settlements (h ++ [a]) = h.settlements ++ a.settlements := by simp [settlements]

@[simp] theorem answered_snoc (h : History) (a : Event) :
    answered (h ++ [a]) = h.answered ++ (a.settlements ++ a.refusals) := by simp [answered]

theorem answered_perm (h : History) :
    (h.settlements ++ h.refusals).Perm h.answered :=
  List.flatMap_append_perm h Event.settlements Event.refusals

theorem runs_sublist (h : History) : h.runs.Sublist h.settlements := by
  induction h with
  | nil => exact List.Sublist.refl _
  | cons a h ih =>
    show (a.runs ++ runs h).Sublist (a.settlements ++ settlements h)
    refine List.Sublist.append ?_ ih
    cases a <;> first | exact List.Sublist.refl _ | exact List.nil_sublist _

end History

namespace Queue

variable {ε : Type}

/-- Where the submissions are. -/
structure Ledger (h : History) (q : Queue ε) : Prop where
  /-- Tickets are numbers in the order of the submissions. -/
  tickets : h.arrivals.map Prod.fst = List.range q.nextTicket
  /-- Whoever came still waits in front of the queue, got in, was turned away or
  went away. -/
  spread : (q.blocked.map Entry.submission ++ h.entries ++ h.refusals ++ h.withdrawals).Perm
    h.arrivals
  /-- What got in and is not done with is what the worker holds, followed by the
  queue. -/
  order : h.entries
    = h.settlements ++ q.phase.held.map Entry.submission ++ q.entries.map Entry.submission
  told : q.told.map Prod.fst = h.answered.map Prod.fst
  /-- The queue never holds more than it can. -/
  bounded : q.entries.length ≤ q.capacity

theorem Ledger.start (p : Processor ε) (size : Nat) : Ledger [] (start p size) where
  tickets := rfl
  spread := List.Perm.refl _
  order := rfl
  told := rfl
  bounded := Nat.zero_le _

/-! ## One step

Submitters move submissions between the front of the queue and the queue, and
the worker moves them from the queue into what it is done with.  Whoever moves
them, nothing is lost on the way: what a step takes from one side of the account
it puts on the other (`Balanced`). -/

/-- What a step changes in the account. -/
structure Balanced (q : Queue ε) (a : Event) (q' : Queue ε) : Prop where
  tickets : List.range q.nextTicket ++ a.arrivals.map Prod.fst = List.range q'.nextTicket
  spread : ∀ s, (q.blocked.map Entry.submission).count s + a.arrivals.count s
    = (q'.blocked.map Entry.submission).count s + a.entries.count s + a.refusals.count s
      + a.withdrawals.count s
  order : q.phase.held.map Entry.submission ++ q.entries.map Entry.submission ++ a.entries
    = a.settlements ++ q'.phase.held.map Entry.submission ++ q'.entries.map Entry.submission
  told : q'.told.map Prod.fst
    = q.told.map Prod.fst ++ (a.settlements ++ a.refusals).map Prod.fst
  bounded : q.entries.length ≤ q.capacity → q'.entries.length ≤ q'.capacity

theorem Ledger.snoc {h : History} {q q' : Queue ε} {a : Event} (l : Ledger h q)
    (b : Balanced q a q') :
    Ledger (h ++ [a]) q' := by
  refine ⟨?_, ?_, ?_, ?_, b.bounded l.bounded⟩
  · rw [History.arrivals_snoc, List.map_append, l.tickets, b.tickets]
  · rw [List.perm_iff_count]
    intro s
    have before := l.spread.count_eq s
    have moved := b.spread s
    simp only [History.arrivals_snoc, History.entries_snoc, History.refusals_snoc,
      History.withdrawals_snoc, List.count_append] at before ⊢
    omega
  · have order := b.order
    rw [History.entries_snoc, History.settlements_snoc, l.order]
    simp only [List.append_assoc] at order ⊢
    rw [order]
  · rw [b.told, l.told, History.answered_snoc, ← List.map_append]

/-- A step of the worker leaves alone whatever is in front of the queue. -/
theorem Balanced.worker {q q' : Queue ε} {a : Event}
    (others : a.arrivals = [] ∧ a.entries = [] ∧ a.refusals = [] ∧ a.withdrawals = [])
    (blocked : q'.blocked = q.blocked) (ticket : q'.nextTicket = q.nextTicket)
    (size : q'.size = q.size)
    (order : q.phase.held.map Entry.submission ++ q.entries.map Entry.submission
      = a.settlements ++ q'.phase.held.map Entry.submission
        ++ q'.entries.map Entry.submission)
    (told : q'.told.map Prod.fst = q.told.map Prod.fst ++ a.settlements.map Prod.fst)
    (shorter : q'.entries.length ≤ q.entries.length) : Balanced q a q' := by
  obtain ⟨noArrival, noEntry, noRefusal, noWithdrawal⟩ := others
  refine ⟨?_, fun s => ?_, ?_, ?_, fun fits => ?_⟩
  · rw [noArrival, ticket, List.map_nil, List.append_nil]
  · simp only [noArrival, noEntry, noRefusal, noWithdrawal, blocked, List.count_nil,
      Nat.add_zero]
  · rw [noEntry, List.append_nil, order]
  · rw [told, noRefusal, List.append_nil]
  · have : q'.capacity = q.capacity := by simp only [capacity, size]
    rw [this]
    exact Nat.le_trans shorter fits

theorem Balanced.submitter {q q' : Queue ε} {a : Event}
    {before after : List Entry} {e : Entry}
    (was : q.blocked = before ++ e :: after)
    (blocked : q'.blocked = before ++ after)
    (ticket : q'.nextTicket = q.nextTicket) (noArrival : a.arrivals = [])
    (noSettlement : a.settlements = [])
    (one : a.entries ++ a.refusals ++ a.withdrawals = [e.submission])
    (held : q'.phase.held = q.phase.held)
    (entries : q'.entries.map Entry.submission = q.entries.map Entry.submission ++ a.entries)
    (told : q'.told.map Prod.fst = q.told.map Prod.fst ++ a.refusals.map Prod.fst)
    (bounded : q.entries.length ≤ q.capacity → q'.entries.length ≤ q'.capacity) :
    Balanced q a q' := by
  refine ⟨?_, fun s => ?_, ?_, ?_, bounded⟩
  · rw [noArrival, ticket, List.map_nil, List.append_nil]
  · have gone := congrArg (List.count s) one
    simp only [List.count_append] at gone
    simp only [was, blocked, noArrival, List.map_append, List.map_cons, List.count_append,
      List.count_cons, List.count_nil] at gone ⊢
    omega
  · rw [noSettlement, held, entries]
    simp only [List.nil_append, List.append_assoc]
  · rw [told, noSettlement, List.nil_append]

theorem balanced_concluded {q : Queue ε} {e : Entry} {count : Nat} {w : Workset}
    (settled : Settled ε Output) :
    q.phase = .running e count → e.job = .workset w →
      Balanced q (.ran e.ticket w q.now)
        { q.concluded e settled with phase := .drawing (count + 1) } := by
  intro hp hj
  have same := sameJobs_concluded q e settled
  refine .worker ⟨rfl, rfl, rfl, rfl⟩ same.blocked same.nextTicket same.size ?_ ?_ ?_
  · simp [hp, hj, Phase.held, Event.settlements, same.entries, Entry.submission]
  · simp [told_concluded, Event.settlements]
  · simp [same.entries]

variable [Engine ε]

theorem Step.balanced {q q' : Queue ε} {a : Event} (s : Step q a q') :
    Balanced q a q' := by
  cases s with
  | arrive job _ =>
    refine ⟨?_, fun s => ?_, ?_, ?_, id⟩
    · simp [Event.arrivals, List.range_succ]
    · simp [Event.arrivals, Event.entries, Event.refusals, Event.withdrawals, Entry.submission]
    · simp [Event.entries, Event.settlements]
    · simp [Event.settlements, Event.refusals]
  | @enter before after e hb _ hc =>
    refine .submitter hb rfl rfl rfl rfl rfl rfl ?_ ?_ fun _ => ?_
    · simp [Event.entries]
    · simp [Event.refusals]
    · show (q.entries ++ [e]).length ≤ q.capacity
      rw [List.length_append]
      exact hc
  | @refuse before after e hb _ =>
    exact .submitter hb rfl rfl rfl rfl rfl rfl (by simp [Event.entries, tell])
      (by simp [Event.refusals, tell, Entry.submission]) id
  | @withdraw before after e hb =>
    exact .submitter hb rfl rfl rfl rfl rfl rfl (by simp [Event.entries])
      (by simp [Event.refusals]) id
  | deafen ticket =>
    refine .worker ⟨rfl, rfl, rfl, rfl⟩ rfl rfl rfl ?_ (by simp [Event.settlements]) (by simp)
    cases q.phase <;> simp [Phase.deafen, Phase.held, Event.settlements, Function.comp_def]
  | @receive first rest hp he hb =>
    refine .worker ⟨rfl, rfl, rfl, rfl⟩ rfl rfl rfl ?_ (by simp [Event.settlements])
      (by simp [he])
    simp [hp, he, Phase.held, Event.settlements]
  | @spurn first rest hp he hb =>
    refine .worker ⟨rfl, rfl, rfl, rfl⟩ rfl rfl rfl ?_ ?_ (by simp [he, tell, note])
    · simp [hp, he, Phase.held, Event.settlements, tell, note]
    · simp [Event.settlements, tell, note, Entry.submission]
  | run hp hj => exact balanced_concluded _ hp hj
  | @crash e count hp hj hw =>
    refine .worker ⟨rfl, rfl, rfl, rfl⟩ rfl rfl rfl ?_ ?_ (Nat.zero_le _)
    · simp [hp, Phase.held, Event.settlements, Queue.crash, tell]
    · simp [Event.settlements, Queue.crash, tell, Entry.submission, Function.comp_def]
  | @reject e count o hp hj hw =>
    refine .worker ⟨rfl, rfl, rfl, rfl⟩ rfl rfl rfl ?_ ?_ (Nat.le_refl _)
    · simp [hp, Phase.held, Event.settlements, tell, note]
    · simp [Event.settlements, tell, note, Entry.submission]
  | @draw next rest count hp he hc =>
    refine .worker ⟨rfl, rfl, rfl, rfl⟩ rfl rfl rfl ?_ (by simp [Event.settlements])
      (by simp [he])
    simp [hp, he, Phase.held, Event.settlements]
  | @drain count hp he =>
    refine .worker ⟨rfl, rfl, rfl, rfl⟩ rfl rfl rfl ?_ (by simp [Event.settlements])
      (Nat.le_refl _)
    simp [hp, Phase.held, Event.settlements]
  | @endBatch count hp =>
    have same := sameJobs_endBatch q count
    refine .worker ⟨rfl, rfl, rfl, rfl⟩ same.blocked same.nextTicket same.size ?_ ?_ ?_
    · simp [hp, phase_endBatch, same.entries, Phase.held, Event.settlements]
    · simp [told_endBatch, Event.settlements]
    · simp [same.entries]
  | expire hp hd =>
    exact .worker ⟨rfl, rfl, rfl, rfl⟩ rfl rfl rfl (by simp [Queue.expire, Event.settlements])
      (by simp [Queue.expire, Event.settlements]) (Nat.le_refl _)
  | pass later credit _ =>
    exact .worker ⟨rfl, rfl, rfl, rfl⟩ rfl rfl rfl (by simp [Event.settlements])
      (by simp [Event.settlements]) (Nat.le_refl _)
  | stop _ =>
    exact .worker ⟨rfl, rfl, rfl, rfl⟩ rfl rfl rfl
      (by simp [Queue.stop, note, Event.settlements])
      (by simp [Queue.stop, note, Event.settlements]) (Nat.le_refl _)
  | finish _ hp he _ =>
    exact .worker ⟨rfl, rfl, rfl, rfl⟩ rfl rfl rfl
      (by simp [Queue.finish, note, hp, Phase.held, Event.settlements])
      (by simp [Queue.finish, note, Event.settlements]) (Nat.le_refl _)

theorem Ledger.of_run {p : Processor ε} {size : Nat} {h : History} {q : Queue ε}
    (r : Run (Queue.start p size) h q) : Ledger h q :=
  r.invariant (.start p size) fun _ l s => l.snoc s.balanced

end Queue

end WritePath
