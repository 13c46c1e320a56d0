import Mathlib.Order.Monotone.Basic
import WritePath.Manager
import WritePath.Proofs.Processor.Editions

/-!
# How old a read may be

A `Course` is what happens to a manager from its opening on: the queue takes its
steps, time goes by among them, somebody reads, and the engine changes from
outside so that its calls can fail in every way.

Two parties move the reader.  The worker refreshes it when a workset insists on it
and says nothing to the manager; a read reloads it when the last reload is as old as
the refresh interval, and notes the time if that has gone through.  So the manager
may think its reader older than it is, and never younger: what had been committed
before the last reload that it knows of is visible (`Kept.recent`).  From this one
invariant follows what `Fresh` says of every read.
-/

namespace WritePath

open Engine (Editions Views)

namespace Manager

variable {ε : Type} [Searchable ε] {L : Editions ε} {m m' : Manager ε}

/-! ## Courses -/

inductive Deed where
  /-- The queue takes a step. -/
  | queued (a : Event)
  /-- Somebody reads. -/
  | read
  | logged
  /-- Something happens to the engine that neither commits nor shows anything. -/
  | meddled

inductive Step (L : Editions ε) : Manager ε → Deed → Manager ε → Prop where
  | queued {m : Manager ε} {a : Event} {q : Queue ε} :
      Queue.Step m.queue a q → Step L m (.queued a) { m with queue := q }
  | read (m : Manager ε) : Step L m .read m.read.2
  | logged (m : Manager ε) (level : Log.Level) (text : String) :
      Step L m .logged (m.note level text)
  | meddled {m : Manager ε} {e : ε} :
      L.Keeps m.engine e → Step L m .meddled (m.mapEngine fun _ => e)

/-- A manager from its opening on. -/
structure Course (L : Editions ε) where
  state : Nat → Manager ε
  /-- What leads from a state to the next. -/
  deed : Nat → Deed
  opened : ∃ s handling log e, L.opened e ∧ state 0 = start s handling log e
  step : ∀ i, Step L (state i) (deed i) (state (i + 1))

namespace Course

variable (c : Course L)

def time (i : Nat) : Nat :=
  (c.state i).queue.now

def committed (i : Nat) : List Document :=
  L.committed (c.state i).engine

def visible (i : Nat) : List Document :=
  L.visible (c.state i).engine

/-- The latest state in which that was committed which readers see now. -/
def edition : Nat → Nat
  | 0 => 0
  | i + 1 => if c.visible (i + 1) = c.committed (i + 1) then i + 1 else edition i

end Course

/-- If a read in this state reloads the reader, the reload goes through. -/
def Reloads (m : Manager ε) : Prop :=
  m.isStale = true → ∃ e, Engine.refresh m.engine = (.ok (), e)

/-- What readers see all the time, `edition i` being the state in which that was
committed which they see in the state `i`. -/
structure Course.Fresh (c : Course L) (edition : Nat → Nat) : Prop where
  /-- What is committed changes when a commit succeeds, to what was staged then. -/
  committed : ∀ i, c.committed (i + 1) = c.committed i
    ∨ L.Commits (c.state i).engine (c.committed (i + 1))
  /-- Readers see what was committed at the opening, or at some time since. -/
  visible : ∀ i, c.visible i = c.committed (edition i)
  past : ∀ i, edition i ≤ i
  /-- They never see again what is older. -/
  forward : Monotone edition
  /-- A read counts what is visible after it. -/
  count : ∀ i, c.deed i = .read → (c.state i).count.1 = (c.visible (i + 1)).length
  /-- What had been committed one interval before a read is not newer than what the
  read sees. -/
  fresh : ∀ i, c.deed i = .read → Reloads (c.state i) →
    ∀ j ≤ i, c.time j + (c.state i).refreshInterval ≤ c.time i → j ≤ edition (i + 1)
  /-- A reload that fails shows nothing else, and the next read will try again. -/
  failed : ∀ i, c.deed i = .read → ¬ Reloads (c.state i) →
    c.visible (i + 1) = c.visible i
      ∧ ∀ k > i, (∀ j, i < j → j < k → c.deed j ≠ .read) → (c.state k).isStale = true
  /-- Without an interval a read counts what is committed. -/
  current : ∀ i, c.deed i = .read → (c.state i).refreshInterval = 0 → Reloads (c.state i) →
    (c.state i).count.1 = (c.committed i).length

/-! ## One thing that happens -/

theorem read_ok {e : ε} (stale : m.isStale = true) (h : Engine.refresh m.engine = (.ok (), e)) :
    m.read.2 = { m with queue.processor.engine := e, lastReload := m.queue.now } := by
  simp only [read, stale, if_true, reload, h]

/-- A reload that fails: the engine may have changed, and there is one line more in
the log. -/
theorem read_error {f : Failure} {e : ε} (stale : m.isStale = true)
    (h : Engine.refresh m.engine = (.error f, e)) :
    m.read.2.engine = e ∧ m.read.2.lastReload = m.lastReload
      ∧ m.read.2.refreshInterval = m.refreshInterval ∧ m.read.2.queue.now = m.queue.now := by
  simp only [read, stale, if_true, reload, h]
  exact ⟨rfl, rfl, rfl, rfl⟩

theorem read_young (young : m.isStale = false) : m.read.2 = m := by
  simp only [read, young, Bool.false_eq_true, if_false]

/-- What happens at most from one state to the next. -/
structure Onward (L : Editions ε) (m m' : Manager ε) : Prop where
  moves : L.Moves m.engine m'.engine
  interval : m'.refreshInterval = m.refreshInterval
  now_le : m.queue.now ≤ m'.queue.now
  /-- Whoever notes a reload has seen to it that readers see what is committed. -/
  lastReload : m'.lastReload = m.lastReload
    ∨ m'.lastReload = m'.queue.now
      ∧ (L.sound m.engine → L.visible m'.engine = L.committed m'.engine)

theorem onward_read (L : Editions ε) (m : Manager ε) : Onward L m m.read.2 := by
  cases stale : m.isStale with
  | false =>
    rw [read_young stale]
    exact ⟨.refl m.engine, rfl, Nat.le_refl _, .inl rfl⟩
  | true =>
    rcases h : Engine.refresh m.engine with ⟨f | _, e⟩
    · obtain ⟨engine, last, interval, now⟩ := read_error stale h
      exact ⟨engine ▸ (L.refresh_error h).moves, interval, Nat.le_of_eq now.symm, .inl last⟩
    · obtain ⟨committed, sees⟩ := L.refresh_ok h
      rw [read_ok stale h]
      exact ⟨⟨fun sound => (sees sound).1, .inl committed, fun sound => .inr (sees sound).2⟩, rfl,
        Nat.le_refl _, .inr ⟨rfl, fun sound => (sees sound).2⟩⟩

theorem Step.onward {d : Deed} (s : Step L m d m') : Onward L m m' := by
  cases s with
  | queued s => exact ⟨s.moves L, rfl, s.now_le, .inl rfl⟩
  | read => exact onward_read L m
  | logged level text =>
    exact ⟨.refl m.engine, rfl, Nat.le_refl _, .inl rfl⟩
  | meddled keeps => exact ⟨keeps.moves, rfl, Nat.le_refl _, .inl rfl⟩

theorem Step.lastReload {d : Deed} (s : Step L m d m') (other : d ≠ .read) :
    m'.lastReload = m.lastReload := by
  cases s with
  | queued | logged | meddled => rfl
  | read => exact absurd rfl other

/-! ## All that happens -/

namespace Course

variable (c : Course L)

theorem edition_le (i : Nat) : c.edition i ≤ i := by
  induction i with
  | zero => exact Nat.le_refl 0
  | succ i ih =>
    rw [edition]
    split
    · exact Nat.le_refl _
    · exact Nat.le_succ_of_le ih

theorem edition_le_succ (i : Nat) : c.edition i ≤ c.edition (i + 1) := by
  have le := c.edition_le i
  rw [edition]
  split
  · exact Nat.le_succ_of_le le
  · exact Nat.le_refl _

theorem edition_latest {i : Nat} (latest : c.visible i = c.committed i) : c.edition i = i := by
  cases i with
  | zero => rfl
  | succ i => rw [edition, if_pos latest]

theorem time_mono : Monotone c.time :=
  monotone_nat_of_le_succ fun i => (c.step i).onward.now_le

/-- What holds in every state. -/
structure Kept (i : Nat) : Prop where
  sound : L.sound (c.state i).engine
  visible : c.visible i = c.committed (c.edition i)
  reload_le : (c.state i).lastReload ≤ c.time i
  /-- Readers see all that was committed before the last reload. -/
  recent : ∀ j ≤ i, c.time j < (c.state i).lastReload → j ≤ c.edition i

theorem kept_opening : c.Kept 0 := by
  obtain ⟨s, handling, log, e, opened, start⟩ := c.opened
  obtain ⟨sound, visible⟩ := L.sound_of_opened opened
  refine ⟨start ▸ sound, ?_, ?_, fun j hj _ => hj⟩
  · rw [Course.visible, Course.committed, edition, start]
    exact visible
  · rw [time, start]
    exact Nat.le_refl _

theorem Kept.step {i : Nat} (k : c.Kept i) : c.Kept (i + 1) := by
  have onward := (c.step i).onward
  have visible := onward.moves.visible k.sound
  refine ⟨onward.moves.sound k.sound, ?visible, ?reload_le, fun j hj before => ?recent⟩
  case visible =>
    rw [edition]
    split
    · next latest => exact latest
    · next other => exact (visible.resolve_right other).trans k.visible
  case reload_le =>
    rcases onward.lastReload with same | ⟨now, -⟩
    · rw [same]
      exact Nat.le_trans k.reload_le onward.now_le
    · exact Nat.le_of_eq now
  case recent =>
    rcases onward.lastReload with same | ⟨-, latest⟩
    · -- nothing was committed before a reload that lies in the past already
      rw [same] at before
      have earlier : j ≤ i := by
        rcases Nat.lt_or_eq_of_le hj with lt | rfl
        · exact Nat.le_of_lt_succ lt
        · have later : (c.state i).lastReload ≤ c.time (i + 1) :=
            Nat.le_trans k.reload_le onward.now_le
          omega
      exact Nat.le_trans (k.recent j earlier before) (c.edition_le_succ i)
    · rw [c.edition_latest (latest k.sound)]
      exact hj

theorem kept (i : Nat) : c.Kept i := by
  induction i with
  | zero => exact c.kept_opening
  | succ i ih => exact ih.step

theorem state_of_read {i : Nat} : c.deed i = .read → c.state (i + 1) = (c.state i).read.2 := by
  intro reads
  have step := c.step i
  rw [reads] at step
  generalize c.state (i + 1) = m' at step
  cases step with
  | read => rfl

theorem count_of_read {i : Nat} :
    c.deed i = .read → (c.state i).count.1 = (c.visible (i + 1)).length := by
  intro reads
  have counted : (c.state i).count.1 = (Searchable.shown (c.state i).read.2.engine).length := rfl
  rw [counted, L.length_shown, Course.visible, c.state_of_read reads]

theorem visible_of_reload {i : Nat} (reads : c.deed i = .read)
    (stale : (c.state i).isStale = true) (reloads : Reloads (c.state i)) :
    c.visible (i + 1) = c.committed (i + 1) ∧ c.committed (i + 1) = c.committed i := by
  obtain ⟨e, h⟩ := reloads stale
  obtain ⟨committed, sees⟩ := L.refresh_ok h
  have after : c.state (i + 1) = _ := (c.state_of_read reads).trans (read_ok stale h)
  rw [Course.visible, Course.committed, Course.committed, after]
  exact ⟨(sees (c.kept i).sound).2, committed⟩

theorem fresh_of_read {i : Nat} (reads : c.deed i = .read) (reloads : Reloads (c.state i)) :
    ∀ j ≤ i, c.time j + (c.state i).refreshInterval ≤ c.time i → j ≤ c.edition (i + 1) := by
  intro j hj before
  cases stale : (c.state i).isStale with
  | true =>
    have latest := (c.visible_of_reload reads stale reloads).1
    rw [c.edition_latest latest]
    exact Nat.le_succ_of_le hj
  | false =>
    -- the last reload is younger than the interval, so the commit came before it
    have young : ¬ (c.state i).refreshInterval ≤ c.time i - (c.state i).lastReload := by
      simpa [isStale, time] using stale
    have reload_le := (c.kept i).reload_le
    have earlier : c.time j < (c.state i).lastReload := by omega
    exact Nat.le_trans ((c.kept i).recent j hj earlier) (c.edition_le_succ i)

theorem stale_after {i : Nat} (stale : (c.state i).isStale = true)
    (same : (c.state (i + 1)).lastReload = (c.state i).lastReload) :
    ∀ k > i, (∀ j, i < j → j < k → c.deed j ≠ .read) → (c.state k).isStale = true := by
  have last : ∀ k > i, (∀ j, i < j → j < k → c.deed j ≠ .read) →
      (c.state k).lastReload = (c.state i).lastReload
        ∧ (c.state k).refreshInterval = (c.state i).refreshInterval := by
    intro k hk
    induction k, hk using Nat.le_induction with
    | base => exact fun _ => ⟨same, (c.step i).onward.interval⟩
    | succ k hk ih =>
      intro quiet
      obtain ⟨last, interval⟩ := ih fun j hj hjk => quiet j hj (Nat.lt_succ_of_lt hjk)
      have other := quiet k hk (Nat.lt_succ_self k)
      exact ⟨((c.step k).lastReload other).trans last, (c.step k).onward.interval.trans interval⟩
  intro k hk quiet
  obtain ⟨last, interval⟩ := last k hk quiet
  have later : c.time i ≤ c.time k := c.time_mono (Nat.le_of_lt hk)
  have old : (c.state i).refreshInterval ≤ c.time i - (c.state i).lastReload := by
    simpa [isStale, time] using stale
  simp only [isStale, decide_eq_true_eq, last, interval]
  exact Nat.le_trans old (Nat.sub_le_sub_right later _)

theorem failed_of_read {i : Nat} (reads : c.deed i = .read) (fails : ¬ Reloads (c.state i)) :
    c.visible (i + 1) = c.visible i
      ∧ ∀ k > i, (∀ j, i < j → j < k → c.deed j ≠ .read) → (c.state k).isStale = true := by
  obtain ⟨stale, none⟩ : (c.state i).isStale = true
      ∧ ¬ ∃ e, Engine.refresh (c.state i).engine = (.ok (), e) := by
    simpa [Reloads] using fails
  rcases h : Engine.refresh (c.state i).engine with ⟨f | _, e⟩
  · obtain ⟨engine, last, -, -⟩ := read_error stale h
    rw [← c.state_of_read reads] at engine last
    refine ⟨?_, c.stale_after stale last⟩
    rw [Course.visible, engine]
    exact (L.refresh_error h).visible
  · exact absurd ⟨e, h⟩ none

theorem fresh : c.Fresh c.edition where
  committed i := (c.step i).onward.moves.committed
  visible i := (c.kept i).visible
  past := c.edition_le
  forward := monotone_nat_of_le_succ c.edition_le_succ
  count _ := c.count_of_read
  fresh _ := c.fresh_of_read
  failed _ := c.failed_of_read
  current := by
    intro i reads interval reloads
    have stale : (c.state i).isStale = true := by simp [isStale, interval]
    obtain ⟨latest, committed⟩ := c.visible_of_reload reads stale reloads
    rw [c.count_of_read reads, latest, committed]

/-- A run that comes to an end is a course in which nothing happens after it. -/
def ofSteps (n : Nat) (state : Nat → Manager ε) (deed : Nat → Deed)
    (opened : ∃ s handling log e, L.opened e ∧ state 0 = start s handling log e)
    (step : ∀ i < n, Step L (state i) (deed i) (state (i + 1))) : Course L where
  state i := state (min i n)
  deed i := if i < n then deed i else .meddled
  opened := by simpa using opened
  step := by
    intro i
    by_cases h : i < n
    · rw [if_pos h, Nat.min_eq_left (Nat.le_of_lt h), Nat.min_eq_left h]
      exact step i h
    · have past : n ≤ i := Nat.le_of_not_lt h
      rw [if_neg h, Nat.min_eq_right past, Nat.min_eq_right (Nat.le_succ_of_le past)]
      exact .meddled (.refl _)

end Course

/-- **Reads are fresh and never go back.**  Whatever happens to a manager after its
index has been opened, in memory or in a directory: readers see what was committed
in some state so far, and this state only advances.  A read that has no need to
reload the reader, or reloads it, sees at least what was committed one refresh
interval before; a reload that fails changes nothing of what is seen, and the next
read tries again.  If the interval is zero, and the reload goes through, a read
counts the documents of the last commit. -/
theorem reads_fresh (c : Course Engine.Lodged.editions) :
    ∃ edition, c.Fresh edition :=
  ⟨c.edition, c.fresh⟩

/-- One document is added with a forced commit and read at once. -/
theorem reads_fresh_of_one_document :
    ∃ c : Course Engine.Lodged.editions, (∃ edition, c.Fresh edition)
      ∧ c.deed 4 = .read ∧ c.visible 4 = [] ∧ (c.state 4).count.1 = 1 := by
  let engine : Engine.Lodged := { lists := .opened [] Schema.own.rules }
  let w : Workset := ⟨.single (.change (.add ⟨"a", []⟩)), ⟨.force, .none⟩⟩
  let e : Entry := { ticket := 0, job := .workset w }
  let m₀ : Manager Engine.Lodged := start {} .collecting [] engine
  let m₁ := { m₀ with
    queue := { m₀.queue with nextTicket := 1, blocked := [e] } }
  let m₂ := { m₁ with queue := { m₁.queue with entries := [e], blocked := [] } }
  let m₃ := { m₂ with
    queue := { m₂.queue with
      processor := { m₂.queue.processor with batchOpen := true }
      entries := []
      phase := .running e 0 } }
  let m₄ := { m₃ with queue := { m₃.queue.runWorkset e w with phase := .drawing 1 } }
  let states : List (Manager Engine.Lodged) := [m₀, m₁, m₂, m₃, m₄, m₄.read.2]
  let deeds : List Deed := [.queued (.arrived (0, .workset w)), .queued (.entered (0, .workset w)),
    .queued (.received (0, .workset w)), .queued (.ran 0 w 0), .read]
  have opened : Engine.Lodged.Opened engine := by
    have fits : Opening.hasBuffer {} = true := by decide
    refine ⟨{}, {}, ⟨engine, Schema.own⟩, {}, [], ?_, rfl⟩
    simp only [Opening.run, Opening.inMemory, fits, if_true]
    rfl
  have steps : ∀ i < 5, Step Engine.Lodged.editions (states.getD i m₀) (deeds.getD i .read)
      (states.getD (i + 1) m₀) := by
    intro i hi
    match i, hi with
    | 0, _ => exact .queued (.arrive (.workset w) rfl)
    | 1, _ =>
      have front : m₁.queue.blocked = [] ++ e :: [] := rfl
      exact .queued (.enter front rfl (by decide))
    | 2, _ =>
      have queued : m₂.queue.entries = e :: [] := rfl
      exact .queued (.receive rfl queued rfl)
    | 3, _ =>
      have running : m₃.queue.phase = .running e 0 := rfl
      exact .queued (.run running rfl)
    | 4, _ => exact .read m₄
  let c : Course Engine.Lodged.editions :=
    .ofSteps 5 (states.getD · m₀) (deeds.getD · .read)
      ⟨{}, .collecting, [], engine, opened, rfl⟩ steps
  obtain ⟨edition, fresh⟩ := reads_fresh c
  have committed : c.committed 4 = [⟨"a", []⟩] := by
    show Engine.Listing.documents m₄.engine.lists.committed = _
    decide +kernel
  have reloads : Reloads (c.state 4) := fun _ => ⟨_, rfl⟩
  refine ⟨c, ⟨edition, fresh⟩, rfl, rfl, ?_⟩
  rw [fresh.current 4 rfl rfl reloads, committed]
  rfl

end Manager

end WritePath
