import Mathlib.Data.Finset.Sort
import Mathlib.Data.String.Basic
import WritePath.Proofs.Engine.Shelf

/-!
# What the log of an engine in memory tells

The engine in memory notes every call that it accepts.  Whoever has nothing but this
log can tell the identifiers of all three generations from it (`Inventory.ofLog`), and
find out by counting which stamp was the last.

A call is accepted or refused, whatever was told to fail (`call_cases`).  An accepted
call has its effect, is noted, and answers the next stamp if it is one with a stamp.  A
refused call leaves the log, the stamps and the generations alone; two of them use up
something else, which neither the log nor the generations show: a commit that fails
because of the number of commits that are to fail, and a close that is told to fail.

`Chronicled` is what every call keeps, and every failure that is arranged.
-/

namespace WritePath

/-! ## Identifiers -/

namespace Keyed

variable {α : Type} {l : Keyed α} {key : String}

/-- The keys, in no order. -/
def ids (l : Keyed α) : Finset String :=
  l.keys.toFinset

theorem mem_ids : key ∈ ids l ↔ ∃ a, get? key l = some a := by
  rw [ids, List.mem_toFinset, mem_keys_iff]

theorem ids_insert (key : String) (a : α) (l : Keyed α) :
    ids (Keyed.insert key a l) = Insert.insert key (ids l) := by
  ext other
  rw [Finset.mem_insert, mem_ids, mem_ids]
  by_cases same : other = key
  · simp [same]
  · simp [same, get?_insert_of_ne same]

theorem Sorted.ids_erase (h : Sorted l) (key : String) :
    ids (Keyed.erase key l) = (ids l).erase key := by
  ext other
  rw [Finset.mem_erase, mem_ids, mem_ids]
  by_cases same : other = key
  · simp [same, h.get?_erase_self]
  · simp [same, get?_erase_of_ne same]

theorem Sorted.keys_eq (h : Sorted l) : keys l = (ids l).sort := by
  have ascending : (keys l).Pairwise (· ≤ ·) :=
    List.pairwise_map.mpr (List.Pairwise.imp (fun lt => le_of_lt lt) h)
  exact ((List.toFinset_sort _ h.nodup_keys).mpr ascending).symm

end Keyed

/-- A call, with what it answers. -/
def Request.run {ε : Type} [Engine ε] : Request → Call ε Output
  | .add d => Call.map .stamp (Engine.add d)
  | .delete id => Call.map .stamp (Engine.delete id)
  | .deleteAll => Call.map .stamp Engine.deleteAll
  | .commit => Call.map .stamp Engine.commit
  | .refresh => Call.map (fun _ => .unit) Engine.refresh
  | .close => Call.map (fun _ => .unit) Engine.close

namespace Engine

/-! ## Reading a log -/

/-- The identifiers of three generations. -/
structure Inventory where
  staged : Finset String := ∅
  committed : Finset String := ∅
  visible : Finset String := ∅

namespace Event

/-- What an event makes of the identifiers. -/
def replay : Event → Inventory → Inventory
  | .add id, x => { x with staged := insert id x.staged }
  | .delete id, x => { x with staged := x.staged.erase id }
  | .deleteAll, x => { x with staged := ∅ }
  | .commit, x => { x with committed := x.staged }
  | .refresh, x => { x with visible := x.committed }
  | .close, x => { x with staged := x.committed }

def isStamped : Event → Bool
  | .add _ | .delete _ | .deleteAll | .commit => true
  | .refresh | .close => false

end Event

/-- The identifiers after the events of a log, the oldest first, in an index that was
empty before. -/
def Inventory.ofLog (log : List Event) : Inventory :=
  log.foldl (fun x e => e.replay x) {}

theorem Inventory.ofLog_append (log : List Event) (e : Event) :
    ofLog (log ++ [e]) = e.replay (ofLog log) := by
  simp [ofLog]

namespace Memory

open WritePath.Shelf (noted)

/-! ## One call -/

def inventory (m : Memory) : Inventory where
  staged := m.staged.ids
  committed := m.committed.ids
  visible := m.visible.ids

/-- The log, the stamps and the generations have stayed. -/
structure Untouched (m m' : Memory) : Prop where
  events : m'.events = m.events
  stamp : m'.stamp = m.stamp
  staged : m'.staged = m.staged
  committed : m'.committed = m.committed
  visible : m'.visible = m.visible

theorem Untouched.refl (m : Memory) : Untouched m m := ⟨rfl, rfl, rfl, rfl, rfl⟩

/-- What a call does, apart from being noted. -/
def effect (m : Memory) : Request → Memory
  | .add d => { m with staged := Keyed.insert d.id d m.staged }
  | .delete id => { m with staged := Keyed.erase id m.staged }
  | .deleteAll => { m with staged := [] }
  | .commit => { m with committed := m.staged }
  | .refresh => { m with visible := m.committed }
  | .close => { m with closed := true, staged := m.committed }

/-- The last stamp when an event has been noted. -/
def stampAfter (m : Memory) (e : Event) : Stamp :=
  if e.isStamped then m.stamp + 1 else m.stamp

/-- What the call answers that is noted as an event. -/
def replyTo (m : Memory) (e : Event) : Output :=
  if e.isStamped then .stamp (m.stampAfter e) else .unit

def accepting (m : Memory) (r : Request) : Memory :=
  { m.effect r with stamp := m.stampAfter (noted r), events := m.events ++ [noted r] }

/-- After the close every call is refused. -/
theorem run_closed {m : Memory} (hm : m.closed = true) (r : Request) :
    r.run m = (.error closedFault, m) := by
  cases r with
  | add d => exact Call.map_of_error _ (show Memory.add d m = _ from whileOpen_closed hm _)
  | delete id => exact Call.map_of_error _ (show Memory.delete id m = _ from whileOpen_closed hm _)
  | deleteAll => exact Call.map_of_error _ (show Memory.deleteAll m = _ from whileOpen_closed hm _)
  | commit => exact Call.map_of_error _ (show Memory.commit m = _ from whileOpen_closed hm _)
  | refresh => exact Call.map_of_error _ (show Memory.refresh m = _ from whileOpen_closed hm _)
  | close => exact Call.map_of_error _ (show Memory.close m = _ from whileOpen_closed hm _)

/-- A call is refused and leaves everything that can be seen alone, or it is accepted. -/
theorem call_cases (r : Request) (m : Memory) :
    (∃ e m', r.run m = (.error e, m') ∧ Untouched m m')
      ∨ r.run m = (.ok (m.replyTo (noted r)), m.accepting r) := by
  cases hm : m.closed with
  | true => exact .inl ⟨_, _, run_closed hm r, .refl m⟩
  | false =>
    cases r with
    | add d =>
      cases hd : m.faults.documents.contains d.id with
      | true => exact .inl ⟨_, _, Call.map_of_error _ (add_refused hm hd), .refl m⟩
      | false => exact .inr (Call.map_of_ok _ (add_taken hm hd))
    | delete id =>
      cases hd : m.faults.documents.contains id with
      | true => exact .inl ⟨_, _, Call.map_of_error _ (delete_refused hm hd), .refl m⟩
      | false => exact .inr (Call.map_of_ok _ (delete_taken hm hd))
    | deleteAll => exact .inr (Call.map_of_ok _ (deleteAll_taken hm))
    | commit =>
      cases hn : m.faults.commits with
      | succ n =>
        exact .inl ⟨_, _, Call.map_of_error _ (commit_faulty hm hn), ⟨rfl, rfl, rfl, rfl, rfl⟩⟩
      | zero => exact .inr (Call.map_of_ok _ (commit_sound hm hn))
    | refresh =>
      rcases refresh_cases m with shown | ⟨e, failed⟩
      · exact .inr (Call.map_of_ok _ shown)
      · exact .inl ⟨_, _, Call.map_of_error _ failed, .refl m⟩
    | close =>
      rcases close_cases hm with ⟨e, failed⟩ | closed
      · exact .inl ⟨_, _, Call.map_of_error _ failed, ⟨rfl, rfl, rfl, rfl, rfl⟩⟩
      · exact .inr (Call.map_of_ok _ closed)

/-! ## What every call keeps -/

/-- The log tells what the engine holds. -/
structure Chronicled (m : Memory) : Prop where
  inventory : m.inventory = .ofLog m.events
  stamp : m.stamp = m.events.countP Event.isStamped
  staged : Keyed.Sorted m.staged
  committed : Keyed.Sorted m.committed
  visible : Keyed.Sorted m.visible

namespace Chronicled

variable {m m' : Memory}

theorem empty : Chronicled {} := ⟨rfl, rfl, .nil, .nil, .nil⟩

theorem untouched (h : Chronicled m) (same : Untouched m m') : Chronicled m' := by
  constructor
  · rw [Memory.inventory, same.staged, same.committed, same.visible, same.events]
    exact h.inventory
  · rw [same.stamp, same.events]
    exact h.stamp
  · exact same.staged ▸ h.staged
  · exact same.committed ▸ h.committed
  · exact same.visible ▸ h.visible

/-- To replay the event does to the identifiers what the call does to the documents. -/
theorem inventory_effect (h : Chronicled m) (r : Request) :
    (m.effect r).inventory = (noted r).replay m.inventory := by
  cases r with
  | add d => simp only [effect, Memory.inventory, noted, Event.replay, Keyed.ids_insert]
  | delete id => simp only [effect, Memory.inventory, noted, Event.replay, h.staged.ids_erase]
  | deleteAll | commit | refresh | close => rfl

theorem accepting (h : Chronicled m) (r : Request) : Chronicled (m.accepting r) := by
  have ordered : Keyed.Sorted (m.effect r).staged ∧ Keyed.Sorted (m.effect r).committed
      ∧ Keyed.Sorted (m.effect r).visible := by
    cases r with
    | add d => exact ⟨h.staged.insert d.id d, h.committed, h.visible⟩
    | delete id => exact ⟨h.staged.erase id, h.committed, h.visible⟩
    | deleteAll => exact ⟨.nil, h.committed, h.visible⟩
    | commit => exact ⟨h.staged, h.staged, h.visible⟩
    | refresh => exact ⟨h.staged, h.committed, h.committed⟩
    | close => exact ⟨h.committed, h.committed, h.visible⟩
  obtain ⟨staged, committed, visible⟩ := ordered
  refine ⟨?_, ?_, staged, committed, visible⟩
  · calc (m.effect r).inventory = (noted r).replay m.inventory := h.inventory_effect r
      _ = (noted r).replay (.ofLog m.events) := by rw [h.inventory]
      _ = .ofLog (m.events ++ [noted r]) := (Inventory.ofLog_append ..).symm
  · show m.stampAfter (noted r) = (m.events ++ [noted r]).countP Event.isStamped
    rw [List.countP_append, List.countP_singleton, stampAfter, h.stamp]
    split <;> rfl

theorem run (h : Chronicled m) (r : Request) : Chronicled (r.run m).2 := by
  rcases call_cases r m with ⟨e, m', failed, same⟩ | taken
  · rw [failed]
    exact h.untouched same
  · rw [taken]
    exact h.accepting r

end Chronicled

/-! ## Calls and failures that are arranged -/

/-- What somebody who watches the engine can arrange to fail. -/
inductive Injection where
  | document (id : String)
  | commits (count : Nat)
  | refresh (on : Bool)
  | close (on : Bool)

/-- The engine when this is arranged. -/
def inject (m : Memory) : Injection → Memory
  | .document id => m.failDocument id
  | .commits count => m.failCommits count
  | .refresh on => m.failRefresh on
  | .close on => m.failClose on

theorem untouched_inject (m : Memory) (i : Injection) : Untouched m (m.inject i) := by
  cases i <;> exact ⟨rfl, rfl, rfl, rfl, rfl⟩

/-- Something that happens to the engine. -/
inductive Happening where
  | call (r : Request)
  | inject (i : Injection)

/-- The engine when all this has happened. -/
def after : List Happening → Memory → Memory
  | [], m => m
  | .call r :: rest, m => after rest (r.run m).2
  | .inject i :: rest, m => after rest (m.inject i)

def answers : List Happening → Memory → List (Request × Except Failure Output)
  | [], _ => []
  | .call r :: rest, m => (r, (r.run m).1) :: answers rest (r.run m).2
  | .inject i :: rest, m => answers rest (m.inject i)

/-- The calls that went through. -/
def successes (l : List (Request × Except Failure Output)) : List Request :=
  l.filterMap fun x => match x.2 with
    | .ok _ => some x.1
    | .error _ => none

def stamps (l : List (Request × Except Failure Output)) : List Stamp :=
  l.filterMap fun x => match x.2 with
    | .ok (.stamp n) => some n
    | .ok .unit | .error _ => none

theorem Chronicled.after {m : Memory} (h : Chronicled m) (course : List Happening) :
    Chronicled (after course m) := by
  induction course generalizing m with
  | nil => exact h
  | cons x rest ih =>
    cases x with
    | call r => exact ih (h.run r)
    | inject i => exact ih (h.untouched (m.untouched_inject i))

theorem events_after (course : List Happening) (m : Memory) :
    (after course m).events = m.events ++ (successes (answers course m)).map noted := by
  induction course generalizing m with
  | nil => simp [after, answers, successes]
  | cons x rest ih =>
    cases x with
    | call r =>
      rw [after, ih]
      rcases call_cases r m with ⟨e, m', failed, same⟩ | taken
      · simp [answers, successes, failed, same.events]
      · simp [answers, successes, taken, accepting]
    | inject i =>
      rw [after, ih, (m.untouched_inject i).events]
      rfl

theorem range_stamp_after (course : List Happening) (m : Memory) :
    List.range' 1 (after course m).stamp
      = List.range' 1 m.stamp ++ stamps (answers course m) := by
  induction course generalizing m with
  | nil => simp [after, answers, stamps]
  | cons x rest ih =>
    cases x with
    | call r =>
      rw [after, ih]
      rcases call_cases r m with ⟨e, m', failed, same⟩ | taken
      · simp [answers, stamps, failed, same.stamp]
      · cases hs : (noted r).isStamped with
        | true =>
          simp [answers, stamps, taken, accepting, replyTo, stampAfter, hs, List.range'_concat,
            Nat.add_comm]
        | false => simp [answers, stamps, taken, accepting, replyTo, stampAfter, hs]
    | inject i =>
      rw [after, ih, (m.untouched_inject i).stamp]
      rfl

/-- **The log is faithful.**  Whatever is asked of an engine in memory, and whatever is
arranged to fail meanwhile, the log holds the calls that went through, in their order;
to replay it gives the identifiers of all three generations; it has as many events
with a stamp as the last stamp says; and the stamps that were answered are one, two,
and so on up to the last one.  If a call fails now, it leaves the log, the stamps and the
documents alone. -/
theorem log_faithful (course : List Happening) :
    let m := after course {}
    m.events = (successes (answers course {})).map noted
      ∧ m.staged.keys = (Inventory.ofLog m.events).staged.sort
      ∧ m.committed.keys = (Inventory.ofLog m.events).committed.sort
      ∧ m.visible.keys = (Inventory.ofLog m.events).visible.sort
      ∧ m.stamp = m.events.countP Event.isStamped
      ∧ stamps (answers course {}) = List.range' 1 m.stamp
      ∧ ∀ (r : Request) (e : Failure), (r.run m).1 = .error e →
          Untouched m (r.run m).2 := by
  intro m
  have h : Chronicled m := Chronicled.empty.after course
  have stamped := range_stamp_after course {}
  refine ⟨events_after course {}, ?_, ?_, ?_, h.stamp, stamped.symm, ?_⟩
  · rw [← h.inventory]
    exact h.staged.keys_eq
  · rw [← h.inventory]
    exact h.committed.keys_eq
  · rw [← h.inventory]
    exact h.visible.keys_eq
  · intro r e failed
    rcases call_cases r m with ⟨e', m', refused, same⟩ | taken
    · rw [refused]
      exact same
    · rw [taken] at failed
      cases failed

/-- A document and a commit are arranged to fail, and at last the close: the log and the
stamps go on as if the calls that fail had not been made, and the close takes nothing
back. -/
theorem log_faithful_of_failed_close :
    let course : List Happening :=
      [.inject (.document "b"), .call (.add ⟨"a", []⟩), .call (.add ⟨"b", []⟩),
        .inject (.commits 1), .call .commit, .call .commit, .call (.delete "a"), .call .refresh,
        .call (.add ⟨"c", []⟩), .inject (.close true)]
    let m := after course {}
    m.events = [.add "a", .commit, .delete "a", .refresh, .add "c"]
      ∧ stamps (answers course {}) = [1, 2, 3, 4]
      ∧ (Inventory.ofLog m.events).visible.sort = ["a"]
      ∧ (Request.close.run m).1 = .error (injected "close failure")
      ∧ Untouched m (Request.close.run m).2 := by
  intro course m
  obtain ⟨-, -, -, visible, -, stamped, failing⟩ := log_faithful course
  have refused : (Request.close.run m).1 = .error (injected "close failure") := rfl
  exact ⟨rfl, stamped.trans (by decide +kernel), visible.symm.trans (by decide +kernel), refused,
    failing .close _ refused⟩

end Memory

end Engine

end WritePath
