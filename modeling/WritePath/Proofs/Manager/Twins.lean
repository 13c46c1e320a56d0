import WritePath.Proofs.Engine.Shelf
import WritePath.Proofs.Manager.Freshness
import WritePath.Proofs.Processor.Lasting
import WritePath.Proofs.Processor.Turns

/-!
# One index in memory beside one of lists

The engine in memory stands in for the engine of lists.  Two processors that get
the same calls, one over each of them, ask their engines for the same at the same
time, and what the two make of it is alike: the index in memory has the last
document of each identifier.

A manager may reload its reader before it counts its documents.  That is a refresh
which nobody has asked of the index in memory, and from then on the two show
different commits (`count_reloads`).  A `Pair` is a manager over lists, with a
processor over an index in memory beside it that is refreshed whenever the manager
reloads its reader; as long as no count finds the reader stale, nothing happens to
it but the calls.  So kept together, the two are alike after all calls and counts
(`twins`).

Both do what the processor over a `Shelf` does (`Views`).  The shelf keeps all that
was asked of it, and is what its calls have made of an empty one
(`Shelf.Accounted`).
-/

namespace WritePath

open Engine (Memory Listing)
open Engine.Listing (Rules Unrepeated)
open Processor (Instruction)

/-! ## The shelf of a processor -/

namespace Shelf

/-- The shelf is what its calls make of an empty one, and an index takes each of
them. -/
structure Accounted (rules : Rules) (x : Shelf) : Prop where
  made : Request.all x.asked {} = x
  welcome : ∀ r ∈ x.asked, r.Welcome rules

theorem Accounted.on {rules : Rules} {x : Shelf} {r : Request} (h : Accounted rules x)
    (hr : r.Welcome rules) : Accounted rules (r.on x) := by
  refine ⟨?_, ?_⟩
  · rw [asked_on, Request.all_append, h.made]
  · rw [asked_on]
    intro r' hr'
    rcases List.mem_append.mp hr' with old | new
    · exact h.welcome r' old
    · rw [List.mem_singleton.mp new]
      exact hr

theorem Accounted.all {rules : Rules} {calls : List Request}
    (welcome : ∀ r ∈ calls, r.Welcome rules) {x : Shelf} (h : Accounted rules x) :
    Accounted rules (Request.all calls x) := by
  induction calls generalizing x with
  | nil => exact h
  | cons r rest ih =>
    exact ih (fun r hr => welcome r (List.mem_cons_of_mem _ hr))
      (h.on (welcome r List.mem_cons_self))

theorem lasting_accounted (rules : Rules) : Processor.Lasting (Accounted rules) :=
  ⟨fun _ h => h.on (r := .commit) trivial, fun _ h => h.on (r := .refresh) trivial⟩

theorem lasting_tidy : Processor.Lasting Tidy :=
  ⟨fun _ h => h.commit, fun _ h => h.refresh⟩

end Shelf

/-! ## Pairs -/

instance {ε : Type} [Searchable ε] : Searchable (Watched ε) where
  receives x := Searchable.receives x.engine
  shown x := Searchable.shown x.engine

inductive Errand where
  /-- Both processors get the call. -/
  | call (i : Instruction)
  /-- Somebody asks the manager for the number of its documents. -/
  | count

/-- A manager over lists, with a processor over an index in memory. -/
structure Pair where
  memory : Processor (Watched Memory)
  manager : Manager (Watched Listing)

namespace Pair

def lists (x : Pair) : Processor (Watched Listing) :=
  x.manager.queue.processor

def managerAt (x : Pair) (now : Nat) : Manager (Watched Listing) :=
  { x.manager with queue.now := now }

def step (x : Pair) (now : Nat) : Errand → Pair
  | .call i =>
    { memory := i.act now x.memory
      manager := { x.managerAt now with queue.processor := i.act now x.lists } }
  | .count =>
    { memory :=
        if (x.managerAt now).isStale then
          { x.memory with engine := (Engine.refresh x.memory.engine).2 }
        else x.memory
      manager := (x.managerAt now).count.2 }

def run (x : Pair) (errands : List (Nat × Errand)) : Pair :=
  errands.foldl (fun x e => x.step e.1 e.2) x

/-- Both indexes are empty, and the processors are the same but for that. -/
structure Fresh (rules : Rules) (x : Pair) : Prop where
  memory : x.memory.engine = ⟨{}, []⟩
  lists : x.lists = { x.memory with engine := ⟨{ rules := rules }, []⟩ }

/-- Both processors do what the one over a shelf does. -/
structure Views (rules : Rules) (past : Journal) (s : Processor Shelf) (x : Pair) : Prop where
  memory : x.memory = s.carried Shelf.asMemory past
  lists : x.lists = s.carried (Shelf.asLists rules) past
  accounted : Shelf.Accounted rules s.engine

variable {rules : Rules} {past : Journal} {s : Processor Shelf} {x : Pair}

theorem Fresh.views (h : x.Fresh rules) :
    Views rules ⟨x.memory.journal.handling, [], [], []⟩ { x.memory with engine := ({} : Shelf) } x where
  memory := by
    simp only [Processor.carried, Journal.nothing_after]
    rw [show Shelf.asMemory {} = x.memory.engine from h.memory.symm]
  lists := by
    simp only [Processor.carried, Journal.nothing_after]
    exact h.lists
  accounted := ⟨rfl, fun _ hr => absurd hr List.not_mem_nil⟩

/-- A shelf keeps up with what happens to a pair, if it takes no document that the
lists refuse. -/
theorem Views.step (h : Views rules past s x) (finds : ∀ id d, rules.finds id d = (d.id == id))
    (now : Nat) {e : Errand}
    (taken : ∀ w, e = .call (.submit w) →
      ∀ d, w.document? = some d → rules.receives d = .taken) :
    ∃ s', Views rules past s' (x.step now e)
      ∧ ((∀ w, e = .call (.submit w) → Shelf.adds w = false) →
          s.engine.Tidy → s'.engine.Tidy) := by
  cases e with
  | call i =>
    have taken (w : Work) (hi : i = .submit w) := taken w (hi ▸ rfl)
    refine ⟨i.act now s, ⟨?memory, ?lists, ?accounted⟩, ?tidy⟩
    case memory =>
      show i.act now x.memory = _
      rw [h.memory]
      exact Processor.carried_act_of Shelf.consistent_asMemory now
        (fun w _ => Shelf.work_asMemory w) s
    case lists =>
      show i.act now x.lists = _
      rw [h.lists]
      exact Processor.carried_act_of Shelf.consistent_asLists now
        (fun w hi => Shelf.work_asLists finds (taken w hi)) s
    case accounted =>
      exact (Shelf.lasting_accounted rules).act now
        (fun w hi y hy => Shelf.run_work w y ▸ hy.all (Shelf.welcome_requests (taken w hi)))
        h.accounted
    case tidy =>
      intro add
      exact Shelf.lasting_tidy.act now fun w hi _ hy => hy.work (add w (hi ▸ rfl))
  | count =>
    cases stale : (x.managerAt now).isStale with
    | false =>
      have same : x.step now .count = { x with manager := x.managerAt now } := by
        simp only [Pair.step, stale, Bool.false_eq_true, if_false]
        exact congrArg (Pair.mk x.memory) (Manager.read_young stale)
      rw [same]
      exact ⟨s, ⟨h.memory, h.lists, h.accounted⟩, fun _ tidy => tidy⟩
    | true =>
      have reloads : Engine.refresh (x.managerAt now).engine
          = (.ok (), (Engine.refresh s.engine).2.asLists rules) := by
        show Engine.refresh x.lists.engine = _
        rw [h.lists]
        exact Shelf.consistent_asLists.refresh s.engine
      refine ⟨{ s with engine := (Engine.refresh s.engine).2 }, ⟨?memory, ?lists, ?accounted⟩,
        fun _ tidy => tidy.refresh⟩
      case memory =>
        have refreshed := Shelf.consistent_asMemory.refresh s.engine
        simp only [Pair.step, stale, if_true, h.memory, Processor.carried, refreshed]
      case lists =>
        show (x.managerAt now).count.2.queue.processor = _
        have read : (x.managerAt now).count.2 = _ := Manager.read_ok stale reloads
        rw [read]
        show { x.lists with engine := (Engine.refresh s.engine).2.asLists rules } = _
        rw [h.lists]
        rfl
      case accounted => exact (Shelf.lasting_accounted rules).refresh _ h.accounted

theorem Views.run (h : Views rules past s x) (finds : ∀ id d, rules.finds id d = (d.id == id))
    {errands : List (Nat × Errand)}
    (taken : ∀ now w, (now, .call (.submit w)) ∈ errands →
      ∀ d, w.document? = some d → rules.receives d = .taken) :
    ∃ s', Views rules past s' (x.run errands)
      ∧ ((∀ now w, (now, .call (.submit w)) ∈ errands → Shelf.adds w = false) →
          s.engine.Tidy → s'.engine.Tidy) := by
  induction errands generalizing s x with
  | nil => exact ⟨s, h, fun _ tidy => tidy⟩
  | cons e rest ih =>
    obtain ⟨now, e⟩ := e
    obtain ⟨s₁, h₁, tidy₁⟩ := h.step finds now fun w he => taken now w (he ▸ List.mem_cons_self)
    obtain ⟨s₂, h₂, tidy₂⟩ := ih h₁ fun now w hw => taken now w (List.mem_cons_of_mem _ hw)
    refine ⟨s₂, h₂, fun add tidy => ?_⟩
    exact tidy₂ (fun now w hw => add now w (List.mem_cons_of_mem _ hw))
      (tidy₁ (fun w he => add now w (he ▸ List.mem_cons_self)) tidy)

theorem count_eq (now : Nat) :
    (x.managerAt now).count.1 = (x.step now .count).lists.engine.engine.visible.length := by
  show (Searchable.shown (x.managerAt now).count.2.engine).length = _
  simp only [Searchable.shown, Listing.shown, List.length_map]
  rfl

theorem memory_count (now : Nat) :
    (x.step now .count).memory.engine
      = if (x.managerAt now).isStale then (Engine.refresh x.memory.engine).2
        else x.memory.engine := by
  simp only [Pair.step]
  split <;> rfl

/-- **Twins.**  Two empty indexes, one in memory and one of lists, get the same calls
at the same times; between them the documents of the lists are counted, and whenever
the manager reloads its reader for a count, the index in memory is refreshed.  No
document is refused, and documents are found by their identifiers.

* The processors are the same but for their engines, which have been asked for the
  same, in the same order, and are what these calls make of empty ones.
* After each of these calls the index in memory has, in every generation, the last
  document of each identifier of the lists.
* When the documents are counted, the index in memory shows what it has shown before,
  or what is committed in it if the reader was stale.  The manager never counts less
  than that, and just as much if no identifier is repeated among the documents that the
  lists show; none is if documents are written by updates alone. -/
theorem twins (finds : ∀ id d, rules.finds id d = (d.id == id)) (fresh : x.Fresh rules)
    {errands : List (Nat × Errand)}
    (taken : ∀ now w, (now, .call (.submit w)) ∈ errands →
      ∀ d, w.document? = some d → rules.receives d = .taken) :
    let y := x.run errands
    let asked := y.memory.engine.asked
    y.lists = { y.memory with engine := y.lists.engine }
      ∧ y.lists.engine = ⟨Request.all asked { rules := rules }, asked⟩
      ∧ y.memory.engine = ⟨Request.all asked {}, asked⟩
      ∧ (∀ before, before <+: asked →
          Twin (Request.all before {}) (Request.all before { rules := rules }))
      ∧ ∀ now,
          let z := y.step now .count
          let seen := z.memory.engine.engine.visible
          seen = (if (y.managerAt now).isStale then y.memory.engine.engine.committed
              else y.memory.engine.engine.visible)
            ∧ seen.length ≤ (y.managerAt now).count.1
            ∧ (Unrepeated z.lists.engine.engine.visible →
                seen.length = (y.managerAt now).count.1)
            ∧ ((∀ now w, (now, .call (.submit w)) ∈ errands → Shelf.adds w = false) →
                Unrepeated z.lists.engine.engine.visible) := by
  intro y asked
  obtain ⟨s, views, tidy⟩ := fresh.views.run finds taken
  have memory : y.memory.engine = s.engine.asMemory := congrArg Processor.engine views.memory
  have lists : y.lists.engine = s.engine.asLists rules := congrArg Processor.engine views.lists
  have same : asked = s.engine.asked := congrArg Watched.asked memory
  have welcome : ∀ r ∈ asked, r.Welcome rules := same ▸ views.accounted.welcome
  have made : Request.all asked {} = s.engine := same ▸ views.accounted.made
  refine ⟨?processors, ?lists, ?memory, fun before hb => ?alike, fun now => ?counted⟩
  case processors =>
    rw [views.lists, views.memory]
    rfl
  case lists =>
    rw [lists, Shelf.all_lists welcome finds, made, same]
    rfl
  case memory =>
    rw [memory, Shelf.all_memory welcome, made, same]
    rfl
  case alike => exact Shelf.twin_all (fun r hr => welcome r (hb.subset hr)) finds
  case counted =>
    intro z seen
    obtain ⟨s', views', kept⟩ := views.step finds now (e := .count) (by rintro w ⟨⟩)
    have alike := Shelf.twin rules s'.engine
    have shown : z.lists.engine = s'.engine.asLists rules := congrArg Processor.engine views'.lists
    have seen' : z.memory.engine = s'.engine.asMemory := congrArg Processor.engine views'.memory
    rw [count_eq]
    rw [← shown, ← seen'] at alike
    refine ⟨?reloaded, alike.length_le, alike.length_eq, fun add => ?_⟩
    case reloaded =>
      show (y.step now .count).memory.engine.engine.visible = _
      rw [memory_count, memory]
      split
      · exact congrArg (fun r => r.2.engine.visible) (Shelf.consistent_asMemory.refresh s.engine)
      · rfl
    have first : Shelf.Tidy {} := ⟨List.nodup_nil, List.nodup_nil, List.nodup_nil⟩
    rw [shown]
    exact (kept (by rintro w ⟨⟩) (tidy add first)).visible

def start (s : Settings) : Pair :=
  let m := Manager.start s .collecting [] (⟨{}, []⟩ : Watched Listing)
  { memory := { m.queue.processor with engine := ⟨{}, []⟩ }, manager := m }

theorem fresh_start (s : Settings) : (start s).Fresh {} :=
  ⟨rfl, rfl⟩

def workset (now : Nat) (s : Strategies) (works : List Work) : List (Nat × Errand) :=
  let calls : List Instruction :=
    .beforeWorkset s :: works.map .submit ++ [.afterWorkset true (some .unit)]
  calls.map fun i => (now, .call i)

theorem mem_workset {now now' : Nat} {s : Strategies} {works : List Work} {w : Work} :
    (now', .call (.submit w)) ∈ workset now s works → w ∈ works := by
  intro hw
  obtain ⟨i, hi, eq⟩ := List.mem_map.mp hw
  obtain ⟨-, rfl⟩ : now = now' ∧ i = .submit w := by simpa using eq
  simpa using hi

/-- Without an interval every count reloads the reader.  So a manager counts a
document that the index in memory does not show yet, or misses one that it still
shows, though no document is written but by an update. -/
theorem count_reloads :
    let update : Work := .change (.update ⟨"a", []⟩)
    let deletion : Work := .change (.delete "a")
    let written := (start {}).run (workset 1 ⟨.force, .none⟩ [update])
    let deleted := (start {}).run
      (workset 1 ⟨.force, .force⟩ [update] ++ workset 2 ⟨.force, .none⟩ [deletion])
    (written.memory.engine.engine.visible.length = 0 ∧ (written.managerAt 3).count.1 = 1
        ∧ Unrepeated written.lists.engine.engine.visible
        ∧ Unrepeated (written.step 3 .count).lists.engine.engine.visible)
      ∧ deleted.memory.engine.engine.visible.length = 1 ∧ (deleted.managerAt 3).count.1 = 0
        ∧ Unrepeated deleted.lists.engine.engine.visible
        ∧ Unrepeated (deleted.step 3 .count).lists.engine.engine.visible := by
  intro update deletion written deleted
  have none : Unrepeated [] := List.nodup_nil
  have one (k : Kept) : Unrepeated [k] := List.nodup_singleton _
  exact ⟨⟨rfl, rfl, none, one _⟩, rfl, rfl, one _, none⟩

/-- Two documents with one identifier are added and shown, then they are deleted
and another one is written.  A count before the interval is over finds the two, and
one after it reloads the reader. -/
theorem twins_of_two_adds :
    let add (title : String) : Work := .silent (.add ⟨"a", [("title", .string title)]⟩)
    let errands := workset 1 ⟨.none, .force⟩ [add "old", add "new"] ++ [(2, .count)]
      ++ workset 3 ⟨.force, .none⟩ [.change (.delete "a"), .change (.update ⟨"b", []⟩)]
    let x := (start { refreshInterval := 10 }).run errands
    let seen (now : Nat) := (x.step now .count).memory.engine.engine.visible.length
    ((x.managerAt 9).isStale = false ∧ seen 9 = 1 ∧ (x.managerAt 9).count.1 = 2
        ∧ seen 9 ≤ (x.managerAt 9).count.1)
      ∧ (x.managerAt 10).isStale = true ∧ seen 10 = (x.managerAt 10).count.1 := by
  intro add errands x seen
  have taken (now : Nat) (w : Work) (hw : (now, Errand.call (.submit w)) ∈ errands) :
      ∀ d, w.document? = some d → ({} : Rules).receives d = .taken := by
    have work : w ∈ [add "old", add "new", .change (.delete "a"), .change (.update ⟨"b", []⟩)] := by
      rcases List.mem_append.mp hw with first | last
      · rcases List.mem_append.mp first with adds | counted
        · exact List.mem_append_left _ (mem_workset adds)
        · simp at counted
      · exact List.mem_append_right [_, _] (mem_workset last)
    simp only [List.mem_cons, List.not_mem_nil, or_false] at work
    rcases work with rfl | rfl | rfl | rfl <;> rintro d ⟨⟩ <;> decide +kernel
  have finds (id : String) (d : Document) : ({} : Rules).finds id d = (d.id == id) := rfl
  obtain ⟨-, -, -, -, counts⟩ := twins finds (fresh_start { refreshInterval := 10 }) taken
  obtain ⟨-, le, -, -⟩ := counts 9
  obtain ⟨-, -, eq, -⟩ := counts 10
  have once : Unrepeated (x.step 10 .count).lists.engine.engine.visible := by
    show List.Nodup _
    decide +kernel
  -- the two sides are the same as they stand, and nothing has to be computed
  have young : seen 9 ≤ (x.managerAt 9).count.1 := by with_reducible exact le
  have old : seen 10 = (x.managerAt 10).count.1 := by with_reducible exact eq once
  exact ⟨⟨by decide +kernel, by decide +kernel, by decide +kernel, young⟩, by decide +kernel, old⟩

end Pair

end WritePath
