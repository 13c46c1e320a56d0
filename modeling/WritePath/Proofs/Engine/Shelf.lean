import WritePath.Proofs.Engine.Generations
import WritePath.Proofs.Engine.LastWrites
import WritePath.Proofs.Engine.Watched

/-!
# What two engines have in common

The engine of lists keeps every document that is added, the engine in memory the
last one of each identifier.  Both are views of a third engine, a `Shelf`: the
list of what was added and not deleted, without anything that can go wrong.  Seen
as lists (`asLists`) it is the engine of lists as long as no document is refused,
and seen as the last document of each identifier (`asMemory`) it is the engine in
memory.

So what the same calls make of the two is alike (`twin_all`), and nothing needs
to be known of the calls but that none is a close.
-/

namespace WritePath

open Engine (Memory Listing)
open Engine.Listing (Rules documents)

/-! ## Calls one after another -/

namespace Request

variable {ε : Type} [Engine ε]

/-- The engine after a call, whatever it has answered. -/
def on : Request → ε → ε
  | .add d, m => (Engine.add d m).2
  | .delete id, m => (Engine.delete id m).2
  | .deleteAll, m => (Engine.deleteAll m).2
  | .commit, m => (Engine.commit m).2
  | .refresh, m => (Engine.refresh m).2
  | .close, m => (Engine.close m).2

def all (calls : List Request) (m : ε) : ε :=
  calls.foldl (fun m r => r.on m) m

theorem all_append (calls : List Request) (r : Request) (m : ε) :
    all (calls ++ [r]) m = r.on (all calls m) := by
  simp [all]

theorem on_watched (r : Request) (x : Watched ε) :
    r.on x = ⟨r.on x.engine, x.asked ++ [r]⟩ := by
  cases r <;> rfl

theorem all_watched (calls : List Request) (x : Watched ε) :
    all calls x = ⟨all calls x.engine, x.asked ++ calls⟩ := by
  induction calls generalizing x with
  | nil => simp [all]
  | cons r rest ih =>
    show all rest (r.on x) = ⟨all rest (r.on x.engine), x.asked ++ r :: rest⟩
    rw [ih, on_watched]
    simp

theorem all_through {δ : Type} [Engine δ] {f : δ → ε} {calls : List Request}
    (h : ∀ r ∈ calls, ∀ x, r.on (f x) = f (r.on x)) (x : δ) :
    all calls (f x) = f (all calls x) := by
  induction calls generalizing x with
  | nil => rfl
  | cons r rest ih =>
    show all rest (r.on (f x)) = _
    rw [h r List.mem_cons_self x]
    exact ih (fun r hr => h r (List.mem_cons_of_mem _ hr)) (r.on x)

/-- An index with these rules takes the call: it is no close, and it does not
add a document that is refused. -/
def Welcome (rules : Rules) : Request → Prop
  | .add d => rules.receives d = .taken
  | .close => False
  | .delete _ | .deleteAll | .commit | .refresh => True

end Request

/-! ## Kept documents -/

namespace Engine.Listing

/-- The documents but for those with an identifier. -/
def withoutId (id : String) (docs : List Kept) : List Kept :=
  docs.filter (fun k => !(k.document.id == id))

/-- No identifier occurs twice. -/
def Unrepeated (docs : List Kept) : Prop :=
  ((documents docs).map Document.id).Nodup

variable (docs : List Kept)

theorem without_eq {finds : String → Document → Bool} (h : ∀ id d, finds id d = (d.id == id))
    (id : String) : without finds id docs = withoutId id docs := by
  simp only [without, withoutId, h]

theorem documents_append (k : Kept) : documents (docs ++ [k]) = documents docs ++ [k.document] := by
  simp [documents]

theorem documents_withoutId (id : String) :
    documents (withoutId id docs) = (documents docs).filter (fun d => !(d.id == id)) := by
  rw [documents, documents, List.filter_map]
  rfl

variable {docs}

theorem Unrepeated.withoutId (h : Unrepeated docs) (id : String) :
    Unrepeated (withoutId id docs) := by
  unfold Unrepeated
  rw [documents_withoutId]
  exact h.sublist (List.filter_sublist.map _)

theorem Unrepeated.replaced (h : Unrepeated docs) (k : Kept) :
    Unrepeated (Listing.withoutId k.document.id docs ++ [k]) := by
  have others := h.withoutId k.document.id
  unfold Unrepeated at others ⊢
  rw [documents_append, List.map_append, List.nodup_append]
  refine ⟨others, List.nodup_singleton _, ?_⟩
  rw [documents_withoutId]
  rintro id other _ new rfl
  obtain ⟨d, hd, rfl⟩ := List.mem_map.mp other
  have same : d.id = k.document.id := by simpa using new
  simp [same] at hd

end Engine.Listing

open Engine.Listing (withoutId without_eq Unrepeated documents_append documents_withoutId)

/-- Generation by generation, the index in memory has the last document of each
identifier of the lists. -/
structure Twin (m : Memory) (l : Listing) : Prop where
  staged : LastWrites m.staged (documents l.staged)
  committed : LastWrites m.committed (documents l.committed)
  visible : LastWrites m.visible (documents l.visible)

section

variable {m : Memory} {l : Listing} (h : Twin m l)
include h

theorem Twin.length_le : m.visible.length ≤ l.visible.length := by
  simpa [documents] using h.visible.length_le

theorem Twin.length_eq : Unrepeated l.visible → m.visible.length = l.visible.length := by
  intro unrepeated
  simpa [documents] using h.visible.length_eq unrepeated

end

/-! ## The shelf -/

/-- Three generations of documents, with the calls that made them. -/
structure Shelf where
  staged : List Kept := []
  committed : List Kept := []
  visible : List Kept := []
  stamp : Stamp := 0
  asked : List Request := []

namespace Shelf

/-- Notes a change and answers the next stamp. -/
def stamped (r : Request) (x : Shelf) : Except Failure Stamp × Shelf :=
  (.ok (x.stamp + 1), { x with stamp := x.stamp + 1, asked := x.asked ++ [r] })

instance : Engine Shelf where
  add d x := stamped (.add d) { x with staged := x.staged ++ [⟨d, {}⟩] }
  delete id x := stamped (.delete id) { x with staged := withoutId id x.staged }
  deleteAll x := stamped .deleteAll { x with staged := [] }
  commit x := stamped .commit { x with committed := x.staged }
  refresh x := (.ok (), { x with visible := x.committed, asked := x.asked ++ [.refresh] })
  close x := (.ok (), { x with staged := x.committed, asked := x.asked ++ [.close] })

def asLists (rules : Rules) (x : Shelf) : Watched Listing where
  engine :=
    { staged := x.staged
      committed := x.committed
      visible := x.visible
      stamp := x.stamp
      rules := rules }
  asked := x.asked

/-- What the engine in memory notes of a call. -/
def noted : Request → Engine.Event
  | .add d => .add d.id
  | .delete id => .delete id
  | .deleteAll => .deleteAll
  | .commit => .commit
  | .refresh => .refresh
  | .close => .close

/-- The engine in memory with the last documents. -/
def asMemory (x : Shelf) : Watched Memory where
  engine :=
    { staged := latest (documents x.staged)
      committed := latest (documents x.committed)
      visible := latest (documents x.visible)
      stamp := x.stamp
      events := x.asked.map noted }
  asked := x.asked

/-! ### As lists -/

section AsLists

variable {rules : Rules}

theorem consistent_asLists : Consistent (asLists rules) :=
  ⟨fun _ => rfl, fun _ => rfl⟩

theorem add_asLists {d : Document} (hd : rules.receives d = .taken) :
    Through (asLists rules) (Engine.add d) (Engine.add d) := by
  intro x
  show Watched.listed (.add d) (Listing.add d) (x.asLists rules) = _
  have taken : (x.asLists rules).engine.rules.receives d = .taken := hd
  simp only [Watched.listed, Listing.add, taken]
  rfl

theorem delete_asLists (finds : ∀ id d, rules.finds id d = (d.id == id)) (id : String) :
    Through (asLists rules) (Engine.delete id) (Engine.delete id) := by
  intro x
  show Watched.listed (.delete id) (Listing.delete id) (x.asLists rules) = _
  simp only [Watched.listed, Listing.delete, asLists, without_eq x.staged finds]
  rfl

theorem work_asLists (finds : ∀ id d, rules.finds id d = (d.id == id)) {w : Work}
    (taken : ∀ d, w.document? = some d → rules.receives d = .taken) :
    Through (asLists rules) w.run w.run :=
  Processor.through_work_of (delete_asLists finds) (fun d hd => add_asLists (taken d hd))
    fun _ => rfl

theorem on_asLists (finds : ∀ id d, rules.finds id d = (d.id == id)) {r : Request}
    (welcome : r.Welcome rules) (x : Shelf) : r.on (x.asLists rules) = (r.on x).asLists rules := by
  cases r with
  | add d => exact congrArg Prod.snd (add_asLists welcome x)
  | delete id => exact congrArg Prod.snd (delete_asLists finds id x)
  | deleteAll | commit | refresh => rfl
  | close => exact welcome.elim

end AsLists

/-! ### In memory -/

theorem add_asMemory (d : Document) : Through asMemory (Engine.add d) (Engine.add d) := by
  intro x
  show Watched.listed (.add d) (Memory.add d) x.asMemory = _
  simp [Watched.listed, Memory.add, Memory.whileOpen, Memory.stamped, asMemory, noted, Engine.add,
    stamped, documents_append, latest_append]

theorem delete_asMemory (id : String) :
    Through asMemory (Engine.delete id) (Engine.delete id) := by
  intro x
  show Watched.listed (.delete id) (Memory.delete id) x.asMemory = _
  simp [Watched.listed, Memory.delete, Memory.whileOpen, Memory.stamped, asMemory, noted,
    Engine.delete, stamped, documents_withoutId, latest_without]

theorem deleteAll_asMemory : Through asMemory Engine.deleteAll Engine.deleteAll := by
  intro x
  show Watched.listed .deleteAll Memory.deleteAll x.asMemory = _
  simp [Watched.listed, Memory.deleteAll, Memory.whileOpen, Memory.stamped, asMemory, noted,
    Engine.deleteAll, stamped, documents, latest, Keyed.ofList]

theorem consistent_asMemory : Consistent asMemory := by
  constructor
  · intro x
    show Watched.listed .commit Memory.commit x.asMemory = _
    simp [Watched.listed, Memory.commit, Memory.whileOpen, Memory.stamped, asMemory, noted,
      Engine.commit, stamped]
  · intro x
    show Watched.listed .refresh Memory.refresh x.asMemory = _
    simp [Watched.listed, Memory.refresh, Memory.whileOpen, asMemory, noted, Engine.refresh]

theorem work_asMemory (w : Work) : Through asMemory w.run w.run :=
  Processor.through_work_of delete_asMemory (fun d _ => add_asMemory d) deleteAll_asMemory

theorem on_asMemory {rules : Rules} {r : Request} (welcome : r.Welcome rules) (x : Shelf) :
    r.on x.asMemory = (r.on x).asMemory := by
  cases r with
  | add d => exact congrArg Prod.snd (add_asMemory d x)
  | delete id => exact congrArg Prod.snd (delete_asMemory id x)
  | deleteAll => exact congrArg Prod.snd (deleteAll_asMemory x)
  | commit => exact congrArg Prod.snd (consistent_asMemory.commit x)
  | refresh => exact congrArg Prod.snd (consistent_asMemory.refresh x)
  | close => exact welcome.elim

/-! ### What the calls make of it -/

theorem asked_on (r : Request) (x : Shelf) : (r.on x).asked = x.asked ++ [r] := by
  cases r <;> rfl

theorem twin (rules : Rules) (x : Shelf) : Twin x.asMemory.engine (x.asLists rules).engine :=
  ⟨lastWrites_latest _, lastWrites_latest _, lastWrites_latest _⟩

section

variable {rules : Rules} {calls : List Request} (welcome : ∀ r ∈ calls, r.Welcome rules)
include welcome

theorem all_memory :
    Request.all calls ({} : Memory) = (Request.all calls ({} : Shelf)).asMemory.engine := by
  have through := Request.all_through (fun r hr => on_asMemory (welcome r hr)) ({} : Shelf)
  rw [← through, Request.all_watched]
  rfl

variable (finds : ∀ id d, rules.finds id d = (d.id == id))
include finds

theorem all_lists :
    Request.all calls { rules := rules }
      = ((Request.all calls ({} : Shelf)).asLists rules).engine := by
  have through := Request.all_through (fun r hr => on_asLists finds (welcome r hr)) ({} : Shelf)
  rw [← through, Request.all_watched]
  rfl

/-- Whatever is asked of two empty engines, what comes of it is alike. -/
theorem twin_all : Twin (Request.all calls {}) (Request.all calls { rules := rules }) := by
  rw [all_memory welcome, all_lists welcome finds]
  exact twin rules _

end

/-- What a change asks of the engine. -/
def changeRequests : Change → List Request
  | .add d => [.add d]
  | .update d => [.delete d.id, .add d]
  | .delete id => [.delete id]

def requests : Work → List Request
  | .change c | .silent c => changeRequests c
  | .purge => [.deleteAll]
  | .flush | .refresh => []

theorem run_work (w : Work) (x : Shelf) : (w.run x).2 = Request.all (requests w) x := by
  cases w with
  | change c | silent c => cases c <;> rfl
  | purge | flush | refresh => rfl

theorem welcome_requests {rules : Rules} {w : Work}
    (taken : ∀ d, w.document? = some d → rules.receives d = .taken) :
    ∀ r ∈ requests w, r.Welcome rules := by
  intro r hr
  have change (c : Change) (taken : ∀ d, c.document? = some d → rules.receives d = .taken) :
      r ∈ changeRequests c → r.Welcome rules := by
    intro hr
    cases c with
    | add d =>
      rw [List.mem_singleton.mp hr]
      exact taken d rfl
    | delete id =>
      rw [List.mem_singleton.mp hr]
      trivial
    | update d =>
      rcases List.mem_cons.mp hr with rfl | hr
      · trivial
      · rw [List.mem_singleton.mp hr]
        exact taken d rfl
  cases w with
  | change c | silent c => exact change c taken hr
  | purge =>
    rw [List.mem_singleton.mp hr]
    trivial
  | flush | refresh => cases hr

/-- A document is added whatever the index holds of its identifier. -/
def adds : Work → Bool
  | .change (.add _) | .silent (.add _) => true
  | .change (.update _) | .change (.delete _) | .silent (.update _) | .silent (.delete _)
  | .purge | .flush | .refresh => false

/-! ### Repeated identifiers -/

/-- In no generation an identifier occurs twice. -/
structure Tidy (x : Shelf) : Prop where
  staged : Unrepeated x.staged
  committed : Unrepeated x.committed
  visible : Unrepeated x.visible

theorem Tidy.commit {x : Shelf} (h : Tidy x) : Tidy (Engine.commit x).2 :=
  ⟨h.staged, h.staged, h.visible⟩

theorem Tidy.refresh {x : Shelf} (h : Tidy x) : Tidy (Engine.refresh x).2 :=
  ⟨h.staged, h.committed, h.committed⟩

theorem Tidy.change {c : Change} (hc : ∀ d, c ≠ .add d) {x : Shelf} (h : Tidy x) :
    Tidy (c.run x).2 := by
  cases c with
  | add d => exact absurd rfl (hc d)
  | update d => exact ⟨h.staged.replaced ⟨d, {}⟩, h.committed, h.visible⟩
  | delete id => exact ⟨h.staged.withoutId id, h.committed, h.visible⟩

theorem Tidy.work {w : Work} (hw : adds w = false) {x : Shelf} (h : Tidy x) :
    Tidy (w.run x).2 := by
  cases w with
  | change c | silent c => exact h.change (by rintro d rfl; cases hw)
  | purge => exact ⟨List.nodup_nil, h.committed, h.visible⟩
  | flush | refresh => exact h

end Shelf

end WritePath
