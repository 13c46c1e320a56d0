import WritePath.Proofs.Json.Nesting
import WritePath.Proofs.Json.Steps

/-!
# Regular values

A value as the document format knows it: an object has its members in the order of
their keys, none of them twice, and an integer fits in sixty-four bits (`Regular`).
All that a reader answers is regular (`regular_of_readValue`), and the keyed list of
a regular object's members is that list (`Keyed.ofList_of_sorted`).

`Floatless` is for values of which what is written can be read back exactly.
-/

namespace WritePath

namespace Keyed

variable {α : Type}

theorem insert_of_lt {key : String} (a : α) {l : Keyed α} (after : ∀ p ∈ l, p.1 < key) :
    insert key a l = l ++ [(key, a)] := by
  induction l with
  | nil => rfl
  | cons q rest ih =>
    obtain ⟨before, others⟩ := List.forall_mem_cons.mp after
    have not_before : ¬ key < q.1 := String.lt_asymm before
    have other : q.1 ≠ key := fun same => String.lt_irrefl key (same ▸ before)
    rw [insert, if_neg not_before, if_neg other, ih others, List.cons_append]

theorem ofList_of_sorted {l : Keyed α} (sorted : Sorted l) : ofList l = l := by
  suffices from' : ∀ front : Keyed α, Sorted (front ++ l) →
      l.foldl (fun l p => insert p.1 p.2 l) front = front ++ l from from' [] sorted
  clear sorted
  induction l with
  | nil => exact fun front _ => (List.append_nil front).symm
  | cons q rest ih =>
    intro front sorted
    have after : ∀ p ∈ front, p.1 < q.1 := fun p hp =>
      (List.pairwise_append.mp sorted).2.2 p hp q List.mem_cons_self
    have moved : front ++ q :: rest = front ++ [(q.1, q.2)] ++ rest := by simp
    rw [List.foldl_cons, insert_of_lt q.2 after, ih _ (moved ▸ sorted), ← moved]

end Keyed

namespace Json

namespace Value

mutual

/-- A property of the value and of all values in it. -/
def Every (p : Value → Prop) : Value → Prop
  | .array items => p (.array items) ∧ EveryItem p items
  | .object members => p (.object members) ∧ EveryMember p members
  | v => p v

def EveryItem (p : Value → Prop) : List Value → Prop
  | [] => True
  | v :: rest => v.Every p ∧ EveryItem p rest

def EveryMember (p : Value → Prop) : List (String × Value) → Prop
  | [] => True
  | m :: rest => m.2.Every p ∧ EveryMember p rest

end

theorem everyMember_iff {p : Value → Prop} {members : List (String × Value)} :
    EveryMember p members ↔ ∀ m ∈ members, m.2.Every p := by
  induction members with
  | nil => exact ⟨fun _ => nofun, fun _ => trivial⟩
  | cons m rest ih => rw [EveryMember, ih, List.forall_mem_cons]

/-- An integer fits; an object is a keyed list. -/
def IsRegular : Value → Prop
  | .int i => fits i = true
  | .object members => Keyed.Sorted members
  | .null | .bool _ | .float _ | .string _ | .array _ => True

/-- The value and all values in it are as the format knows them. -/
abbrev Regular (v : Value) : Prop :=
  v.Every IsRegular

/-- No number with a fraction or an exponent. -/
def IsNoFloat : Value → Prop
  | .float _ => False
  | .null | .bool _ | .int _ | .string _ | .array _ | .object _ => True

/-- There is no float in the value. -/
abbrev Floatless (v : Value) : Prop :=
  v.Every IsNoFloat

end Value

/-! ## What is read is regular -/

open Value (EveryItem EveryMember IsRegular Regular)

theorem regular_of_value {n : Number} {v : Value} : n.value = some v → v.Regular := by
  intro h
  unfold Number.value at h
  split at h
  · next small =>
    cases h
    simp only [Bool.and_eq_true] at small
    exact small.1.2
  · obtain ⟨x, -, rfl⟩ := Option.map_eq_some_iff.mp h
    exact trivial

/-- With this fuel a reader answers regular values. -/
structure ReadsRegular (fuel : Nat) : Prop where
  value : ∀ room cs v rest, readValue Keyed.ofList fuel room cs = some (v, rest) → v.Regular
  items : ∀ room cs items rest, readItems Keyed.ofList fuel room cs = some (items, rest) →
    EveryItem IsRegular items
  members : ∀ room cs members rest,
    readMembers Keyed.ofList fuel room cs = some (members, rest) → EveryMember IsRegular members

theorem readsRegular (fuel : Nat) : ReadsRegular fuel := by
  induction fuel with
  | zero => exact ⟨nofun, nofun, nofun⟩
  | succ fuel ih =>
    refine ⟨fun room cs v rest h => ?value, fun room cs items rest h => ?items,
      fun room cs members rest h => ?members⟩
    case value =>
      cases readValue_cases h with
      | null | true | false | string => trivial
      | noItems => exact ⟨trivial, trivial⟩
      | items _ _ read => exact ⟨trivial, ih.items _ _ _ _ read⟩
      | noMembers => exact ⟨List.Pairwise.nil, trivial⟩
      | members _ _ read =>
        -- of the members with one name one stays
        have each := Value.everyMember_iff.mp (ih.members _ _ _ _ read)
        exact ⟨Keyed.sorted_ofList _,
          Value.everyMember_iff.mpr fun m hm => each m (Keyed.mem_of_mem_ofList hm)⟩
      | number _ value => exact regular_of_value value
    case items =>
      obtain ⟨v, left, first, ⟨-, rfl⟩ | ⟨left', others, -, read, rfl⟩⟩ := readItems_cases h
      · exact ⟨ih.value _ _ _ _ first, trivial⟩
      · exact ⟨ih.value _ _ _ _ first, ih.items _ _ _ _ read⟩
    case members =>
      obtain ⟨_, key, _, _, v, _, -, -, -, first, ⟨-, rfl⟩ | ⟨_, others, -, read, rfl⟩⟩ :=
        readMembers_cases h
      · exact ⟨ih.value _ _ _ _ first, trivial⟩
      · exact ⟨ih.value _ _ _ _ first, ih.members _ _ _ _ read⟩

theorem regular_of_read? {s : String} {v : Value} : Value.read? s = some v → v.Regular := by
  intro h
  obtain ⟨rest, read⟩ := exists_readValue_of_read? h
  exact (readsRegular _).value _ _ _ _ read

end Json

end WritePath
