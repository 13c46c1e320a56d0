import WritePath.Proofs.Json.Steps

/-!
# The nesting of what is read

A reader of values is given the number of containers that it may still enter.
What it answers nests no deeper than that (`nesting_le_of_readValue`): it gives one
away at every bracket, and of members with one name it keeps the last, which is
one of them.  So a text that can be read at all nests up to the limit
(`nesting_le_of_read?`).
-/

namespace WritePath

namespace Keyed

variable {α : Type} {key : String} {a : α} {p : String × α}

theorem eq_or_mem_of_mem_insert {l : Keyed α} :
    p ∈ insert key a l → p = (key, a) ∨ p ∈ l := by
  intro h
  induction l with
  | nil => exact .inl (List.mem_singleton.mp h)
  | cons q rest ih =>
    obtain ⟨k, b⟩ := q
    simp only [insert] at h
    split at h
    · exact (List.mem_cons.mp h).imp_right id
    · split at h
      · rcases List.mem_cons.mp h with rfl | h
        · exact .inl rfl
        · exact .inr (List.mem_cons_of_mem _ h)
      · rcases List.mem_cons.mp h with rfl | h
        · exact .inr List.mem_cons_self
        · exact (ih h).imp_right (List.mem_cons_of_mem _)

theorem mem_of_mem_ofList {pairs : List (String × α)} : p ∈ ofList pairs → p ∈ pairs := by
  suffices from' : ∀ l : Keyed α, p ∈ pairs.foldl (fun l q => insert q.1 q.2 l) l →
      p ∈ l ∨ p ∈ pairs by
    intro h
    exact (from' [] h).resolve_left List.not_mem_nil
  induction pairs with
  | nil => exact fun _ h => .inl h
  | cons q rest ih =>
    intro l h
    rcases ih _ h with before | later
    · rcases eq_or_mem_of_mem_insert before with rfl | before
      · exact .inr List.mem_cons_self
      · exact .inl before
    · exact .inr (List.mem_cons_of_mem _ later)

end Keyed

namespace Json

open Value (nestingItems nestingMembers)

/-! ## Members -/

theorem nestingMembers_le_iff {n : Nat} {members : List (String × Value)} :
    nestingMembers members ≤ n ↔ ∀ m ∈ members, m.2.nesting ≤ n := by
  induction members with
  | nil => exact ⟨fun _ => nofun, fun _ => Nat.zero_le n⟩
  | cons m rest ih => rw [nestingMembers, Nat.max_le, ih, List.forall_mem_cons]

theorem nestingMembers_ofList_le (members : List (String × Value)) :
    nestingMembers (Keyed.ofList members) ≤ nestingMembers members := by
  have each := nestingMembers_le_iff.mp (Nat.le_refl (nestingMembers members))
  exact nestingMembers_le_iff.mpr fun m hm => each m (Keyed.mem_of_mem_ofList hm)

theorem nestingMembers_erase {key : String} {v : Value} {members : List (String × Value)} :
    Keyed.get? key members = some v → v.nesting = 0 →
      nestingMembers (Keyed.erase key members) = nestingMembers members := by
  intro found flat
  induction members with
  | nil => cases found
  | cons m rest ih =>
    obtain ⟨k, w⟩ := m
    simp only [Keyed.get?] at found
    simp only [Keyed.erase]
    split at found
    · next same =>
      cases found
      rw [if_pos same, nestingMembers, flat, Nat.zero_max]
    · next other => rw [if_neg other, nestingMembers, nestingMembers, ih found]

/-! ## The readers -/

theorem nesting_of_value {n : Number} {v : Value} : n.value = some v → v.nesting = 0 := by
  intro h
  unfold Number.value at h
  split at h
  · cases h
    rfl
  · obtain ⟨x, -, rfl⟩ := Option.map_eq_some_iff.mp h
    rfl

section

variable {gather : List (String × Value) → List (String × Value)}

/-- With this fuel a reader enters no more containers than it may. -/
structure Bounded (gather : List (String × Value) → List (String × Value)) (fuel : Nat) :
    Prop where
  value : ∀ room cs v rest, readValue gather fuel room cs = some (v, rest) → v.nesting ≤ room
  items : ∀ room cs items rest, readItems gather fuel room cs = some (items, rest) →
    nestingItems items ≤ room
  members : ∀ room cs members rest, readMembers gather fuel room cs = some (members, rest) →
    nestingMembers members ≤ room

/-- The readers call one another with less fuel, so the bound is carried along
the fuel, for the three of them at once.  An array and an object take one from the room
for what is in them. -/
theorem bounded (keeps : ∀ l, nestingMembers (gather l) ≤ nestingMembers l) (fuel : Nat) :
    Bounded gather fuel := by
  induction fuel with
  | zero => exact ⟨nofun, nofun, nofun⟩
  | succ fuel ih =>
    refine ⟨fun room cs v rest h => ?value, fun room cs items rest h => ?items,
      fun room cs members rest h => ?members⟩
    case value =>
      cases readValue_cases h with
      | null | true | false | string => exact Nat.zero_le _
      | noItems | noMembers => exact Nat.succ_le_succ (Nat.zero_le _)
      | items _ _ read => exact Nat.succ_le_succ (ih.items _ _ _ _ read)
      | members _ _ read =>
        exact Nat.succ_le_succ (Nat.le_trans (keeps _) (ih.members _ _ _ _ read))
      | number _ value =>
        rw [nesting_of_value value]
        exact Nat.zero_le _
    case items =>
      obtain ⟨v, left, first, ⟨-, rfl⟩ | ⟨left', others, -, read, rfl⟩⟩ := readItems_cases h
      · exact Nat.max_le.mpr ⟨ih.value _ _ _ _ first, Nat.zero_le room⟩
      · exact Nat.max_le.mpr ⟨ih.value _ _ _ _ first, ih.items _ _ _ _ read⟩
    case members =>
      obtain ⟨_, key, _, _, v, _, -, -, -, first, ⟨-, rfl⟩ | ⟨_, others, -, read, rfl⟩⟩ :=
        readMembers_cases h
      · exact Nat.max_le.mpr ⟨ih.value _ _ _ _ first, Nat.zero_le room⟩
      · exact Nat.max_le.mpr ⟨ih.value _ _ _ _ first, ih.members _ _ _ _ read⟩

end

/-- What is read nests no deeper than the containers that may be entered. -/
theorem nesting_le_of_readValue {fuel room : Nat} {cs rest : List Char} {v : Value} :
    readValue Keyed.ofList fuel room cs = some (v, rest) → v.nesting ≤ room :=
  (bounded nestingMembers_ofList_le fuel).value room cs v rest

/-- A text that can be read nests up to the limit. -/
theorem nesting_le_of_read? {line : String} {v : Value} :
    Value.read? line = some v → v.nesting ≤ nestingLimit := by
  intro h
  obtain ⟨rest, read⟩ := exists_readValue_of_read? h
  exact nesting_le_of_readValue read

end Json

end WritePath
