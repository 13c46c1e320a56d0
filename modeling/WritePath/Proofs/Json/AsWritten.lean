import WritePath.Json.Outline
import WritePath.Json.Tree
import WritePath.Proofs.Json.Steps

/-!
# Values as they are written

A text can be read with the members of its objects as they stand (`asWritten?`), in
their order and with those that have the same name.  The value that the text spells
has keyed lists in their places (`read?_eq_keyed`), so of some members with one name
it has the last (`Keyed.get?_ofList`).
-/

namespace WritePath

open Json in
theorem Keyed.get?_ofList (key : String) (pairs : List (String × Value)) :
    get? key (ofList pairs) = (valuesOf key pairs).getLast? := by
  suffices onto : ∀ l : Keyed Value, get? key (pairs.foldl (fun l p => insert p.1 p.2 l) l)
      = (valuesOf key pairs).getLast?.or (get? key l) by
    rw [ofList, onto, get?_nil, Option.or_none]
  induction pairs with
  | nil => exact fun _ => rfl
  | cons p rest ih =>
    intro l
    rw [List.foldl_cons, ih]
    by_cases same : p.1 = key
    · have here : valuesOf key (p :: rest) = p.2 :: valuesOf key rest := by
        simp [valuesOf, same]
      rw [here, ← same, get?_insert_self, List.getLast?_cons]
      cases (valuesOf p.1 rest).getLast? <;> rfl
    · have here : valuesOf key (p :: rest) = valuesOf key rest := by
        simp [valuesOf, same]
      rw [here, get?_insert_of_ne (Ne.symm same)]

namespace Json

/-- The value that a text spells, its objects with all that stands in them. -/
def asWritten? (s : String) : Option Value :=
  whole (readTree (fuelFor s.toList) nestingLimit s.toList)

namespace Value

mutual

/-- The value with the keyed lists of the members of its objects. -/
def keyed : Value → Value
  | .array items => .array (keyedItems items)
  | .object members => .object (Keyed.ofList (keyedMembers members))
  | v => v

def keyedItems : List Value → List Value
  | [] => []
  | v :: rest => v.keyed :: keyedItems rest

def keyedMembers : List (String × Value) → List (String × Value)
  | [] => []
  | (name, v) :: rest => (name, v.keyed) :: keyedMembers rest

end

end Value

open Value (keyed keyedItems keyedMembers)

theorem keyed_of_value {n : Number} {v : Value} : n.value = some v → v.keyed = v := by
  intro h
  unfold Number.value at h
  split at h
  · cases h
    rfl
  · obtain ⟨x, -, rfl⟩ := Option.map_eq_some_iff.mp h
    rfl

/-- With this fuel the readers do the same in the same order, whatever they make of
the members. -/
structure SameSteps (fuel : Nat) : Prop where
  value : ∀ room cs, readValue Keyed.ofList fuel room cs
    = (readValue id fuel room cs).map fun r => (r.1.keyed, r.2)
  items : ∀ room cs, readItems Keyed.ofList fuel room cs
    = (readItems id fuel room cs).map fun r => (keyedItems r.1, r.2)
  members : ∀ room cs, readMembers Keyed.ofList fuel room cs
    = (readMembers id fuel room cs).map fun r => (keyedMembers r.1, r.2)

theorem sameSteps (fuel : Nat) : SameSteps fuel := by
  induction fuel with
  | zero => exact ⟨fun _ _ => rfl, fun _ _ => rfl, fun _ _ => rfl⟩
  | succ fuel ih =>
    refine ⟨fun room cs => ?value, fun room cs => ?items, fun room cs => ?members⟩
    case value =>
      simp only [readValue]
      generalize skipSpace cs = t
      split
      case h_5 =>
        cases room with
        | zero => rfl
        | succ room =>
          dsimp only
          split
          · rfl
          · rw [ih.items, Option.map_map, Option.map_map]
            rfl
      case h_6 =>
        cases room with
        | zero => rfl
        | succ room =>
          dsimp only
          split
          · rfl
          · rw [ih.members, Option.map_map, Option.map_map]
            rfl
      case h_4 => rw [Option.map_map]; rfl
      case h_7 =>
        cases readNumber t with
        | none => rfl
        | some r =>
          simp only [Option.bind_some, Option.map_map]
          exact (Option.map_congr fun v value => by simp [keyed_of_value value]).symm
      all_goals rfl
    case items =>
      simp only [readItems, ih.value, ih.items]
      cases readValue id fuel room cs with
      | none => rfl
      | some r =>
        obtain ⟨v, left⟩ := r
        simp only [Option.map_some, Option.bind_some]
        split
        · rfl
        · rw [Option.map_map, Option.map_map]
          rfl
        · rfl
    case members =>
      simp only [readMembers, ih.value, ih.members]
      split
      · cases readString _ with
        | none => rfl
        | some r =>
          simp only [Option.bind_some]
          split
          · cases readValue id fuel room _ with
            | none => rfl
            | some r =>
              obtain ⟨v, left⟩ := r
              simp only [Option.map_some, Option.bind_some]
              split
              · rfl
              · rw [Option.map_map, Option.map_map]
                rfl
              · rfl
          · rfl
      · rfl

/-- The value of a text has its objects as keyed lists. -/
theorem read?_eq_keyed (s : String) : Value.read? s = (asWritten? s).map keyed := by
  rw [Value.read?, asWritten?, readTree, (sameSteps _).value]
  cases readValue id (fuelFor s.toList) nestingLimit s.toList with
  | none => rfl
  | some r =>
    simp only [Option.map_some, whole]
    split <;> rfl

theorem valuesOf_keyedMembers (key : String) (members : List (String × Value)) :
    valuesOf key (keyedMembers members) = (valuesOf key members).map keyed := by
  induction members with
  | nil => rfl
  | cons m rest ih =>
    by_cases same : m.1 = key <;> simp_all [valuesOf, keyedMembers]

/-- What a keyed object has under a key is the last that was written there. -/
theorem get?_keyed (key : String) (members : List (String × Value)) :
    Keyed.get? key (Keyed.ofList (keyedMembers members))
      = ((valuesOf key members).getLast?).map keyed := by
  rw [Keyed.get?_ofList, valuesOf_keyedMembers, List.getLast?_map]

end Json

end WritePath
