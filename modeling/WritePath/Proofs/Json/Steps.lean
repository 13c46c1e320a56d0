import WritePath.Json.Reader

/-!
# What a reader of values does in one step

The three readers of values call one another with less fuel.  Here is said, once for
each of them, what it can have done if it answers something (`readValue_cases`,
`readItems_cases`, `readMembers_cases`); what holds of all that can be read is shown
from this by induction on the fuel.
-/

namespace WritePath.Json

variable {gather : List (String × Value) → List (String × Value)} {fuel room : Nat}
  {cs rest : List Char}

/-- How a value can have been read with one more unit of fuel. -/
inductive ValueStep (gather : List (String × Value) → List (String × Value)) (fuel : Nat)
    (cs : List Char) : Nat → Value → List Char → Prop where
  | null {room : Nat} {rest : List Char} :
      skipSpace cs = 'n' :: 'u' :: 'l' :: 'l' :: rest → ValueStep gather fuel cs room .null rest
  | true {room : Nat} {rest : List Char} :
      skipSpace cs = 't' :: 'r' :: 'u' :: 'e' :: rest →
        ValueStep gather fuel cs room (.bool true) rest
  | false {room : Nat} {rest : List Char} :
      skipSpace cs = 'f' :: 'a' :: 'l' :: 's' :: 'e' :: rest →
        ValueStep gather fuel cs room (.bool false) rest
  | string {room : Nat} {inside s rest : List Char} :
      skipSpace cs = '"' :: inside → readString inside = some (s, rest) →
        ValueStep gather fuel cs room (.string (String.ofList s)) rest
  | noItems {room : Nat} {inside rest : List Char} :
      skipSpace cs = '[' :: inside → skipSpace inside = ']' :: rest →
        ValueStep gather fuel cs (room + 1) (.array []) rest
  | items {room : Nat} {inside rest : List Char} {items : List Value} :
      skipSpace cs = '[' :: inside → (∀ more, skipSpace inside ≠ ']' :: more) →
      readItems gather fuel room (skipSpace inside) = some (items, rest) →
        ValueStep gather fuel cs (room + 1) (.array items) rest
  | noMembers {room : Nat} {inside rest : List Char} :
      skipSpace cs = '\x7b' :: inside → skipSpace inside = '\x7d' :: rest →
        ValueStep gather fuel cs (room + 1) (.object []) rest
  | members {room : Nat} {inside rest : List Char} {members : List (String × Value)} :
      skipSpace cs = '\x7b' :: inside → (∀ more, skipSpace inside ≠ '\x7d' :: more) →
      readMembers gather fuel room (skipSpace inside) = some (members, rest) →
        ValueStep gather fuel cs (room + 1) (.object (gather members)) rest
  | number {room : Nat} {n : Number} {v : Value} {rest : List Char} :
      readNumber (skipSpace cs) = some (n, rest) → n.value = some v →
        ValueStep gather fuel cs room v rest

theorem readValue_cases {v : Value} :
    readValue gather (fuel + 1) room cs = some (v, rest) →
      ValueStep gather fuel cs room v rest := by
  intro h
  simp only [readValue] at h
  split at h
  · next front =>
    cases h
    exact .null front
  · next front =>
    cases h
    exact .true front
  · next front =>
    cases h
    exact .false front
  · next front =>
    obtain ⟨r, inside, read⟩ := Option.map_eq_some_iff.mp h
    cases read
    exact .string front inside
  · next front =>
    cases room with
    | zero => cases h
    | succ room =>
      dsimp only at h
      split at h
      · next closed =>
        cases h
        exact .noItems front closed
      · next opened =>
        obtain ⟨r, items, read⟩ := Option.map_eq_some_iff.mp h
        cases read
        exact .items front opened items
  · next front =>
    cases room with
    | zero => cases h
    | succ room =>
      dsimp only at h
      split at h
      · next closed =>
        cases h
        exact .noMembers front closed
      · next opened =>
        obtain ⟨r, members, read⟩ := Option.map_eq_some_iff.mp h
        cases read
        exact .members front opened members
  · obtain ⟨r, number, read⟩ := Option.bind_eq_some_iff.mp h
    obtain ⟨v', value, read⟩ := Option.map_eq_some_iff.mp read
    cases read
    exact .number number value

theorem readItems_cases {items : List Value} :
    readItems gather (fuel + 1) room cs = some (items, rest) →
      ∃ v left, readValue gather fuel room cs = some (v, left)
        ∧ (skipSpace left = ']' :: rest ∧ items = [v]
          ∨ ∃ left' others, skipSpace left = ',' :: left'
            ∧ readItems gather fuel room left' = some (others, rest) ∧ items = v :: others) := by
  intro h
  simp only [readItems] at h
  obtain ⟨⟨v, left⟩, first, h⟩ := Option.bind_eq_some_iff.mp h
  refine ⟨v, left, first, ?_⟩
  split at h
  · next closed =>
    cases h
    exact .inl ⟨closed, rfl⟩
  · next comma =>
    obtain ⟨r, others, read⟩ := Option.map_eq_some_iff.mp h
    cases read
    exact .inr ⟨_, r.1, comma, others, rfl⟩
  · cases h

theorem readMembers_cases {members : List (String × Value)} :
    readMembers gather (fuel + 1) room cs = some (members, rest) →
      ∃ inside key left left' v left'', skipSpace cs = '"' :: inside
        ∧ readString inside = some (key, left) ∧ skipSpace left = ':' :: left'
        ∧ readValue gather fuel room left' = some (v, left'')
        ∧ (skipSpace left'' = '\x7d' :: rest ∧ members = [(String.ofList key, v)]
          ∨ ∃ last others, skipSpace left'' = ',' :: last
            ∧ readMembers gather fuel room last = some (others, rest)
            ∧ members = (String.ofList key, v) :: others) := by
  intro h
  simp only [readMembers] at h
  split at h
  · next front =>
    obtain ⟨⟨key, left⟩, name, h⟩ := Option.bind_eq_some_iff.mp h
    dsimp only at h
    split at h
    · next colon =>
      obtain ⟨⟨v, left''⟩, first, h⟩ := Option.bind_eq_some_iff.mp h
      refine ⟨_, key, left, _, v, left'', front, name, colon, first, ?_⟩
      split at h
      · next closed =>
        cases h
        exact .inl ⟨closed, rfl⟩
      · next comma =>
        obtain ⟨r, others, read⟩ := Option.map_eq_some_iff.mp h
        cases read
        exact .inr ⟨_, r.1, comma, others, rfl⟩
      · cases h
    · cases h
  · cases h

theorem whole_eq_some {α : Type} {r : Option (α × List Char)} {a : α} :
    whole r = some a ↔ ∃ rest, r = some (a, rest) ∧ (skipSpace rest).isEmpty = true := by
  cases r with
  | none => exact ⟨nofun, nofun⟩
  | some r =>
    obtain ⟨b, rest⟩ := r
    rw [whole, Option.ite_none_right_eq_some, Option.some.injEq]
    constructor
    · rintro ⟨blank, rfl⟩
      exact ⟨rest, rfl, blank⟩
    · rintro ⟨_, ⟨⟩, blank⟩
      exact ⟨blank, rfl⟩

theorem exists_readValue_of_read? {s : String} {v : Value} :
    Value.read? s = some v → ∃ rest,
      readValue Keyed.ofList (fuelFor s.toList) nestingLimit s.toList = some (v, rest) := by
  intro h
  obtain ⟨rest, read, -⟩ := whole_eq_some.mp h
  exact ⟨rest, read⟩

end WritePath.Json
