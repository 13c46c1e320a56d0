import WritePath.Json.Outline
import WritePath.Proofs.Json.RoundTrip

/-!
# Values that are passed over

What is not wanted is not read but passed over.  This works for the text of any value
(`passes`), also of one that nests too deep to be read, and for all that can be read
(`passesRead`), and it leaves the same rest as reading would.
-/

namespace WritePath.Json

open Value (text itemsText membersText)

/-! ## What is written -/

section

variable {fuel : Nat} {rest : List Char}

theorem skip_number {cs : List Char} {n : Number} (read : readNumber cs = some (n, rest)) :
    skip (fuel + 1) cs = some rest := by
  obtain ⟨c, more, rfl, front⟩ := head_of_readNumber read
  have other := not_mem_of_number front
  simp only [List.mem_cons, not_or] at other
  rw [skip, skipSpace_cons (opens_of_number front).1]
  split
  case h_7 => rw [read]; rfl
  all_goals
    next heq =>
    cases heq
    simp at other

theorem skip_items {v : Value} {items : List Value}
    (passed : skipItems fuel (itemsText (v :: items) ++ ']' :: rest) = some rest) :
    skip (fuel + 1) ((Value.array (v :: items)).text ++ rest) = some rest := by
  obtain ⟨c, cs, heq, space, bracket⟩ := itemsText_head v items
  rw [heq] at passed
  rw [text, heq, List.cons_append, List.append_assoc, skip, skipSpace_cons (by decide)]
  simp only [List.cons_append, List.nil_append] at passed ⊢
  rw [skipSpace_cons space]
  split
  · next closed => exact absurd (List.cons.inj closed).1 bracket
  · exact passed

theorem skip_members {m : String × Value} {members : List (String × Value)}
    (passed : skipMembers fuel (membersText (m :: members) ++ '\x7d' :: rest) = some rest) :
    skip (fuel + 1) ((Value.object (m :: members)).text ++ rest) = some rest := by
  obtain ⟨cs, heq⟩ := membersText_head m members
  rw [heq] at passed
  rw [text, heq, List.cons_append, List.append_assoc, skip, skipSpace_cons (by decide)]
  simp only [List.cons_append, List.nil_append] at passed ⊢
  rw [skipSpace_cons (by decide)]
  split
  · next closed => cases closed
  · exact passed

end

/-- With this fuel a value is passed over that is not too long for it. -/
structure Passes (fuel : Nat) : Prop where
  value : ∀ (v : Value) (rest : List Char), 2 * v.text.length ≤ fuel → Follows rest →
    skip fuel (v.text ++ rest) = some rest
  items : ∀ (v : Value) (items : List Value) (rest : List Char),
    2 * (itemsText (v :: items)).length + 1 ≤ fuel →
      skipItems fuel (itemsText (v :: items) ++ ']' :: rest) = some rest
  members : ∀ (m : String × Value) (members : List (String × Value)) (rest : List Char),
    2 * (membersText (m :: members)).length + 1 ≤ fuel →
      skipMembers fuel (membersText (m :: members) ++ '\x7d' :: rest) = some rest

namespace Passes

variable {fuel : Nat} (passes : Passes fuel) (rest : List Char)
include passes

theorem value_succ (v : Value) (enough : 2 * v.text.length ≤ fuel + 1) (follows : Follows rest) :
    skip (fuel + 1) (v.text ++ rest) = some rest := by
  cases v with
  | null => rfl
  | bool b => cases b <;> rfl
  | int i => exact skip_number (readNumber_int i follows)
  | float x =>
    obtain ⟨n, read⟩ := readNumber_float x follows
    exact skip_number read
  | string s =>
    obtain ⟨inside, heq, passed⟩ := skipString_stringText s rest
    rw [text, heq, skip, skipSpace_cons (by decide)]
    exact passed
  | array items =>
    cases items with
    | nil => rfl
    | cons v items =>
      rw [text, List.length_cons, List.length_append] at enough
      exact skip_items (passes.items v items rest (by omega))
  | object members =>
    cases members with
    | nil => rfl
    | cons m members =>
      rw [text, List.length_cons, List.length_append] at enough
      exact skip_members (passes.members m members rest (by omega))

theorem items_succ (v : Value) (items : List Value)
    (enough : 2 * (itemsText (v :: items)).length + 1 ≤ fuel + 1) :
    skipItems (fuel + 1) (itemsText (v :: items) ++ ']' :: rest) = some rest := by
  have first (more : List Char) := passes.value v more
  cases items with
  | nil =>
    rw [itemsText] at enough ⊢
    rw [skipItems, first _ (by omega) (follows_bracket rest)]
    rfl
  | cons w items =>
    rw [itemsText, List.length_append, List.length_cons] at enough
    rw [itemsText, List.append_assoc, List.cons_append, skipItems,
      first _ (by omega) (follows_comma _)]
    simp only [Option.bind_some, skipSpace_cons (by decide : isSpace ',' = false),
      passes.items w items rest (by omega)]

theorem members_succ (m : String × Value) (members : List (String × Value))
    (enough : 2 * (membersText (m :: members)).length + 1 ≤ fuel + 1) :
    skipMembers (fuel + 1) (membersText (m :: members) ++ '\x7d' :: rest) = some rest := by
  obtain ⟨k, v⟩ := m
  have shorter := length_membersText k v members
  have first := passes.value v _ (by omega) (follows_membersTail members rest)
  obtain ⟨inside, heq, name⟩ :=
    skipString_stringText k (':' :: (v.text ++ membersTail rest members))
  rw [membersText_cons, heq, skipMembers, skipSpace_cons (by decide)]
  simp only [name, Option.bind_some, skipSpace_cons (by decide : isSpace ':' = false), first]
  cases members with
  | nil => rfl
  | cons m members =>
    rw [membersTail, skipSpace_cons (by decide)]
    exact passes.members m members rest (by omega)

end Passes

theorem passes (fuel : Nat) : Passes fuel := by
  induction fuel with
  | zero =>
    refine ⟨fun v rest enough _ => ?_, by omega, by omega⟩
    have := length_text_pos v
    omega
  | succ fuel ih =>
    exact ⟨fun v rest => ih.value_succ rest v, fun v items rest => ih.items_succ rest v items,
      fun m members rest => ih.members_succ rest m members⟩

/-! ## What can be read -/

theorem skipSpace_skipSpace (cs : List Char) : skipSpace (skipSpace cs) = skipSpace cs := by
  induction cs with
  | nil => rfl
  | cons c cs ih =>
    cases space : isSpace c with
    | true => simp only [skipSpace, List.dropWhile_cons, space] at ih ⊢; exact ih
    | false => rw [skipSpace_cons space, skipSpace_cons space]

/-- With this fuel what can be read can be passed over. -/
structure PassesRead (gather : List (String × Value) → List (String × Value)) (fuel : Nat) :
    Prop where
  value : ∀ room cs v rest, readValue gather fuel room cs = some (v, rest) →
    skip fuel cs = some rest
  items : ∀ room cs items rest, readItems gather fuel room cs = some (items, rest) →
    skipItems fuel cs = some rest
  members : ∀ room cs members rest, readMembers gather fuel room cs = some (members, rest) →
    skipMembers fuel cs = some rest

theorem passesRead (gather : List (String × Value) → List (String × Value)) (fuel : Nat) :
    PassesRead gather fuel := by
  induction fuel with
  | zero => exact ⟨nofun, nofun, nofun⟩
  | succ fuel ih =>
    refine ⟨fun room cs v rest h => ?value, fun room cs items rest h => ?items,
      fun room cs members rest h => ?members⟩
    case value =>
      cases readValue_cases h with
      | null front | true front | false front => simp only [skip, front]
      | string front inside => simp only [skip, front, skipString_of_readString inside]
      | noItems front closed | noMembers front closed => simp only [skip, front, closed]
      | items front opened read =>
        simp only [skip, front]
        exact ih.items _ _ _ _ read
      | members front opened read =>
        simp only [skip, front]
        exact ih.members _ _ _ _ read
      | number read value =>
        have passed : skip (fuel + 1) (skipSpace cs) = some rest := skip_number read
        rwa [skip, skipSpace_skipSpace, ← skip] at passed
    case items =>
      obtain ⟨v, left, first, ⟨closed, -⟩ | ⟨left', others, comma, read, -⟩⟩ := readItems_cases h
      · simp only [skipItems, ih.value _ _ _ _ first, Option.bind_some, closed]
      · simp only [skipItems, ih.value _ _ _ _ first, Option.bind_some, comma,
          ih.items _ _ _ _ read]
    case members =>
      obtain ⟨inside, key, left, left', v, left'', front, name, colon, first, last⟩ :=
        readMembers_cases h
      simp only [skipMembers, front, skipString_of_readString name, Option.bind_some, colon,
        ih.value _ _ _ _ first]
      obtain ⟨closed, -⟩ | ⟨_, others, comma, read, -⟩ := last
      · simp only [closed]
      · simp only [comma, ih.members _ _ _ _ read]

end WritePath.Json
