import WritePath.Proofs.Json.Numerals
import WritePath.Proofs.Json.Quoted
import WritePath.Proofs.Json.Regular

/-!
# What is written is read

The compact text of a value is read as that value, if the value is regular, holds no
float and does not nest too deep (`read?_compact`).

This is shown for a text that goes on behind the value, by induction on the fuel, for
the three readers at once.  A reader gets two units of fuel for every character of the
value, which is more than it needs: a list costs one for itself and one for each of its
items, and there are a bracket and a comma for them.
-/

namespace WritePath.Json

open Value (text itemsText membersText nestingItems nestingMembers Regular Floatless Every EveryItem
  EveryMember IsRegular IsNoFloat)

/-! ## What a text begins with -/

theorem skipSpace_cons {c : Char} (token : isSpace c = false) (cs : List Char) :
    skipSpace (c :: cs) = c :: cs := by
  rw [skipSpace, List.dropWhile_cons_of_neg (by simp [token])]

theorem head_of_readNumber {cs rest : List Char} {n : Number} :
    readNumber cs = some (n, rest) → ∃ c more, cs = c :: more ∧ (c.isDigit = true ∨ c = '-') := by
  intro h
  cases cs with
  | nil => cases h
  | cons c more =>
    refine ⟨c, more, rfl, ?_⟩
    by_cases minus : c = '-'
    · exact .inr minus
    · refine .inl ?_
      cases digit : c.isDigit with
      | true => rfl
      | false =>
        have none : readWhole (c :: more) = none := by simp [readWhole, digits, digit]
        rw [readNumber] at h
        · simp [none] at h
        · rintro _ ⟨⟩
          exact minus rfl

/-- The characters that a reader of values looks for, of which none begins a
number. -/
theorem not_mem_of_number {c : Char} (h : c.isDigit = true ∨ c = '-') :
    c ∉ [' ', '\t', '\n', '\r', ']', 'n', 't', 'f', '"', '[', '\x7b'] := by
  intro hc
  have none : [' ', '\t', '\n', '\r', ']', 'n', 't', 'f', '"', '[', '\x7b'].all
      (fun c => !(c.isDigit || c == '-')) = true := by decide
  have other := List.all_eq_true.mp none c hc
  rcases h with digit | minus
  · simp [digit] at other
  · simp [minus] at other

/-- A character that a value may begin with. -/
def Opens (c : Char) : Prop :=
  isSpace c = false ∧ c ≠ ']'

theorem opens_of_number {c : Char} (h : c.isDigit = true ∨ c = '-') : Opens c := by
  have other := not_mem_of_number h
  simp only [List.mem_cons, not_or] at other
  obtain ⟨space, tab, feed, ret, bracket, -⟩ := other
  exact ⟨by simp [isSpace, space, tab, feed, ret], bracket⟩

theorem head_of_number {cs rest : List Char} {n : Number}
    (h : readNumber (cs ++ []) = some (n, rest)) : ∃ c more, cs = c :: more ∧ Opens c := by
  obtain ⟨c, more, heq, front⟩ := head_of_readNumber h
  exact ⟨c, more, (List.append_nil cs).symm.trans heq, opens_of_number front⟩

theorem text_head (v : Value) : ∃ c cs, v.text = c :: cs ∧ Opens c := by
  cases v with
  | null => exact ⟨_, _, rfl, by decide, by decide⟩
  | bool b => cases b <;> exact ⟨_, _, rfl, by decide, by decide⟩
  | int i => exact head_of_number (readNumber_int i follows_nil)
  | float x =>
    obtain ⟨n, read⟩ := readNumber_float x follows_nil
    exact head_of_number read
  | string s => exact ⟨_, _, rfl, by decide, by decide⟩
  | array items => exact ⟨_, _, by rw [text], by decide, by decide⟩
  | object members => exact ⟨_, _, by rw [text], by decide, by decide⟩

theorem itemsText_head (v : Value) (items : List Value) :
    ∃ c cs, itemsText (v :: items) = c :: cs ∧ Opens c := by
  obtain ⟨c, cs, heq, front⟩ := text_head v
  cases items with
  | nil => exact ⟨c, cs, heq, front⟩
  | cons w items => exact ⟨c, _, by rw [itemsText, heq, List.cons_append], front⟩

theorem membersText_head (m : String × Value) (members : List (String × Value)) :
    ∃ cs, membersText (m :: members) = '"' :: cs := by
  cases members with
  | nil => exact ⟨_, rfl⟩
  | cons _ _ => exact ⟨_, rfl⟩

/-- What stands behind the value of a member, with these members still to come. -/
def membersTail (rest : List Char) : List (String × Value) → List Char
  | [] => '\x7d' :: rest
  | m :: members => ',' :: (membersText (m :: members) ++ '\x7d' :: rest)

theorem follows_membersTail (members : List (String × Value)) (rest : List Char) :
    Follows (membersTail rest members) := by
  cases members with
  | nil => exact follows_brace rest
  | cons => exact follows_comma _

theorem membersText_cons (k : String) (v : Value) (members : List (String × Value))
    (rest : List Char) :
    membersText ((k, v) :: members) ++ '\x7d' :: rest
      = stringText k ++ ':' :: (v.text ++ membersTail rest members) := by
  cases members <;> simp [membersText, membersTail]

theorem length_membersText (k : String) (v : Value) (members : List (String × Value)) :
    v.text.length + (membersText members).length < (membersText ((k, v) :: members)).length := by
  cases members with
  | nil =>
    rw [membersText, membersText, List.length_append, List.length_cons, List.length_nil]
    omega
  | cons m members =>
    rw [membersText, List.length_append, List.length_cons, List.length_append, List.length_cons]
    omega

theorem length_text_pos (v : Value) : 0 < v.text.length := by
  obtain ⟨c, cs, heq, -⟩ := text_head v
  rw [heq]
  exact Nat.succ_pos _

/-! ## Reading -/

section

variable {gather : List (String × Value) → List (String × Value)} {fuel room : Nat}
  {rest : List Char}

theorem readValue_number {cs : List Char} {n : Number} (read : readNumber cs = some (n, rest)) :
    readValue gather (fuel + 1) room cs = n.value.map (·, rest) := by
  obtain ⟨c, more, rfl, front⟩ := head_of_readNumber read
  have other := not_mem_of_number front
  simp only [List.mem_cons, not_or] at other
  rw [readValue, skipSpace_cons (opens_of_number front).1]
  split
  case h_7 => rw [read]; rfl
  all_goals
    next heq =>
    cases heq
    simp at other

theorem readValue_string (s : String) :
    readValue gather (fuel + 1) room (stringText s ++ rest) = some (.string s, rest) := by
  obtain ⟨inside, heq, read⟩ := readString_stringText s rest
  rw [heq, readValue, skipSpace_cons (by decide)]
  simp only [read, Option.map_some, String.ofList_toList]

theorem readValue_items {v : Value} {items : List Value}
    (read : readItems gather fuel room (itemsText (v :: items) ++ ']' :: rest)
      = some (v :: items, rest)) :
    readValue gather (fuel + 1) (room + 1) ((Value.array (v :: items)).text ++ rest)
      = some (.array (v :: items), rest) := by
  obtain ⟨c, cs, heq, space, bracket⟩ := itemsText_head v items
  rw [heq] at read
  rw [text, heq, List.cons_append, List.append_assoc, readValue, skipSpace_cons (by decide)]
  simp only [List.cons_append, List.nil_append] at read ⊢
  rw [skipSpace_cons space]
  split
  · next closed => exact absurd (List.cons.inj closed).1 bracket
  · rw [read]
    rfl

theorem readValue_members {m : String × Value} {members : List (String × Value)}
    (read : readMembers gather fuel room (membersText (m :: members) ++ '\x7d' :: rest)
      = some (m :: members, rest)) :
    readValue gather (fuel + 1) (room + 1) ((Value.object (m :: members)).text ++ rest)
      = some (.object (gather (m :: members)), rest) := by
  obtain ⟨cs, heq⟩ := membersText_head m members
  rw [heq] at read
  rw [text, heq, List.cons_append, List.append_assoc, readValue, skipSpace_cons (by decide)]
  simp only [List.cons_append, List.nil_append] at read ⊢
  rw [skipSpace_cons (by decide)]
  split
  · next closed => cases closed
  · rw [read]
    rfl

end

/-- With this fuel a reader reads what is written for values that are not too long for
it. -/
structure ReadsBack (fuel : Nat) : Prop where
  value : ∀ (v : Value) (room : Nat) (rest : List Char), v.Regular → v.Floatless →
    v.nesting ≤ room → 2 * v.text.length ≤ fuel → Follows rest →
      readValue Keyed.ofList fuel room (v.text ++ rest) = some (v, rest)
  items : ∀ (v : Value) (items : List Value) (room : Nat) (rest : List Char),
    EveryItem IsRegular (v :: items) → EveryItem IsNoFloat (v :: items) →
    nestingItems (v :: items) ≤ room → 2 * (itemsText (v :: items)).length + 1 ≤ fuel →
      readItems Keyed.ofList fuel room (itemsText (v :: items) ++ ']' :: rest)
        = some (v :: items, rest)
  members : ∀ (m : String × Value) (members : List (String × Value)) (room : Nat)
      (rest : List Char),
    EveryMember IsRegular (m :: members) → EveryMember IsNoFloat (m :: members) →
    nestingMembers (m :: members) ≤ room → 2 * (membersText (m :: members)).length + 1 ≤ fuel →
      readMembers Keyed.ofList fuel room (membersText (m :: members) ++ '\x7d' :: rest)
        = some (m :: members, rest)

namespace ReadsBack

variable {fuel : Nat} (reads : ReadsBack fuel) (room : Nat) (rest : List Char)
include reads

theorem value_succ (v : Value) (regular : v.Regular) (floatless : v.Floatless)
    (within : v.nesting ≤ room) (enough : 2 * v.text.length ≤ fuel + 1) (follows : Follows rest) :
    readValue Keyed.ofList (fuel + 1) room (v.text ++ rest) = some (v, rest) := by
  cases v with
  | null => rfl
  | bool b => cases b <;> rfl
  | int i =>
    rw [text, readValue_number (readNumber_int i follows), value_ofInt regular]
    rfl
  | float x => exact absurd floatless id
  | string s => exact readValue_string s
  | array items =>
    rw [Value.nesting] at within
    obtain ⟨room, rfl⟩ : ∃ r, room = r + 1 := ⟨room - 1, by omega⟩
    cases items with
    | nil => rfl
    | cons v items =>
      rw [text, List.length_cons, List.length_append] at enough
      exact readValue_items
        (reads.items v items room rest regular.2 floatless.2 (by omega) (by omega))
  | object members =>
    rw [Value.nesting] at within
    obtain ⟨room, rfl⟩ : ∃ r, room = r + 1 := ⟨room - 1, by omega⟩
    cases members with
    | nil => rfl
    | cons m members =>
      rw [text, List.length_cons, List.length_append] at enough
      have read := reads.members m members room rest regular.2 floatless.2 (by omega) (by omega)
      rw [readValue_members read, Keyed.ofList_of_sorted regular.1]

theorem items_succ (v : Value) (items : List Value) (regular : EveryItem IsRegular (v :: items))
    (floatless : EveryItem IsNoFloat (v :: items)) (within : nestingItems (v :: items) ≤ room)
    (enough : 2 * (itemsText (v :: items)).length + 1 ≤ fuel + 1) :
    readItems Keyed.ofList (fuel + 1) room (itemsText (v :: items) ++ ']' :: rest)
      = some (v :: items, rest) := by
  rw [nestingItems, Nat.max_le] at within
  have first (more : List Char) := reads.value v room more regular.1 floatless.1 within.1
  cases items with
  | nil =>
    rw [itemsText] at enough ⊢
    rw [readItems, first _ (by omega) (follows_bracket rest)]
    rfl
  | cons w items =>
    rw [itemsText, List.length_append, List.length_cons] at enough
    rw [itemsText, List.append_assoc, List.cons_append, readItems,
      first _ (by omega) (follows_comma _)]
    have others := reads.items w items room rest regular.2 floatless.2 within.2 (by omega)
    simp only [Option.bind_some, skipSpace_cons (by decide : isSpace ',' = false), others]
    rfl

theorem members_succ (m : String × Value) (members : List (String × Value))
    (regular : EveryMember IsRegular (m :: members))
    (floatless : EveryMember IsNoFloat (m :: members))
    (within : nestingMembers (m :: members) ≤ room)
    (enough : 2 * (membersText (m :: members)).length + 1 ≤ fuel + 1) :
    readMembers Keyed.ofList (fuel + 1) room (membersText (m :: members) ++ '\x7d' :: rest)
      = some (m :: members, rest) := by
  obtain ⟨k, v⟩ := m
  rw [nestingMembers, Nat.max_le] at within
  have shorter := length_membersText k v members
  have first := reads.value v room _ regular.1 floatless.1 within.1 (by omega)
    (follows_membersTail members rest)
  obtain ⟨inside, heq, name⟩ :=
    readString_stringText k (':' :: (v.text ++ membersTail rest members))
  rw [membersText_cons, heq, readMembers, skipSpace_cons (by decide)]
  simp only [name, Option.bind_some, skipSpace_cons (by decide : isSpace ':' = false), first,
    String.ofList_toList]
  cases members with
  | nil => rfl
  | cons m members =>
    have others := reads.members m members room rest regular.2 floatless.2 within.2 (by omega)
    rw [membersTail, skipSpace_cons (by decide)]
    simp only [others, Option.map_some]

end ReadsBack

theorem readsBack (fuel : Nat) : ReadsBack fuel := by
  induction fuel with
  | zero =>
    refine ⟨fun v room rest _ _ _ enough _ => ?_, by omega, by omega⟩
    have := length_text_pos v
    omega
  | succ fuel ih =>
    exact ⟨fun v room rest => ih.value_succ room rest v,
      fun v items room rest => ih.items_succ room rest v items,
      fun m members room rest => ih.members_succ room rest m members⟩

/-- What is written is read. -/
theorem read?_compact {v : Value} (regular : v.Regular) (floatless : v.Floatless)
    (within : v.nesting ≤ nestingLimit) : Value.read? v.compact = some v := by
  have read := (readsBack (fuelFor v.text)).value v nestingLimit [] regular floatless within
    (Nat.le_add_right _ _) follows_nil
  rw [List.append_nil] at read
  rw [Value.read?, Value.compact, String.toList_ofList, read]
  rfl

end WritePath.Json
