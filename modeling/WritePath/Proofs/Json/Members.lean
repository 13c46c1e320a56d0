import WritePath.Proofs.Json.Passing

/-!
# The outermost level of an object

`Outline.read?` picks out the members that are known.  What it finds are, in their order,
the known ones among the names that stand in the text (`memberNames?`), and for an object
as it is written they are its known members (`Outline.read?_compact`).  The other members
may hold anything, also what nests too deep to be read.
-/

namespace WritePath.Json

open Value (membersText nestingMembers Regular Floatless)

variable {known : String → Bool} {fuel : Nat} {cs rest : List Char}

/-! ## The names in a text -/

/-- Reads the names of the members of an object that is not empty and passes over their
values, up to and including the closing brace. -/
def readNames : Nat → List Char → Option (List String × List Char)
  | 0, _ => none
  | fuel + 1, cs =>
    match skipSpace cs with
    | '"' :: rest =>
      (readString rest).bind fun (key, rest) =>
        match skipSpace rest with
        | ':' :: rest =>
          (skip fuel rest).bind fun rest =>
            match skipSpace rest with
            | '\x7d' :: rest => some ([String.ofList key], rest)
            | ',' :: rest => (readNames fuel rest).map (fun r => (String.ofList key :: r.1, r.2))
            | _ => none
        | _ => none
    | _ => none

/-- The names of the members of an object, in the order of its text. -/
def memberNames? (s : String) : Option (List String) :=
  match skipSpace s.toList with
  | '\x7b' :: rest =>
    match skipSpace rest with
    | '\x7d' :: rest => whole (some ([], rest))
    | rest => whole (readNames (fuelFor s.toList) rest)
  | _ => none

/-- What has been done with the value of a member if this many fields came of it. -/
def Picked (known : String → Bool) (fuel : Nat) (key : String) (cs : List Char)
    (field : List (String × Value)) (rest : List Char) : Prop :=
  (known key = true
      ∧ ∃ v, readValue Keyed.ofList fuel (nestingLimit - 1) cs = some (v, rest) ∧ field = [(key, v)])
    ∨ known key = false ∧ skip fuel cs = some rest ∧ field = []

section

variable {inside left left' left'' key : List Char} {field : List (String × Value)}
  (front : skipSpace cs = '"' :: inside) (name : readString inside = some (key, left))
  (colon : skipSpace left = ':' :: left')
  (picked : Picked known fuel (String.ofList key) left' field left'')
include front name colon picked

theorem readKnown_last (closed : skipSpace left'' = '\x7d' :: rest) :
    readKnown known (fuel + 1) cs = some (field, rest) := by
  obtain ⟨wanted, v, read, rfl⟩ | ⟨other, passed, rfl⟩ := picked
  · simp only [readKnown, front, name, colon, wanted, if_true, read, Option.bind_some,
      Option.map_some, closed]
  · simp only [readKnown, front, name, colon, other, Bool.false_eq_true, if_false, passed,
      Option.bind_some, Option.map_some, closed]

theorem readKnown_more {more : List Char} (comma : skipSpace left'' = ',' :: more) :
    readKnown known (fuel + 1) cs
      = (readKnown known fuel more).map (fun r => (field ++ r.1, r.2)) := by
  obtain ⟨wanted, v, read, rfl⟩ | ⟨other, passed, rfl⟩ := picked
  · simp only [readKnown, front, name, colon, wanted, if_true, read, Option.bind_some,
      Option.map_some, comma]
  · simp only [readKnown, front, name, colon, other, Bool.false_eq_true, if_false, passed,
      Option.bind_some, Option.map_some, comma]

end

theorem readKnown_cases {fields : List (String × Value)} :
    readKnown known (fuel + 1) cs = some (fields, rest) →
      ∃ inside key left left' field left'', skipSpace cs = '"' :: inside
        ∧ readString inside = some (key, left) ∧ skipSpace left = ':' :: left'
        ∧ Picked known fuel (String.ofList key) left' field left''
        ∧ (skipSpace left'' = '\x7d' :: rest ∧ fields = field
          ∨ ∃ last others, skipSpace left'' = ',' :: last
            ∧ readKnown known fuel last = some (others, rest) ∧ fields = field ++ others) := by
  intro h
  simp only [readKnown] at h
  split at h
  · next front =>
    obtain ⟨⟨key, left⟩, name, h⟩ := Option.bind_eq_some_iff.mp h
    dsimp only at h
    split at h
    · next colon =>
      obtain ⟨⟨field, left''⟩, first, h⟩ := Option.bind_eq_some_iff.mp h
      refine ⟨_, key, left, _, field, left'', front, name, colon, ?picked, ?_⟩
      case picked =>
        split at first
        · next wanted =>
          obtain ⟨⟨v, _⟩, read, heq⟩ := Option.map_eq_some_iff.mp first
          cases heq
          exact .inl ⟨wanted, v, read, rfl⟩
        · next other =>
          obtain ⟨_, passed, heq⟩ := Option.map_eq_some_iff.mp first
          cases heq
          exact .inr ⟨Bool.not_eq_true _ ▸ other, passed, rfl⟩
      split at h
      · next closed =>
        cases h
        exact .inl ⟨closed, rfl⟩
      · next comma =>
        obtain ⟨r, others, read⟩ := Option.map_eq_some_iff.mp h
        cases read
        exact .inr ⟨_, r.1, comma, others, rfl⟩
      · cases h
    · cases h
  · cases h

theorem Picked.names {key : String} {field : List (String × Value)} :
    Picked known fuel key cs field rest →
      skip fuel cs = some rest ∧ field.map Prod.fst = [key].filter known := by
  rintro (⟨wanted, v, read, rfl⟩ | ⟨other, passed, rfl⟩)
  · exact ⟨(passesRead _ _).value _ _ _ _ read, by simp [wanted]⟩
  · exact ⟨passed, by simp [other]⟩

theorem names_of_readKnown {fields : List (String × Value)} :
    readKnown known fuel cs = some (fields, rest) →
      ∃ names, readNames fuel cs = some (names, rest)
        ∧ fields.map Prod.fst = names.filter known := by
  intro h
  induction fuel generalizing cs fields with
  | zero => cases h
  | succ fuel ih =>
    obtain ⟨inside, key, left, left', field, left'', front, name, colon, picked, last⟩ :=
      readKnown_cases h
    obtain ⟨passed, wanted⟩ := picked.names
    simp only [readNames, front, name, colon, passed, Option.bind_some]
    obtain ⟨closed, rfl⟩ | ⟨more, others, comma, read, rfl⟩ := last
    · exact ⟨_, by simp only [closed], wanted⟩
    · obtain ⟨names, found, same⟩ := ih read
      refine ⟨String.ofList key :: names, by simp only [comma, found, Option.map_some], ?_⟩
      rw [List.map_append, wanted, same, ← List.filter_append, List.singleton_append]

theorem memberNames?_of_read? {s : String} {outline : Outline} :
    Outline.read? known s = some outline → match outline with
      | .fields fields => ∃ names, memberNames? s = some names
          ∧ fields.map Prod.fst = names.filter known
      | .value _ => memberNames? s = none := by
  intro h
  simp only [Outline.read?] at h
  split at h
  · next front =>
    split at h
    · next closed =>
      obtain ⟨rest, heq, blank⟩ := whole_eq_some.mp h
      cases heq
      exact ⟨[], by simp only [memberNames?, front, closed, whole, blank, if_true], rfl⟩
    · next opened =>
      obtain ⟨rest, heq, blank⟩ := whole_eq_some.mp h
      obtain ⟨⟨fields, _⟩, read, heq⟩ := Option.map_eq_some_iff.mp heq
      cases heq
      obtain ⟨names, found, same⟩ := names_of_readKnown read
      exact ⟨names, by simp only [memberNames?, front, found, whole, blank, if_true], same⟩
  · next other =>
    obtain ⟨rest, heq, -⟩ := whole_eq_some.mp h
    obtain ⟨r, -, heq⟩ := Option.map_eq_some_iff.mp heq
    cases heq
    simp only [memberNames?]

/-! ## An object as it is written -/

/-- Values that can be read back, one level down. -/
def Readable (v : Value) : Prop :=
  v.Regular ∧ v.Floatless ∧ v.nesting ≤ nestingLimit - 1

theorem picked_text {k : String} {v : Value} (readable : known k = true → Readable v)
    (enough : 2 * v.text.length ≤ fuel) (follows : Follows rest) :
    Picked known fuel k (v.text ++ rest) ([(k, v)].filter (known ·.1)) rest := by
  cases wanted : known k with
  | true =>
    obtain ⟨regular, floatless, within⟩ := readable wanted
    have read := (readsBack fuel).value v _ rest regular floatless within enough follows
    exact .inl ⟨wanted, v, read, by simp [wanted]⟩
  | false => exact .inr ⟨wanted, (passes fuel).value v rest enough follows, by simp [wanted]⟩

theorem readKnown_membersText {m : String × Value} {members : List (String × Value)}
    (readable : ∀ f ∈ m :: members, known f.1 = true → Readable f.2)
    (enough : 2 * (membersText (m :: members)).length + 1 ≤ fuel) (rest : List Char) :
    readKnown known fuel (membersText (m :: members) ++ '\x7d' :: rest)
      = some ((m :: members).filter (known ·.1), rest) := by
  induction fuel generalizing m members with
  | zero => omega
  | succ fuel ih =>
    obtain ⟨k, v⟩ := m
    obtain ⟨first, others⟩ := List.forall_mem_cons.mp readable
    have shorter := length_membersText k v members
    obtain ⟨inside, heq, name⟩ :=
      readString_stringText k (':' :: (v.text ++ membersTail rest members))
    have picked := picked_text first (by omega : 2 * v.text.length ≤ fuel)
      (follows_membersTail members rest)
    rw [← String.ofList_toList (s := k)] at picked
    rw [membersText_cons, heq]
    have front := skipSpace_cons (by decide : isSpace '"' = false) inside
    have colon := skipSpace_cons (by decide : isSpace ':' = false)
      (v.text ++ membersTail rest members)
    cases members with
    | nil =>
      rw [readKnown_last front name colon picked (skipSpace_cons (by decide) _),
        String.ofList_toList]
    | cons m members =>
      rw [readKnown_more front name colon picked (skipSpace_cons (by decide) _),
        ih others (by omega), Option.map_some, String.ofList_toList, ← List.filter_append,
        List.singleton_append]

theorem readNames_membersText {m : String × Value} {members : List (String × Value)}
    (enough : 2 * (membersText (m :: members)).length + 1 ≤ fuel) (rest : List Char) :
    readNames fuel (membersText (m :: members) ++ '\x7d' :: rest)
      = some ((m :: members).map Prod.fst, rest) := by
  induction fuel generalizing m members with
  | zero => omega
  | succ fuel ih =>
    obtain ⟨k, v⟩ := m
    have shorter := length_membersText k v members
    obtain ⟨inside, heq, name⟩ :=
      readString_stringText k (':' :: (v.text ++ membersTail rest members))
    rw [membersText_cons, heq, readNames, skipSpace_cons (by decide)]
    simp only [name, Option.bind_some, skipSpace_cons (by decide : isSpace ':' = false),
      (passes fuel).value v _ (by omega) (follows_membersTail members rest)]
    cases members with
    | nil => simp only [membersTail, skipSpace_cons (by decide : isSpace '\x7d' = false),
        String.ofList_toList, List.map_cons, List.map_nil]
    | cons m members =>
      have later : readNames fuel (membersText (m :: members) ++ '\x7d' :: rest)
          = some ((m :: members).map Prod.fst, rest) := ih (by omega)
      rw [membersTail, skipSpace_cons (by decide)]
      simp only [later, Option.map_some, String.ofList_toList, List.map_cons]

theorem toList_compact_object (members : List (String × Value)) :
    (Value.object members).compact.toList = '\x7b' :: (membersText members ++ ['\x7d']) := by
  rw [Value.compact, String.toList_ofList, Value.text]

theorem enough_fuel (members : List (String × Value)) :
    2 * (membersText members).length + 1
      ≤ fuelFor ('\x7b' :: (membersText members ++ ['\x7d'])) := by
  rw [fuelFor, List.length_cons, List.length_append]
  omega

/-- Of an object as it is written the known members are found, if they can be read
back. -/
theorem Outline.read?_compact {members : List (String × Value)}
    (readable : ∀ f ∈ members, known f.1 = true → Readable f.2) :
    Outline.read? known (Value.object members).compact
      = some (.fields (members.filter (known ·.1))) := by
  simp only [Outline.read?, toList_compact_object,
    skipSpace_cons (by decide : isSpace '\x7b' = false)]
  cases members with
  | nil => rfl
  | cons m members =>
    have read := readKnown_membersText readable (enough_fuel (m :: members)) []
    obtain ⟨cs, heq⟩ := membersText_head m members
    rw [heq] at read ⊢
    simp only [List.cons_append, skipSpace_cons (by decide : isSpace '"' = false)] at read ⊢
    split
    · next closed => cases closed
    · rw [read]
      rfl

theorem Outline.read?_compact_array {items : List Value} (regular : (Value.array items).Regular)
    (floatless : (Value.array items).Floatless)
    (within : (Value.array items).nesting ≤ nestingLimit) :
    Outline.read? known (Value.array items).compact = some (.value (.array items)) := by
  have text : (Value.array items).compact.toList = '[' :: (Value.itemsText items ++ [']']) := by
    rw [Value.compact, String.toList_ofList, Value.text]
  have read := (readsBack (fuelFor (Value.array items).text)).value _ nestingLimit [] regular
    floatless within (Nat.le_add_right _ _) follows_nil
  rw [List.append_nil, Value.text] at read
  simp only [Outline.read?, text, skipSpace_cons (by decide : isSpace '[' = false)]
  split
  · next opened => cases opened
  · rw [read]
    rfl

theorem memberNames?_compact (members : List (String × Value)) :
    memberNames? (Value.object members).compact = some (members.map Prod.fst) := by
  simp only [memberNames?, toList_compact_object,
    skipSpace_cons (by decide : isSpace '\x7b' = false)]
  cases members with
  | nil => rfl
  | cons m members =>
    have read := readNames_membersText (enough_fuel (m :: members)) []
    obtain ⟨cs, heq⟩ := membersText_head m members
    rw [heq] at read ⊢
    simp only [List.cons_append, skipSpace_cons (by decide : isSpace '"' = false)] at read ⊢
    split
    · next closed => cases closed
    · rw [read]
      rfl

end WritePath.Json
