import WritePath.Proofs.Json.Numerals
import WritePath.Proofs.Toml.Quoted
import WritePath.Toml.Reader

/-!
# Documents of plain lines

The simplest kind of a document has one `key = value` on every line, with keys that need
no quotes, and with texts and whole numbers (`Lines`).  Such a document defines what
stands in it (`read?_lines`), if no key stands twice.

This is shown from the inside out: a number ends where its line ends, a statement where
its value ends, and the statements of the lines are read one after the other.
-/

namespace WritePath.Toml

/-! ## Lines -/

/-- A key that needs no quotes. -/
structure BareKey (key : String) : Prop where
  some : key ≠ ""
  all : ∀ c ∈ key.toList, c.isAlphanum = true ∨ c = '_' ∨ c = '-'

theorem isBare_iff {c : Char} : isBare c = true ↔ c.isAlphanum = true ∨ c = '_' ∨ c = '-' := by
  simp [isBare, or_assoc]

instance (key : String) : Decidable (BareKey key) :=
  decidable_of_iff (key ≠ "" ∧ key.toList.all isBare = true)
    ⟨fun h => ⟨h.1, fun c hc => isBare_iff.mp (List.all_eq_true.mp h.2 c hc)⟩,
      fun h => ⟨h.some, List.all_eq_true.mpr fun c hc => isBare_iff.mpr (h.all c hc)⟩⟩

/-- The ways to write a value: a text between double quotes, a whole number with its
digits. -/
inductive Literal : Value → List Char → Prop where
  | text {s : String} {cs : List Char} : Inside s.toList cs →
      Literal (.text s) ('"' :: (cs ++ ['"']))
  | integer (i : Int) : Literal (.integer i) (Json.intText i)

/-- The ways to write entries, each on a line of its own.  The last line may be ended or
not. -/
inductive Lines : List (String × Value) → List Char → Prop where
  | nil : Lines [] []
  | last {key : String} {v : Value} {cs : List Char} : Literal v cs →
      Lines [(key, v)] (key.toList ++ ' ' :: '=' :: ' ' :: cs)
  | cons {key : String} {v : Value} {cs : List Char} {entries : List (String × Value)}
      {others : List Char} : Literal v cs → Lines entries others →
        Lines ((key, v) :: entries) (key.toList ++ ' ' :: '=' :: ' ' :: (cs ++ '\n' :: others))

theorem exists_lines {entries : List (String × Value)}
    (literal : ∀ entry ∈ entries, ∃ cs, Literal entry.2 cs) : ∃ cs, Lines entries cs := by
  induction entries with
  | nil => exact ⟨[], .nil⟩
  | cons entry entries ih =>
    obtain ⟨⟨cs, first⟩, others⟩ := List.forall_mem_cons.mp literal
    obtain ⟨rest, lines⟩ := ih others
    exact ⟨_, .cons first lines⟩

/-- A whole number that can be read: one of 128 bits, with a sign or without. -/
def Value.Sized : Value → Prop
  | .integer i =>
    -170141183460469231731687303715884105728 ≤ i ∧ i < 340282366920938463463374607431768211456
  | _ => True

/-- The rest of a text after a value: nothing, or the end of the line. -/
def Ends (rest : List Char) : Prop :=
  ∀ c ∈ rest.head?, c = '\n'

/-! ## Whole numbers -/

theorem fits_of_sized {i : Int} (sized : (Value.integer i).Sized) : fits i = true := by
  have words : wordCount = 340282366920938463463374607431768211456 := by decide
  obtain ⟨least, greatest⟩ := sized
  unfold fits
  rw [words]
  split
  · simp only [decide_eq_true_eq]; omega
  · simp only [decide_eq_true_eq]; omega

theorem spread_digits {ds : List Char} (all : ∀ c ∈ ds, c.isDigit = true) :
    spread Char.isDigit false ds = some ds := by
  induction ds with
  | nil => rfl
  | cons c ds ih =>
    obtain ⟨first, others⟩ := List.forall_mem_cons.mp all
    rw [spread, if_pos first, ih others, Option.map_some]

theorem wholeDigits?_of_whole {ds : List Char} (whole : Json.Whole ds) :
    wholeDigits? ds = some ds := by
  obtain ⟨c, more, rfl⟩ := List.exists_cons_of_ne_nil whole.some
  obtain ⟨first, others⟩ := List.forall_mem_cons.mp whole.all
  unfold wholeDigits?
  split
  · next heq =>
    cases heq
    cases whole.zero _ rfl
  · rw [spread, if_pos first, spread_digits others, Option.map_some]

theorem positional_toDigits (n : Nat) : positional 10 (Nat.toDigits 10 n) = n := by
  have value : ∀ c : Char, c.isDigit = true → (Json.hexDigit? c).getD 0 = c.toNat - '0'.toNat := by
    intro c digit
    have range : '0' ≤ c ∧ c ≤ '9' := by simpa [Char.isDigit, Char.le_def] using digit
    simp [Json.hexDigit?, range]
  have same : ∀ (ds : List Char) (m : Nat), (∀ c ∈ ds, c.isDigit = true) →
      ds.foldl (fun n c => n * 10 + (Json.hexDigit? c).getD 0) m = Nat.ofDigitChars 10 ds m := by
    intro ds
    induction ds with
    | nil => exact fun _ _ => rfl
    | cons c ds ih =>
      intro m all
      obtain ⟨first, others⟩ := List.forall_mem_cons.mp all
      rw [List.foldl_cons, ih _ others, Nat.ofDigitChars_cons, value c first, Nat.mul_comm]
  rw [positional, same _ 0 (Json.areDigits_toDigits n).all, Nat.ofDigitChars_toDigits (by decide)
    (by decide)]

theorem integer?_toDigits (n : Nat) : integer? (Nat.toDigits 10 n) = some (n : Int) := by
  have whole := Json.whole_toDigits n
  have number := positional_toDigits n
  generalize Nat.toDigits 10 n = ds at whole number
  -- a letter after the zero would be the sign of another base
  have digit : ∀ c ∈ ds, c.isDigit = true := whole.all
  unfold integer?
  split
  · exact absurd (digit 'x' (by simp)) (by decide)
  · exact absurd (digit 'o' (by simp)) (by decide)
  · exact absurd (digit 'b' (by simp)) (by decide)
  · have unsigned : signed ds = (false, ds) := by
      unfold signed
      split
      · exact absurd (digit '-' (by simp)) (by decide)
      · exact absurd (digit '+' (by simp)) (by decide)
      · rfl
    simp only [unsigned, wholeDigits?_of_whole whole, Option.map_some, number]
    rfl

/-- A whole number is read from its digits. -/
theorem integer?_intText (i : Int) : integer? (Json.intText i) = some i := by
  cases i with
  | ofNat n => exact integer?_toDigits n
  | negSucc n =>
    rw [Json.intText, integer?]
    · simp only [signed, wholeDigits?_of_whole (Json.whole_toDigits (n + 1)), Option.map_some,
        positional_toDigits, if_true]
      rfl
    all_goals
      intro rest minus
      cases minus

theorem mem_intText {i : Int} {c : Char} (h : c ∈ Json.intText i) : c.isDigit = true ∨ c = '-' := by
  cases i with
  | ofNat n => exact .inl ((Json.areDigits_toDigits n).all c h)
  | negSucc n =>
    obtain rfl | h := List.mem_cons.mp h
    · exact .inr rfl
    · exact .inl ((Json.areDigits_toDigits (n + 1)).all c h)

theorem isRun_of_mem_intText {i : Int} {c : Char} (h : c ∈ Json.intText i) : isRun c = true := by
  have other : c ∉ [' ', '\t', '\n', '\r', ',', ']', '\x7d', '#', '=', '[', '\x7b', '"', '\''] := by
    intro hc
    have none : [' ', '\t', '\n', '\r', ',', ']', '\x7d', '#', '=', '[', '\x7b', '"', '\''].all
        (fun c => !(c.isDigit || c == '-')) = true := by decide
    have other := List.all_eq_true.mp none c hc
    rcases mem_intText h with digit | minus
    · simp [digit] at other
    · simp [minus] at other
  simp only [List.mem_cons, not_or] at other
  simp [isRun, other]

theorem intText_ne_nil (i : Int) : Json.intText i ≠ [] := by
  cases i with
  | ofNat n => exact (Json.areDigits_toDigits n).some
  | negSucc n => exact List.cons_ne_nil _ _

/-! ## Values -/

section

variable {v : Value} {cs rest : List Char}

theorem takeWhile_ends {p : Char → Bool} (all : ∀ c ∈ cs, p c = true) (ends : Ends rest)
    (stop : p '\n' = false) : (cs ++ rest).takeWhile p = cs ∧ (cs ++ rest).dropWhile p = rest := by
  rw [List.takeWhile_append_of_pos all, List.dropWhile_append_of_pos all]
  cases rest with
  | nil => exact ⟨List.append_nil cs, rfl⟩
  | cons c rest =>
    cases ends c rfl
    simp [stop]

theorem readScalar_intText {i : Int} (sized : (Value.integer i).Sized) (ends : Ends rest) :
    readScalar (Json.intText i ++ rest) = some (.integer i, rest) := by
  obtain ⟨taken, dropped⟩ :=
    takeWhile_ends (fun c => isRun_of_mem_intText (i := i) (c := c)) ends (by decide)
  have cut : run (Json.intText i ++ rest) = (Json.intText i, rest) := by
    unfold run
    rw [taken, dropped]
    split
    · cases ends ' ' rfl
    · rfl
  have number := integer?_intText i
  -- the two words are no numbers
  have word : ¬ (Json.intText i = "true".toList ∨ Json.intText i = "false".toList) := by
    rintro (word | word) <;> rw [word] at number <;> cases number
  rw [readScalar, cut, scalar?, if_neg (by simpa using word)]
  simp only [number, fits_of_sized sized, if_true, Option.map_some]

/-- A value is read from each way to write it. -/
theorem readValue_literal (literal : Literal v cs) (sized : v.Sized) (ends : Ends rest)
    (fuel room : Nat) : readValue (fuel + 1) room (cs ++ rest) = some (v, rest) := by
  cases literal with
  | @text s cs inside =>
    have last : ∀ c ∈ rest.head?, c ≠ '"' := by
      intro c hc
      rw [ends c hc]
      decide
    have read := readText_inside inside last
    rw [List.cons_append, List.append_assoc]
    simp only [List.singleton_append, readValue, read, Option.map_some]
  | integer i =>
    have read := readScalar_intText sized ends
    have all := fun c => isRun_of_mem_intText (i := i) (c := c)
    obtain ⟨c, more, heq⟩ := List.exists_cons_of_ne_nil (intText_ne_nil i)
    rw [heq] at read all ⊢
    have front := all c List.mem_cons_self
    rw [readValue]
    · exact read
    all_goals
      intro _ begins
      cases begins
      cases front

/-! ## Statements -/

theorem skipGap_cons {c : Char} (gap : isGap c = false) (cs : List Char) :
    skipGap (c :: cs) = c :: cs := by
  rw [skipGap, List.dropWhile_cons_of_neg (by simp [gap])]

theorem BareKey.toList_ne_nil {key : String} (bare : BareKey key) : key.toList ≠ [] :=
  fun none => bare.some (String.toList_eq_nil_iff.mp none)

theorem isBare_of_bareKey {key : String} (bare : BareKey key) :
    ∀ c ∈ key.toList, isBare c = true := by
  intro c hc
  exact isBare_iff.mpr (bare.all c hc)

theorem not_mem_of_isBare {c : Char} (h : isBare c = true) :
    c ∉ [' ', '\t', '\n', '\r', '#', '"', '\'', '[', '\uFEFF'] := by
  intro hc
  have none : [' ', '\t', '\n', '\r', '#', '"', '\'', '[', '\uFEFF'].all (fun c => !isBare c)
      = true := by decide
  have other := List.all_eq_true.mp none c hc
  simp [h] at other

theorem readPart_bare {k : List Char} (all : ∀ c ∈ k, isBare c = true) (some : k ≠ [])
    (rest : List Char) :
    readPart (k ++ ' ' :: rest) = Option.some (String.ofList k, ' ' :: rest) := by
  have taken : (k ++ ' ' :: rest).takeWhile isBare = k := by
    rw [List.takeWhile_append_of_pos all]
    exact List.append_nil _
  have dropped : (k ++ ' ' :: rest).dropWhile isBare = ' ' :: rest := by
    rw [List.dropWhile_append_of_pos all]
    rfl
  obtain ⟨c, more, rfl⟩ := List.exists_cons_of_ne_nil some
  have other := not_mem_of_isBare (all c List.mem_cons_self)
  unfold readPart
  split
  · next quote =>
    cases quote
    simp at other
  · next quote =>
    cases quote
    simp at other
  · simp only [taken, dropped]

theorem readParts_bare {k : List Char} (all : ∀ c ∈ k, isBare c = true) (some : k ≠ [])
    (room : Nat) (rest : List Char) :
    readParts (room + 1) (k ++ ' ' :: '=' :: rest)
      = Option.some (([], String.ofList k), '=' :: rest) := by
  have part := readPart_bare all some ('=' :: rest)
  have front : skipGap (k ++ ' ' :: '=' :: rest) = k ++ ' ' :: '=' :: rest := by
    obtain ⟨c, more, rfl⟩ := List.exists_cons_of_ne_nil some
    have other := not_mem_of_isBare (all c List.mem_cons_self)
    simp only [List.mem_cons, not_or] at other
    exact skipGap_cons (by simp [isGap, other]) _
  have gap : skipGap (' ' :: '=' :: rest) = '=' :: rest := rfl
  simp only [readParts, front, part, Option.bind_eq_bind, Option.bind_some, gap]
  rfl

theorem skipGap_literal (literal : Literal v cs) : skipGap (' ' :: (cs ++ rest)) = cs ++ rest := by
  have gap : skipGap (' ' :: (cs ++ rest)) = skipGap (cs ++ rest) := rfl
  rw [gap]
  cases literal with
  | text inside => exact skipGap_cons (by decide) _
  | integer i =>
    obtain ⟨c, more, heq⟩ := List.exists_cons_of_ne_nil (intText_ne_nil i)
    have run := isRun_of_mem_intText (heq ▸ List.mem_cons_self : c ∈ Json.intText i)
    rw [heq]
    refine skipGap_cons ?_ _
    cases gap : isGap c with
    | false => rfl
    | true =>
      rw [isGap, Bool.or_eq_true, beq_iff_eq, beq_iff_eq] at gap
      obtain rfl | rfl := gap <;> cases run

/-- The statement of a line. -/
theorem readStatement_line {k : List Char} (all : ∀ c ∈ k, isBare c = true) (some : k ≠ [])
    (literal : Literal v cs) (sized : v.Sized) (ends : Ends rest) :
    readStatement (k ++ ' ' :: '=' :: ' ' :: (cs ++ rest))
      = Option.some (.pair ([], String.ofList k) v, rest) := by
  have key : readKey _ = _ := readParts_bare all some 79 (' ' :: (cs ++ rest))
  have value := readValue_literal literal sized ends
  obtain ⟨c, more, rfl⟩ := List.exists_cons_of_ne_nil some
  have other : c ≠ '[' := by
    rintro rfl
    exact not_mem_of_isBare (all _ List.mem_cons_self) (by decide)
  unfold readStatement
  split
  · next bracket => exact absurd (List.cons.inj bracket).1 other
  · next bracket => exact absurd (List.cons.inj bracket).1 other
  · simp only [key, Option.bind_some, skipGap_literal literal, fuelFor, value, Option.map_some]

end

/-! ## Documents -/

theorem skipLines_bare {c : Char} (bare : isBare c = true) (rest : List Char) :
    skipLines false (c :: rest) = some (c :: rest) := by
  have other := not_mem_of_isBare bare
  simp only [List.mem_cons, not_or] at other
  rw [skipLines, if_neg (by simp [isGap, other]), if_neg (by simp [other])]
  all_goals simp [other]

/-- An entry that can be read from its line. -/
def Plain (entry : String × Value) : Prop :=
  BareKey entry.1 ∧ entry.2.Sized

theorem readStatements_line {entry : String × Value} (plain : Plain entry)
    {cs rest others : List Char} (literal : Literal entry.2 cs) (ends : Ends rest)
    (ended : endLine rest = some others) (fuel : Nat) :
    readStatements (fuel + 1) (entry.1.toList ++ ' ' :: '=' :: ' ' :: (cs ++ rest))
      = (readStatements fuel others).map (.pair ([], entry.1) entry.2 :: ·) := by
  obtain ⟨bare, sized⟩ := plain
  have all := isBare_of_bareKey bare
  have some := bare.toList_ne_nil
  have statement := readStatement_line all some literal sized ends
  rw [String.ofList_toList] at statement
  obtain ⟨c, more, heq⟩ := List.exists_cons_of_ne_nil some
  rw [heq] at statement ⊢
  have front := skipLines_bare (all c (heq ▸ List.mem_cons_self))
  simp only [List.cons_append] at statement ⊢
  simp only [readStatements, front, statement, ended, Option.bind_some]

theorem readStatements_lines {entries : List (String × Value)} {cs : List Char} {fuel : Nat}
    (lines : Lines entries cs) (plain : ∀ entry ∈ entries, Plain entry)
    (enough : entries.length < fuel) :
    readStatements fuel cs = some (entries.map fun entry => .pair ([], entry.1) entry.2) := by
  induction lines generalizing fuel with
  | nil =>
    obtain ⟨fuel, rfl⟩ : ∃ n, fuel = n + 1 := ⟨fuel - 1, by omega⟩
    rfl
  | @last key v cs literal =>
    obtain ⟨fuel, rfl⟩ : ∃ n, fuel = n + 2 := ⟨fuel - 2, by simp at enough; omega⟩
    have ends : Ends [] := nofun
    have first := readStatements_line (plain _ List.mem_cons_self) literal ends rfl (fuel + 1)
    rw [List.append_nil] at first
    exact first
  | @cons key v cs entries others literal _ ih =>
    rw [List.length_cons] at enough
    obtain ⟨fuel, rfl⟩ : ∃ n, fuel = n + 1 := ⟨fuel - 1, by omega⟩
    obtain ⟨first, rest⟩ := List.forall_mem_cons.mp plain
    have ends : Ends ('\n' :: others) := fun c hc => (Option.some.inj hc).symm
    rw [readStatements_line first literal ends rfl, ih rest (by omega)]
    rfl

theorem isBare_of_lines {entries : List (String × Value)} {cs : List Char}
    (lines : Lines entries cs) (plain : ∀ entry ∈ entries, Plain entry) :
    ∀ c ∈ cs.head?, isBare c = true := by
  have front {key : String} (bare : BareKey key) (rest : List Char) :
      ∀ c ∈ (key.toList ++ rest).head?, isBare c = true := by
    obtain ⟨c, more, heq⟩ := List.exists_cons_of_ne_nil bare.toList_ne_nil
    rw [heq]
    rintro c ⟨⟩
    exact isBare_of_bareKey bare c (heq ▸ List.mem_cons_self)
  cases lines with
  | nil => nofun
  | last => exact front (plain _ List.mem_cons_self).1 _
  | cons => exact front (plain _ List.mem_cons_self).1 _

theorem length_le_of_lines {entries : List (String × Value)} {cs : List Char}
    (lines : Lines entries cs) : entries.length ≤ cs.length := by
  induction lines with
  | nil => exact Nat.le_refl _
  | last =>
    simp only [List.length_append, List.length_cons, List.length_nil]
    omega
  | cons _ _ ih =>
    simp only [List.length_append, List.length_cons]
    omega

/-- Keys that do not stand yet, and only once, are all put in. -/
theorem carryOut_pairs {entries : List (String × Value)} (defined : Entries)
    (nodup : (entries.map Prod.fst).Nodup)
    (fresh : ∀ key ∈ entries.map Prod.fst, Keyed.get? key defined = none) :
    carryOut [] (entries.map fun entry => .pair ([], entry.1) entry.2) defined
      = some (entries.foldl (fun l p => Keyed.insert p.1 p.2 l) defined) := by
  induction entries generalizing defined with
  | nil => rfl
  | cons entry entries ih =>
    obtain ⟨first, others⟩ := List.nodup_cons.mp nodup
    have none := fresh entry.1 List.mem_cons_self
    have assigned : assign entry.1 entry.2 false .header [] defined
        = some (Keyed.insert entry.1 entry.2 defined) := by
      simp only [assign, none, Bool.false_and, Bool.false_eq_true, if_false]
    simp only [List.map_cons, carryOut, descend, assigned, Option.bind_some]
    refine ih _ others fun key hkey => ?_
    have other : key ≠ entry.1 := fun same => first (same ▸ hkey)
    rw [Keyed.get?_insert_of_ne other]
    exact fresh key (List.mem_cons_of_mem _ hkey)

/-- What stands on plain lines with different keys is what a document defines. -/
theorem read?_lines {entries : List (String × Value)} {text : String}
    (lines : Lines entries text.toList) (plain : ∀ entry ∈ entries, Plain entry)
    (nodup : (entries.map Prod.fst).Nodup) :
    Entries.read? text = some (Keyed.ofList entries) := by
  have unmarked : dropMark text.toList = text.toList := by
    unfold dropMark
    split
    · next rest mark =>
      have bare := isBare_of_lines lines plain '\uFEFF' (by rw [mark]; rfl)
      exact absurd bare (by decide)
    · rfl
  have few := length_le_of_lines lines
  have read : readStatements (fuelFor text.toList) text.toList = some _ :=
    readStatements_lines lines plain (by rw [fuelFor]; omega)
  rw [Entries.read?, unmarked]
  simp only [read, Option.bind_some]
  exact carryOut_pairs [] nodup fun _ _ => rfl

end WritePath.Toml
