import WritePath.Toml.Text

/-!
# Texts between double quotes

Every character has one or more spellings between double quotes (`Spelling`): it stands
for itself, or it has a short escape, or it is escaped by its number.  However it is
spelled, it is read as itself (`readBasic_spelling`); so a text is read from any of its
spellings (`readText_inside`), and it has at least one (`inside_spelled`).
-/

namespace WritePath.Toml

/-! ## Spellings -/

/-- A hexadecimal digit in either case, with its value. -/
def HexDigit (d : Nat × Char) : Prop :=
  d.1 < 16 ∧ (d.2 = Nat.digitChar d.1 ∨ d.2 = (Nat.digitChar d.1).toUpper)

instance (d : Nat × Char) : Decidable (HexDigit d) :=
  inferInstanceAs (Decidable (_ ∧ _))

/-- The letters of the short escapes with what they stand for. -/
def shortEscapes : List (Char × Char) :=
  [('"', '"'), ('\\', '\\'), ('b', '\x08'), ('e', '\x1b'), ('f', '\x0c'), ('n', '\n'), ('r', '\r'),
    ('t', '\t')]

/-- The letters of the escapes by number with how many digits follow. -/
def numberEscapes : List (Char × Nat) :=
  [('x', 2), ('u', 4), ('U', 8)]

/-- The ways to write a character between double quotes. -/
inductive Spelling (c : Char) : List Char → Prop where
  | plain : c = '\t' ∨ (0x20 ≤ c.toNat ∧ c.toNat ≠ 0x7F) → c ≠ '"' → c ≠ '\\' → Spelling c [c]
  | short {e : Char} : (e, c) ∈ shortEscapes → Spelling c ['\\', e]
  | number {e : Char} {digits : List (Nat × Char)} : (e, digits.length) ∈ numberEscapes →
      (∀ d ∈ digits, HexDigit d) → digits.foldl (fun n d => n * 16 + d.1) 0 = c.toNat →
        Spelling c ('\\' :: e :: digits.map Prod.snd)

/-- The ways to write a text between double quotes, without the quotes. -/
inductive Inside : List Char → List Char → Prop where
  | nil : Inside [] []
  | cons {c : Char} {s w cs : List Char} : Spelling c w → Inside s cs → Inside (c :: s) (w ++ cs)

/-! ## Reading -/

theorem hexDigit?_of_hexDigit {d : Nat × Char} : HexDigit d → Json.hexDigit? d.2 = some d.1 := by
  obtain ⟨n, c⟩ := d
  rintro ⟨small, digit⟩
  dsimp only at small digit ⊢
  have both : ∀ n < 16, Json.hexDigit? (Nat.digitChar n) = some n
      ∧ Json.hexDigit? (Nat.digitChar n).toUpper = some n := by decide
  obtain rfl | rfl := digit
  · exact (both n small).1
  · exact (both n small).2

theorem foldlM_hexDigits {digits : List (Nat × Char)} (all : ∀ d ∈ digits, HexDigit d) (n : Nat) :
    (digits.map Prod.snd).foldlM (fun n c => (Json.hexDigit? c).map (n * 16 + ·)) n
      = some (digits.foldl (fun n d => n * 16 + d.1) n) := by
  induction digits generalizing n with
  | nil => rfl
  | cons d digits ih =>
    obtain ⟨first, others⟩ := List.forall_mem_cons.mp all
    rw [List.map_cons, List.foldlM_cons, hexDigit?_of_hexDigit first]
    exact ih others _

theorem numbered?_digits {digits : List (Nat × Char)} {c : Char} (all : ∀ d ∈ digits, HexDigit d)
    (number : digits.foldl (fun n d => n * 16 + d.1) 0 = c.toNat) :
    numbered? (digits.map Prod.snd) = some c := by
  have valid : c.toNat < 0xD800 ∨ 0xDFFF < c.toNat ∧ c.toNat ≤ 0x10FFFF := by
    have := c.valid
    simp only [UInt32.isValidChar, Nat.isValidChar] at this
    show c.val.toNat < _ ∨ _ < c.val.toNat ∧ c.val.toNat ≤ _
    omega
  simp only [numbered?, foldlM_hexDigits all, number, Option.bind_eq_bind, Option.bind_some]
  rw [if_pos (by simpa using valid), Char.ofNat_toNat]

theorem readBasic_plain {c : Char} (rest : List Char)
    (plain : c = '\t' ∨ (0x20 ≤ c.toNat ∧ c.toNat ≠ 0x7F)) (quote : c ≠ '"') (slash : c ≠ '\\') :
    readBasic (c :: rest) = put c (readBasic rest) := by
  have wanted : (isPlain c && c != '\\') = true := by simpa [isPlain, slash] using plain
  rw [readBasic.eq_def]
  split
  case h_1 heq =>
    cases heq
    exact absurd rfl quote
  case h_6 heq =>
    cases heq
    rw [if_pos wanted]
  case h_7 heq => cases heq
  -- the four kinds of escapes
  all_goals
    next heq =>
    cases heq
    exact absurd rfl slash

/-- However a character is spelled, it is read as itself. -/
theorem readBasic_spelling {c : Char} {w : List Char} (h : Spelling c w) (rest : List Char) :
    readBasic (w ++ rest) = put c (readBasic rest) := by
  cases h with
  | plain plain quote slash => exact readBasic_plain rest plain quote slash
  | short escape =>
    simp only [shortEscapes, List.mem_cons, List.not_mem_nil, Prod.mk.injEq, or_false] at escape
    rcases escape with ⟨rfl, rfl⟩ | ⟨rfl, rfl⟩ | ⟨rfl, rfl⟩ | ⟨rfl, rfl⟩ | ⟨rfl, rfl⟩ | ⟨rfl, rfl⟩
      | ⟨rfl, rfl⟩ | ⟨rfl, rfl⟩
    all_goals rfl
  | @number e digits escape all number =>
    have char := numbered?_digits all number
    simp only [numberEscapes, List.mem_cons, List.not_mem_nil, Prod.mk.injEq, or_false] at escape
    rcases escape with ⟨rfl, two⟩ | ⟨rfl, four⟩ | ⟨rfl, eight⟩
    · match digits, two, char with
      | [a, b], _, char => exact congrArg (put? · (readBasic rest)) char
    · match digits, four, char with
      | [a, b, x, y], _, char => exact congrArg (put? · (readBasic rest)) char
    · match digits, eight, char with
      | [a, b, x, y, a', b', x', y'], _, char => exact congrArg (put? · (readBasic rest)) char

theorem readBasic_inside {s cs : List Char} (h : Inside s cs) (rest : List Char) :
    readBasic (cs ++ '"' :: rest) = some (s, rest) := by
  induction h with
  | nil => rfl
  | cons spelling _ ih => rw [List.append_assoc, readBasic_spelling spelling, ih]; rfl

theorem readText_quote {cs : List Char} (single : ∀ more, cs ≠ '"' :: '"' :: more) :
    readText ('"' :: cs) = (readBasic cs).map fun r => (String.ofList r.1, r.2) := by
  unfold readText
  split
  case h_1 heq =>
    cases heq
    exact absurd rfl (single _)
  case h_3 heq =>
    cases heq
    rfl
  case h_5 other _ => exact (other cs rfl).elim
  all_goals
    next heq =>
    cases heq

theorem Spelling.head {c : Char} {w : List Char} (h : Spelling c w) :
    ∃ first more, w = first :: more ∧ first ≠ '"' := by
  cases h with
  | plain _ quote _ => exact ⟨_, _, rfl, quote⟩
  | short => exact ⟨_, _, rfl, by decide⟩
  | number => exact ⟨_, _, rfl, by decide⟩

/-- A text is read from each of its spellings, if no quote follows. -/
theorem readText_inside {s : String} {cs rest : List Char} (h : Inside s.toList cs)
    (last : ∀ c ∈ rest.head?, c ≠ '"') :
    readText ('"' :: (cs ++ '"' :: rest)) = some (s, rest) := by
  have single : ∀ more, cs ++ '"' :: rest ≠ '"' :: '"' :: more := by
    intro more heq
    generalize s.toList = chars at h
    cases h with
    | nil =>
      obtain ⟨-, rfl⟩ := List.cons.inj heq
      exact absurd rfl (last '"' rfl)
    | cons spelling _ =>
      obtain ⟨first, w, rfl, other⟩ := spelling.head
      exact other (List.cons.inj heq).1
  rw [readText_quote single, readBasic_inside h, Option.map_some, String.ofList_toList]

/-! ## Every text has a spelling -/

/-- One of the spellings of a character: itself, if it may stand for itself. -/
def spelled (c : Char) : List Char :=
  if c = '"' ∨ c = '\\' then ['\\', c]
  else if c = '\t' ∨ (0x20 ≤ c.toNat ∧ c.toNat ≠ 0x7F) then [c]
  else ['\\', 'u', '0', '0', Nat.digitChar (c.toNat / 16), Nat.digitChar (c.toNat % 16)]

theorem spelling_spelled (c : Char) : Spelling c (spelled c) := by
  unfold spelled
  split
  · next escaped =>
    refine .short ?_
    rcases escaped with rfl | rfl <;> decide
  · next plain =>
    rw [not_or] at plain
    split
    · next printable => exact .plain printable plain.1 plain.2
    · next control =>
      have small : c.toNat < 0x80 := by omega
      have digit {n : Nat} (h : n < 16) : HexDigit (n, Nat.digitChar n) := ⟨h, .inl rfl⟩
      let high := c.toNat / 16
      let low := c.toNat % 16
      let digits := [(0, '0'), (0, '0'), (high, Nat.digitChar high), (low, Nat.digitChar low)]
      have four : ('u', digits.length) ∈ numberEscapes := by
        show ('u', 4) ∈ numberEscapes
        decide
      have all : ∀ d ∈ digits, HexDigit d := by
        simp only [digits, List.forall_mem_cons]
        exact ⟨digit (by decide), digit (by decide), digit (by omega), digit (by omega), nofun⟩
      have number : digits.foldl (fun n d => n * 16 + d.1) 0 = c.toNat := by
        simp only [digits, List.foldl_cons, List.foldl_nil]
        omega
      exact .number four all number

/-- One of the spellings of a text, without the quotes. -/
theorem inside_spelled (s : List Char) : Inside s (s.flatMap spelled) := by
  induction s with
  | nil => exact .nil
  | cons c s ih => exact .cons (spelling_spelled c) ih

end WritePath.Toml
