import WritePath.Json.Printer
import WritePath.Json.Reader
import WritePath.Proofs.Decimal.Shortest

/-!
# Numbers in JSON text

What is written for a number is a number to the reader as well, up to the character
that ends it.  For an integer this number has the integer's value again, if it fits
(`value_ofInt`); of a float it is only shown that it is well formed
(`readNumber_float`), which is what it takes to pass over it.
-/

namespace WritePath.Json

/-- What may stand behind a value in a compact text: nothing, or the character between
two values or behind the last one. -/
def Follows (rest : List Char) : Prop :=
  ∀ c ∈ rest.head?, c = ',' ∨ c = ']' ∨ c = '\x7d'

@[simp] theorem follows_nil : Follows [] := nofun

@[simp] theorem follows_comma (rest : List Char) : Follows (',' :: rest) := by
  simp [Follows]

@[simp] theorem follows_bracket (rest : List Char) : Follows (']' :: rest) := by
  simp [Follows]

@[simp] theorem follows_brace (rest : List Char) : Follows ('\x7d' :: rest) := by
  simp [Follows]

theorem Follows.head {rest : List Char} (h : Follows rest) (p : Char → Bool)
    (other : p ',' = false ∧ p ']' = false ∧ p '\x7d' = false := by decide) :
    ∀ c ∈ rest.head?, p c = false := by
  intro c hc
  obtain rfl | rfl | rfl := h c hc
  · exact other.1
  · exact other.2.1
  · exact other.2.2

/-! ## The parts of a number -/

/-- Digits of which there are some. -/
structure AreDigits (ds : List Char) : Prop where
  all : ∀ c ∈ ds, c.isDigit = true
  some : ds ≠ []

/-- Digits that a number may begin with: a zero stands there only alone. -/
structure Whole (ds : List Char) : Prop extends AreDigits ds where
  zero : ∀ more, ds = '0' :: more → more = []

/-- The fraction of a number, if it has one. -/
def fractionText : Option (List Char) → List Char
  | none => []
  | some ds => '.' :: ds

/-- The exponent of a number, if it has one: is it negative, and its digits. -/
def exponentText : Option (Bool × List Char) → List Char
  | none => []
  | some (negative, ds) => 'e' :: (if negative then '-' else '+') :: ds

/-- The number that an exponent spells. -/
def exponentOf (x : Bool × List Char) : Int :=
  let n : Int := Nat.ofDigitChars 10 x.2 0
  if x.1 then -n else n

section

variable {ds rest : List Char}

theorem digits_append (all : ∀ c ∈ ds, c.isDigit = true)
    (ends : ∀ c ∈ rest.head?, c.isDigit = false) : digits (ds ++ rest) = (ds, rest) := by
  have none : rest.takeWhile Char.isDigit = [] ∧ rest.dropWhile Char.isDigit = rest := by
    cases rest with
    | nil => exact ⟨rfl, rfl⟩
    | cons c rest => simp [ends c rfl]
  rw [digits, List.takeWhile_append_of_pos all, List.dropWhile_append_of_pos all, none.1, none.2,
    List.append_nil]

theorem readWhole_append (whole : Whole ds) (ends : ∀ c ∈ rest.head?, c.isDigit = false) :
    readWhole (ds ++ rest) = some (ds, rest) := by
  rw [readWhole, digits_append whole.all ends]
  split
  · next heq =>
    cases heq
    exact absurd rfl whole.some
  · next heq =>
    cases heq
    cases whole.zero _ rfl
  · next heq =>
    cases heq
    rfl

theorem readFraction_append (digits : AreDigits ds)
    (ends : ∀ c ∈ rest.head?, c.isDigit = false) :
    readFraction (fractionText (some ds) ++ rest) = some (some ds, rest) := by
  have some := digits.some
  simp only [fractionText, List.cons_append, readFraction, digits_append digits.all ends]

theorem readFraction_none (ends : ∀ c ∈ rest.head?, (c == '.') = false) :
    readFraction rest = some (none, rest) := by
  unfold readFraction
  split
  · have := ends '.' rfl
    cases this
  · rfl

theorem readExponentDigits_append (negative : Bool) (digits : AreDigits ds)
    (ends : ∀ c ∈ rest.head?, c.isDigit = false) :
    readExponentDigits negative (ds ++ rest) = some (some (exponentOf (negative, ds)), rest) := by
  have some := digits.some
  simp only [readExponentDigits, digits_append digits.all ends, exponentOf]

theorem readExponent_append (negative : Bool) (digits : AreDigits ds)
    (ends : ∀ c ∈ rest.head?, c.isDigit = false) :
    readExponent (exponentText (some (negative, ds)) ++ rest)
      = some (some (exponentOf (negative, ds)), rest) := by
  have read := readExponentDigits_append negative digits ends
  cases negative <;> exact read

theorem readExponent_none (ends : ∀ c ∈ rest.head?, (c == 'e' || c == 'E') = false) :
    readExponent rest = some (none, rest) := by
  unfold readExponent
  split
  · next c rest => rw [ends c rfl]; rfl
  · rfl

end

/-! ## Written numbers -/

/-- A text without a sign that the reader takes for a number of these parts,
whatever ends it. -/
def Spells (cs whole : List Char) (fraction : Option (List Char)) (exponent : Option Int) : Prop :=
  ∀ rest, Follows rest → ∃ cs₁ cs₂, readWhole (cs ++ rest) = some (whole, cs₁)
    ∧ readFraction cs₁ = some (fraction, cs₂) ∧ readExponent cs₂ = some (exponent, rest)

/-- A sign in front does not matter to the other parts. -/
theorem readNumber_of_spells {cs whole rest : List Char} {fraction : Option (List Char)}
    {exponent : Option Int} (negative : Bool) (spells : Spells cs whole fraction exponent)
    (follows : Follows rest) :
    readNumber ((if negative then ['-'] else []) ++ cs ++ rest)
      = some (⟨negative, whole, fraction, exponent⟩, rest) := by
  obtain ⟨cs₁, cs₂, h₁, h₂, h₃⟩ := spells rest follows
  cases negative with
  | true => simp [readNumber, h₁, h₂, h₃]
  | false =>
    rw [if_neg Bool.false_ne_true, List.nil_append]
    rw [readNumber]
    · simp [h₁, h₂, h₃]
    · -- a sign is no digit
      intro _ minus
      rw [minus] at h₁
      cases h₁

theorem spells_parts {ds : List Char} (whole : Whole ds) {f : Option (List Char)}
    (fraction : ∀ fs ∈ f, AreDigits fs) {x : Option (Bool × List Char)}
    (exponent : ∀ p ∈ x, AreDigits p.2) :
    Spells (ds ++ (fractionText f ++ exponentText x)) ds f (x.map exponentOf) := by
  intro rest follows
  have third : readExponent (exponentText x ++ rest) = some (x.map exponentOf, rest) := by
    cases x with
    | none => exact readExponent_none (follows.head fun c => c == 'e' || c == 'E')
    | some p => exact readExponent_append p.1 (exponent p rfl) (follows.head Char.isDigit)
  -- neither a digit nor a point stands before the exponent
  have plain : ∀ c ∈ (exponentText x ++ rest).head?, c.isDigit = false ∧ (c == '.') = false := by
    cases x with
    | none =>
      exact fun c hc =>
        ⟨follows.head Char.isDigit (by decide) c hc, follows.head (· == '.') (by decide) c hc⟩
    | some p => rintro c ⟨⟩; decide
  have second : readFraction (fractionText f ++ (exponentText x ++ rest))
      = some (f, exponentText x ++ rest) := by
    cases f with
    | none => exact readFraction_none fun c hc => (plain c hc).2
    | some fs => exact readFraction_append (fraction fs rfl) fun c hc => (plain c hc).1
  refine ⟨_, _, ?_, second, third⟩
  rw [List.append_assoc, List.append_assoc]
  refine readWhole_append whole fun c hc => ?_
  cases f with
  | none => exact (plain c hc).1
  | some fs => cases hc; decide

/-! ## Integers -/

theorem areDigits_toDigits (n : Nat) : AreDigits (Nat.toDigits 10 n) :=
  ⟨fun _ hc => Nat.isDigit_of_mem_toDigits (by decide) (by decide) hc, Nat.toDigits_ne_nil⟩

theorem toDigits_ne_zero_cons {n : Nat} (h : 0 < n) (more : List Char) :
    Nat.toDigits 10 n ≠ '0' :: more := by
  induction n using Nat.strongRecOn generalizing more with
  | ind n ih =>
    rw [Nat.toDigits_eq_if (by decide)]
    split
    · next one =>
      intro zero
      have : ∀ d < 10, 0 < d → Nat.digitChar d ≠ '0' := by decide
      exact this n one h (List.cons.inj zero).1
    · intro zero
      have front := ih (n / 10) (by omega) (by omega)
      cases digits : Nat.toDigits 10 (n / 10) with
      | nil => exact Nat.toDigits_ne_nil digits
      | cons c ds =>
        rw [digits] at zero
        exact front ds (digits.trans (by rw [(List.cons.inj zero).1]))

theorem whole_toDigits (n : Nat) : Whole (Nat.toDigits 10 n) := by
  refine ⟨areDigits_toDigits n, fun more zero => ?_⟩
  cases n with
  | zero => exact (List.cons.inj zero).2.symm
  | succ n => exact absurd zero (toDigits_ne_zero_cons (Nat.succ_pos n) more)

theorem whole_zero : Whole ['0'] :=
  whole_toDigits 0

/-- The parts of a written integer. -/
def numberOfInt (i : Int) : Number :=
  ⟨decide (i < 0), Nat.toDigits 10 i.natAbs, none, none⟩

theorem readNumber_int (i : Int) {rest : List Char} (follows : Follows rest) :
    readNumber (intText i ++ rest) = some (numberOfInt i, rest) := by
  have spells := spells_parts (whole_toDigits i.natAbs) (f := none) nofun (x := none) nofun
  have read := readNumber_of_spells (decide (i < 0)) spells follows
  simp only [fractionText, exponentText, List.append_nil] at read
  have text : intText i
      = (if decide (i < 0) = true then ['-'] else []) ++ Nat.toDigits 10 i.natAbs := by
    cases i with
    | ofNat n => rfl
    | negSucc n => simp [intText, Int.negSucc_lt_zero]
  rw [text]
  exact read

theorem value_ofInt {i : Int} (fits : Value.fits i = true) :
    (numberOfInt i).value = some (.int i) := by
  have whole : (numberOfInt i).integer = i := by
    simp only [Number.integer, numberOfInt,
      Nat.ofDigitChars_toDigits (b := 10) (by decide) (by decide)]
    split
    · next negative =>
      rw [Int.ofNat_natAbs_of_nonpos (Int.le_of_lt (of_decide_eq_true negative)), Int.neg_neg]
    · next positive =>
      exact Int.natAbs_of_nonneg (Int.not_lt.mp fun negative => positive (decide_eq_true negative))
  have signed : ¬ ((numberOfInt i).negative = true ∧ i = 0) := by
    rintro ⟨negative, rfl⟩
    cases negative
  rw [Number.value, whole, if_pos]
  simp [numberOfInt, fits] at signed ⊢
  omega

/-! ## Floats -/

/-- A text that is made of the parts of a number. -/
def HasParts (cs : List Char) : Prop :=
  ∃ ds f x, Whole ds ∧ (∀ fs ∈ f, AreDigits fs) ∧ (∀ p ∈ x, AreDigits (Prod.snd p))
    ∧ cs = ds ++ (fractionText f ++ exponentText x)

theorem whole_cons {d : Char} {ds : List Char} (zero : d ≠ '0')
    (all : ∀ c ∈ d :: ds, c.isDigit = true) : Whole (d :: ds) :=
  ⟨⟨all, List.cons_ne_nil d ds⟩, fun _ heq => absurd (List.cons.inj heq).1 zero⟩

/-- In plain and in exponent notation alike the digits of a number other than zero
are the parts of a number. -/
theorem hasParts_digitsText {n : Nat} (h : 0 < n) (k : Int) :
    HasParts (Binary64.digitsText n k) := by
  have digits := areDigits_toDigits n
  have first := toDigits_ne_zero_cons h
  have zeros (m : Nat) : ∀ c ∈ List.replicate m '0', c.isDigit = true := by
    intro c hc
    rw [List.eq_of_mem_replicate hc]
    decide
  unfold Binary64.digitsText
  generalize Nat.toDigits 10 n = ds at digits first
  obtain ⟨d, more, rfl⟩ := List.exists_cons_of_ne_nil digits.some
  have zero : d ≠ '0' := fun heq => first more (by rw [heq])
  have ⟨one, all⟩ := List.forall_mem_cons.mp digits.all
  dsimp only
  split
  · -- all digits, with zeros, before the point
    refine ⟨d :: (more ++ List.replicate k.toNat '0'), some ['0'], none, whole_cons zero ?_, ?_,
      nofun, by simp [fractionText, exponentText]⟩
    · exact List.forall_mem_cons.mpr
        ⟨one, fun c hc => (List.mem_append.mp hc).elim (all c) (zeros _ c)⟩
    · rintro fs ⟨⟩
      exact whole_zero.toAreDigits
  · next large =>
    split
    · -- the point among the digits
      next inside =>
      simp only [Bool.and_eq_true, decide_eq_true_eq, List.length_cons] at inside large ⊢
      have few : (k + (more.length + 1 : Nat) - 1).toNat < more.length := by omega
      generalize (k + (more.length + 1 : Nat) - 1).toNat = e at few
      refine ⟨d :: more.take e, some (more.drop e), none, whole_cons zero ?_, ?_, nofun,
        by simp [fractionText, exponentText]⟩
      · exact List.forall_mem_cons.mpr ⟨one, fun c hc => all c (List.mem_of_mem_take hc)⟩
      · rintro fs ⟨⟩
        refine ⟨fun c hc => all c (List.mem_of_mem_drop hc), fun none => ?_⟩
        have := List.drop_eq_nil_iff.mp none
        omega
    · split
      · -- all digits behind the point
        generalize (-(k + (d :: more).length - 1) - 1).toNat = m
        refine ⟨['0'], some (List.replicate m '0' ++ d :: more), none, ?_, ?_, nofun,
          by simp [fractionText, exponentText]⟩
        · exact whole_zero
        · rintro fs ⟨⟩
          refine ⟨fun c hc => (List.mem_append.mp hc).elim (zeros m c) (digits.all c), ?_⟩
          exact List.append_ne_nil_of_right_ne_nil _ digits.some
      · -- one digit before the point, if there are more than one
        generalize k + (d :: more).length - 1 = e
        have single : Whole [d] := whole_cons zero (by simpa using one)
        have exponent : ∀ p ∈ some (decide (e < 0), Nat.toDigits 10 e.natAbs), AreDigits p.2 := by
          rintro p ⟨⟩
          exact areDigits_toDigits _
        cases more with
        | nil =>
          exact ⟨[d], none, _, single, nofun, exponent, by simp [fractionText, exponentText]⟩
        | cons c more =>
          refine ⟨[d], some (c :: more), _, single, ?_, exponent,
            by simp [fractionText, exponentText]⟩
          rintro fs ⟨⟩
          exact ⟨all, List.cons_ne_nil c more⟩

theorem readNumber_float (x : Binary64) {rest : List Char} (follows : Follows rest) :
    ∃ n, readNumber (x.text ++ rest) = some (n, rest) := by
  have parts : ∃ cs, HasParts cs
      ∧ x.text = (if x.isNegative = true then ['-'] else []) ++ cs := by
    by_cases zero : x.parts.1 = 0
    · refine ⟨['0', '.', '0'], ⟨['0'], some ['0'], none, ?_, ?_, nofun, rfl⟩, ?_⟩
      · exact whole_zero
      · rintro fs ⟨⟩
        exact whole_zero.toAreDigits
      · simp [Binary64.text, zero]
    · refine ⟨_, hasParts_digitsText (Binary64.shortest_pos zero) x.shortest.2, ?_⟩
      simp [Binary64.text, zero]
  obtain ⟨_, ⟨ds, f, e, whole, fraction, exponent, rfl⟩, text⟩ := parts
  rw [text]
  exact ⟨_, readNumber_of_spells x.isNegative (spells_parts whole fraction exponent) follows⟩

end WritePath.Json
