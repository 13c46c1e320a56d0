import WritePath.Json.Printer
import WritePath.Json.Reader

/-!
# Strings in JSON text

What is written for a string reads back as that string, whatever follows it
(`readString_stringText`): each character is one step of the reader, however it is
spelled.  A string that is not wanted can be passed over, and this leaves the same
rest as reading it (`skipString_of_readString`).
-/

namespace WritePath.Json

theorem hexDigit?_digitChar {n : Nat} (h : n < 16) : hexDigit? (Nat.digitChar n) = some n := by
  revert n
  decide

theorem unit?_control {c : Char} (h : c.toNat < 0x20) :
    unit? '0' '0' (Nat.digitChar (c.toNat / 16)) (Nat.digitChar (c.toNat % 16)) = some c.toNat := by
  have zero : hexDigit? '0' = some 0 := by decide
  rw [unit?, zero, hexDigit?_digitChar (by omega), hexDigit?_digitChar (by omega)]
  simp only [bind, Option.bind, pure, Option.some.injEq]
  omega

section

variable {c e : Char} (rest : List Char)

theorem readString_short (h : shortEscape? e = some c) :
    readString ('\\' :: e :: rest) = (readString rest).map fun r => (c :: r.1, r.2) := by
  have short : e ≠ 'u' := by
    rintro rfl
    cases h
  rw [readString.eq_def]
  split
  · next heq => cases heq
  · next heq => cases heq
  · next heq =>
    cases heq
    exact absurd rfl short
  · next heq =>
    cases heq
    rw [h]
    cases readString rest <;> rfl
  · next long heq =>
    cases heq
    exact (long e rest rfl rfl).elim

theorem readString_control (h : c.toNat < 0x20) :
    readString ('\\' :: 'u' :: '0' :: '0' :: Nat.digitChar (c.toNat / 16)
        :: Nat.digitChar (c.toNat % 16) :: rest)
      = (readString rest).map fun r => (c :: r.1, r.2) := by
  have low : isLow c.toNat = false := by
    simp [isLow]
    omega
  have high : isHigh c.toNat = false := by
    simp [isHigh]
    omega
  simp only [readString, unit?_control h, bind, Option.bind, low, high, Char.ofNat_toNat]
  cases readString rest <;> rfl

theorem readString_plain (quote : c ≠ '"') (slash : c ≠ '\\') (h : ¬ c.toNat < 0x20) :
    readString (c :: rest) = (readString rest).map fun r => (c :: r.1, r.2) := by
  rw [readString.eq_def]
  split
  · next heq => cases heq
  · next heq =>
    cases heq
    exact absurd rfl quote
  · next heq =>
    cases heq
    exact absurd rfl slash
  · next heq =>
    cases heq
    exact absurd rfl slash
  · next heq =>
    cases heq
    rw [if_neg (by simp [h, slash])]
    cases readString rest <;> rfl

end

theorem readString_escape (c : Char) (rest : List Char) :
    readString (escape c ++ rest) = (readString rest).map fun r => (c :: r.1, r.2) := by
  unfold escape
  split
  -- the seven characters with a short escape
  iterate 7 · exact readString_short rest rfl
  split
  · next control => exact readString_control rest control
  · next quote slash _ _ _ _ _ plain => exact readString_plain rest quote slash plain

theorem readString_flatMap_escape (s rest : List Char) :
    readString (s.flatMap escape ++ '"' :: rest) = some (s, rest) := by
  induction s with
  | nil => rfl
  | cons c s ih => rw [List.flatMap_cons, List.append_assoc, readString_escape, ih]; rfl

/-- What is written for a string is read as the string, the opening quote being gone. -/
theorem readString_stringText (s : String) (rest : List Char) :
    ∃ inside, stringText s ++ rest = '"' :: inside ∧ readString inside = some (s.toList, rest) := by
  refine ⟨s.toList.flatMap escape ++ '"' :: rest, ?_, readString_flatMap_escape s.toList rest⟩
  simp [stringText]

/-! ## Strings that are passed over -/

theorem skipString_unit {a b c d : Char} {u : Nat} (h : unit? a b c d = some u) (rest : List Char) :
    skipString ('\\' :: 'u' :: a :: b :: c :: d :: rest) = skipString rest := by
  rw [skipString, h]
  rfl

theorem skipString_of_readString {cs s rest : List Char} :
    readString cs = some (s, rest) → skipString cs = some rest := by
  intro h
  fun_induction readString cs generalizing s rest with
  | case1 => cases h
  | case2 =>
    cases h
    rfl
  | case3 a b c d cs ih alone =>
    simp only [Option.bind_eq_bind, Option.bind_eq_some_iff] at h
    obtain ⟨u, digits, h⟩ := h
    rw [skipString_unit digits]
    split at h
    · cases h
    · split at h
      · -- the first half of a pair, with the second one after it
        split at h
        · obtain ⟨low, digits', h⟩ := Option.bind_eq_some_iff.mp h
          rw [skipString_unit digits']
          split at h
          · obtain ⟨r, read, h⟩ := Option.bind_eq_some_iff.mp h
            cases h
            exact ih read
          · cases h
        · cases h
      · obtain ⟨r, read, h⟩ := Option.bind_eq_some_iff.mp h
        cases h
        exact alone read
  | case4 c cs short ih =>
    obtain ⟨e, escape, h⟩ := Option.bind_eq_some_iff.mp h
    obtain ⟨r, read, h⟩ := Option.bind_eq_some_iff.mp h
    cases h
    rw [skipString, escape, ← ih read]
    · rfl
    · exact short
  | case5 => cases h
  | case6 c cs quote unit short plain ih =>
    obtain ⟨r, read, h⟩ := Option.bind_eq_some_iff.mp h
    cases h
    rw [skipString, if_neg plain, ih read]
    · exact quote
    · exact unit
    · exact short

theorem skipString_stringText (s : String) (rest : List Char) :
    ∃ inside, stringText s ++ rest = '"' :: inside ∧ skipString inside = some rest := by
  obtain ⟨inside, text, read⟩ := readString_stringText s rest
  exact ⟨inside, text, skipString_of_readString read⟩

end WritePath.Json
