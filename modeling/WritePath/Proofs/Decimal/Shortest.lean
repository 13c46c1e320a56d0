import WritePath.Decimal.Shortest

/-!
# The shortest decimal has a digit

The search for the shortest decimal begins at the leading digit of a number and goes
down from there.  The leading digit is where it is said to be (`floor_pos`), so no
point of a grid that the search looks at is zero, and the decimal of a number other
than zero is not zero either (`shortest_pos`).  Without this its text might begin
with zeros, which no number in the document format does.
-/

namespace WritePath.Binary64

theorem tenTo_pos (n : Nat) : 0 < tenTo n :=
  Nat.pow_pos (by decide)

theorem tenTo_mono {m n : Nat} (h : m ≤ n) : tenTo m ≤ tenTo n :=
  Nat.pow_le_pow_right (by decide) h

theorem tenTo_length_toDigits_le {n : Nat} (h : 0 < n) :
    tenTo ((Nat.toDigits 10 n).length - 1) ≤ n := by
  by_cases one : (Nat.toDigits 10 n).length - 1 = 0
  · rw [one]
    exact h
  · have shorter := Nat.length_toDigits_le_iff (b := 10) (n := n)
      (k := (Nat.toDigits 10 n).length - 1) (by decide) (Nat.pos_of_ne_zero one)
    have : ¬ (Nat.toDigits 10 n).length ≤ (Nat.toDigits 10 n).length - 1 := by omega
    exact Nat.le_of_not_lt fun below => this (shorter.mpr below)

theorem lt_tenTo_length_toDigits (n : Nat) : n < tenTo (Nat.toDigits 10 n).length :=
  (Nat.length_toDigits_le_iff (by decide) Nat.length_toDigits_pos).mp (Nat.le_refl _)

namespace Rounding

variable {r : Rounding}

/-- Up to the leading digit every grid has a point other than zero that is not above
the number. -/
theorem floor_pos (den : 0 < r.den) (value : 0 < r.value) {k : Int} (h : k ≤ r.leading) :
    0 < (r.floor k).1 := by
  unfold leading at h
  split at h
  · next whole =>
    have quotient : 0 < r.value / r.den := Nat.div_pos whole den
    have reached := tenTo_length_toDigits_le quotient
    cases k with
    | ofNat k =>
      have fewer : tenTo k ≤ r.value / r.den :=
        Nat.le_trans (tenTo_mono (by simp at h; omega)) reached
      refine Nat.div_pos ?_ (Nat.mul_pos den (tenTo_pos k))
      rw [Nat.mul_comm]
      exact (Nat.le_div_iff_mul_le den).mp fewer
    | negSucc k =>
      exact Nat.div_pos (Nat.le_trans whole (Nat.le_mul_of_pos_right _ (tenTo_pos _))) den
  · next part =>
    have below : r.den < r.value * tenTo (Nat.toDigits 10 (r.den / r.value)).length :=
      (Nat.div_lt_iff_lt_mul value).mp (lt_tenTo_length_toDigits _) |> (Nat.mul_comm _ _ ▸ ·)
    have some : 0 < (Nat.toDigits 10 (r.den / r.value)).length := Nat.length_toDigits_pos
    generalize (Nat.toDigits 10 (r.den / r.value)).length = d at h below some
    dsimp only at h
    have within : ∃ e : Nat, (e : Int) ≤ -k ∧ r.den ≤ r.value * tenTo e := by
      split at h
      · next power => exact ⟨d - 1, by omega, Nat.le_of_eq power.symm⟩
      · exact ⟨d, by omega, Nat.le_of_lt below⟩
    obtain ⟨e, places, reached⟩ := within
    cases k with
    | ofNat k =>
      -- then the number would be as large as the unit
      obtain rfl : e = 0 := by simp at places; omega
      rw [show tenTo 0 = 1 from rfl, Nat.mul_one] at reached
      exact absurd reached part
    | negSucc k =>
      have more : tenTo e ≤ tenTo (k + 1) := tenTo_mono (by omega)
      exact Nat.div_pos (Nat.le_trans reached (Nat.mul_le_mul_left _ more)) den

/-- A point that reads back is one of the two neighbours of the number. -/
theorem floor_le_of_onGrid {k : Int} {n : Nat} (h : r.onGrid k = some n) : (r.floor k).1 ≤ n := by
  unfold onGrid at h
  generalize r.floor k = f at h
  obtain ⟨m, rest, whole⟩ := f
  dsimp only at h ⊢
  split at h
  · split at h
    · cases h
      exact Nat.le_refl _
    · split at h
      · cases h
        exact Nat.le_succ _
      · cases h
        exact Nat.le_add_right _ _
  · cases h
    exact Nat.le_refl _
  · cases h
    exact Nat.le_succ _
  · cases h

theorem search_pos (den : 0 < r.den) (value : 0 < r.value) (left : Nat) {k : Int}
    (h : k ≤ r.leading) : 0 < (r.search left k).1 := by
  induction left generalizing k with
  | zero => exact floor_pos den value h
  | succ left ih =>
    rw [search]
    split
    · next n hit => exact Nat.lt_of_lt_of_le (floor_pos den value h) (floor_le_of_onGrid hit)
    · exact ih (by omega)

end Rounding

theorem trim_pos (fuel : Nat) {n : Nat} (k : Int) (h : 0 < n) : 0 < (trim fuel n k).1 := by
  induction fuel generalizing n k with
  | zero => exact h
  | succ fuel ih =>
    rw [trim]
    split
    · next zero =>
      simp only [Bool.and_eq_true, decide_eq_true_eq] at zero
      exact ih _ (by omega)
    · exact h

theorem shortest_pos {x : Binary64} (h : x.parts.1 ≠ 0) : 0 < x.shortest.1 := by
  have two (n : Nat) : 0 < twoTo n := Nat.pow_pos (by decide)
  refine trim_pos 400 _ (Rounding.search_pos ?_ ?_ 17 (Int.le_refl _))
  · simp only [rounding]
    split
    · exact Nat.mul_pos (by decide) (two _)
    · decide
  · simp only [rounding]
    refine Nat.mul_pos (by omega) ?_
    split
    · decide
    · exact two _

end WritePath.Binary64
