import WritePath.Proofs.Manager.Opening

/-!
# The check of settings, up to the greatest numbers

The check multiplies: it asks for the least buffer of a thread, once for each thread.
The engine divides: it looks at the share of one thread, a quotient that is rounded
down.  `check_exact` says that the two agree for all numbers of sixty-four bits.

Two things could come between them.  The product can be too large for a word; then it
is larger than every buffer that could be asked for, and there is nothing to compare
(`product?_eq_none_iff`, `size_le_iff`).  And the quotient loses a remainder; but a
remainder is never enough for one more of what every thread needs.

So nothing is lost if the check is done with words alone, and the product is given up
where it is too large (`check_eq_checkByWords`).
-/

namespace WritePath

namespace Settings

/-! ## Products of words -/

def product? (a b : UInt64) : Option UInt64 :=
  if a.toBitVec.umulOverflow b.toBitVec then none else some (a * b)

section

variable {a b c : UInt64}

theorem overflows_iff :
    a.toBitVec.umulOverflow b.toBitVec = true ↔ UInt64.size ≤ a.toNat * b.toNat := by
  simp only [BitVec.umulOverflow, decide_eq_true_eq]
  rfl

theorem product?_eq_none_iff : product? a b = none ↔ UInt64.size ≤ a.toNat * b.toNat := by
  rw [← overflows_iff, product?]
  split
  · next h => simp [h]
  · next h => simp [h]

theorem toNat_of_product? : product? a b = some c → c.toNat = a.toNat * b.toNat := by
  intro h
  have small : ¬ UInt64.size ≤ a.toNat * b.toNat := by
    rw [← product?_eq_none_iff, h]
    nofun
  rw [product?, if_neg fun overflows => small (overflows_iff.mp overflows), Option.some.injEq] at h
  rw [← h, UInt64.toNat_mul]
  exact Nat.mod_eq_of_lt (Nat.not_le.mp small)

end

theorem size_le_iff (n : Nat) : UInt64.size ≤ n ↔ ∀ c : UInt64, c.toNat < n := by
  constructor
  · intro large c
    exact Nat.lt_of_lt_of_le c.toNat_lt large
  · intro above
    exact above 18446744073709551615

/-! ## The check with words -/

/-- The check, when numbers are words and nothing else. -/
def checkByWords (s : Settings) : Except Flaw Unit :=
  if Text.isBlank s.name then .error .blankName
  else if s.queueSize = 0 then .error .noQueue
  else if s.writerThreads = 0 then .error .noThreads
  else match product? 15000000 s.writerThreads with
    | none => .error (.tooManyThreads s.writerThreads.toNat)
    | some minimum =>
      if s.writerBufferSize < minimum then
        .error (.smallBuffer minimum.toNat s.writerThreads.toNat)
      else .ok ()

theorem check_eq_checkByWords (s : Settings) : s.check = s.checkByWords := by
  have least : (15000000 : UInt64).toNat = leastBuffer := rfl
  unfold check checkByWords
  dsimp only
  cases product : product? 15000000 s.writerThreads with
  | none =>
    have large := product?_eq_none_iff.mp product
    rw [least] at large
    rw [if_pos large]
  | some minimum =>
    have exact := toNat_of_product? product
    rw [least] at exact
    have small : ¬ UInt64.size ≤ leastBuffer * s.writerThreads.toNat := by
      rw [← exact]
      exact Nat.not_le.mpr minimum.toNat_lt
    rw [if_neg small, ← exact]
    simp only [UInt64.lt_iff_toNat_lt]

/-! ## The answers -/

/-- What the check can say, and when: the first test that is not passed. -/
inductive Verdict (s : Settings) : Except Flaw Unit → Prop where
  | blankName (blank : Text.isBlank s.name = true) : Verdict s (.error .blankName)
  | noQueue (named : Text.isBlank s.name = false) (queue : s.queueSize = 0) :
    Verdict s (.error .noQueue)
  | noThreads (named : Text.isBlank s.name = false) (queue : s.queueSize ≠ 0)
    (threads : s.writerThreads = 0) : Verdict s (.error .noThreads)
  | tooManyThreads (named : Text.isBlank s.name = false) (queue : s.queueSize ≠ 0)
    (large : UInt64.size ≤ leastBuffer * s.writerThreads.toNat) :
    Verdict s (.error (.tooManyThreads s.writerThreads.toNat))
  /-- What the buffer has to be is a word. -/
  | smallBuffer (named : Text.isBlank s.name = false) (queue : s.queueSize ≠ 0)
    (threads : s.writerThreads ≠ 0) (minimum : UInt64)
    (product : minimum.toNat = leastBuffer * s.writerThreads.toNat)
    (less : s.writerBufferSize < minimum) :
    Verdict s (.error (.smallBuffer minimum.toNat s.writerThreads.toNat))
  | passed (named : Text.isBlank s.name = false) (queue : s.queueSize ≠ 0)
    (threads : s.writerThreads ≠ 0)
    (enough : leastBuffer * s.writerThreads.toNat ≤ s.writerBufferSize.toNat) :
    Verdict s (.ok ())

theorem verdict_check (s : Settings) : s.Verdict s.check := by
  rw [check_eq_checkByWords, checkByWords]
  split
  · next blank => exact .blankName blank
  · next named =>
    replace named := Bool.not_eq_true _ ▸ named
    split
    · next queue => exact .noQueue named queue
    · next queue =>
      split
      · next threads => exact .noThreads named queue threads
      · next threads =>
        split
        · next noWord => exact .tooManyThreads named queue (product?_eq_none_iff.mp noWord)
        · next minimum found =>
          have product := toNat_of_product? found
          split
          · next less => exact .smallBuffer named queue threads minimum product less
          · next enough =>
            rw [UInt64.lt_iff_toNat_lt, Nat.not_lt, product] at enough
            exact .passed named queue threads enough

/-- The threads are too many if their product with the least buffer is no word, and nothing
else was said before. -/
theorem check_tooManyThreads_iff (s : Settings) :
    s.check = .error (.tooManyThreads s.writerThreads.toNat)
      ↔ Text.isBlank s.name = false ∧ s.queueSize ≠ 0
        ∧ UInt64.size ≤ leastBuffer * s.writerThreads.toNat := by
  constructor
  · intro refused
    have verdict := s.verdict_check
    rw [refused] at verdict
    cases verdict with
    | tooManyThreads named queue large => exact ⟨named, queue, large⟩
  · rintro ⟨named, queue, large⟩
    have threads : s.writerThreads ≠ 0 := by
      intro noThreads
      rw [noThreads] at large
      exact absurd large (by decide)
    unfold check
    dsimp only
    rw [if_neg (by simp [named]), if_neg queue, if_neg threads, if_pos large]

theorem isBlank_eq_false_iff (s : String) :
    Text.isBlank s = false ↔ ∃ c ∈ s.toList, Text.isWhite c = false := by
  simp [Text.isBlank]

theorem one_le_iff (n : UInt64) : 1 ≤ n ↔ n ≠ 0 := by
  rw [UInt64.le_iff_toNat_le, ne_eq, ← UInt64.toNat_inj]
  exact Nat.pos_iff_ne_zero

/-- The share of a thread is large enough exactly if the product is not too large: what the
quotient leaves over does not matter. -/
theorem least_le_share_iff {s : Settings} (threads : s.writerThreads ≠ 0) :
    15000000 ≤ s.writerBufferSize / s.writerThreads
      ↔ leastBuffer * s.writerThreads.toNat ≤ s.writerBufferSize.toNat := by
  rw [UInt64.le_iff_toNat_le, UInt64.toNat_div]
  exact Nat.le_div_iff_mul_le (toNat_threads_pos threads)

/-- **The check is exact.**  Settings pass exactly if the name has a character that is no
white space, the queue has a place, there is a thread, and the share of a thread, rounded
down, is the least buffer or more.  That the threads are too many is said only if their
product with the least buffer is more than every buffer there can be.  All this can be
done with words; and whatever the settings are, there is an answer, which is about the
first test that they do not pass. -/
theorem check_exact (s : Settings) :
    (s.check = .ok () ↔
        (∃ c ∈ s.name.toList, Text.isWhite c = false) ∧ 1 ≤ s.queueSize ∧ 1 ≤ s.writerThreads
          ∧ 15000000 ≤ s.writerBufferSize / s.writerThreads)
      ∧ (s.check = .error (.tooManyThreads s.writerThreads.toNat) ↔
        (∃ c ∈ s.name.toList, Text.isWhite c = false) ∧ 1 ≤ s.queueSize
          ∧ ∀ buffer : UInt64, buffer.toNat < 15000000 * s.writerThreads.toNat)
      ∧ s.check = s.checkByWords
      ∧ s.Verdict s.check := by
  refine ⟨?_, ?_, s.check_eq_checkByWords, s.verdict_check⟩
  · rw [check_ok_iff, isBlank_eq_false_iff, one_le_iff, one_le_iff]
    refine and_congr_right fun _ => and_congr_right fun _ => and_congr_right fun threads => ?_
    exact (least_le_share_iff threads).symm
  · rw [check_tooManyThreads_iff, isBlank_eq_false_iff, one_le_iff, size_le_iff]
    rfl

-- one thread less, and the product is a word
example : check { writerBufferSize := 18446744073709551615, writerThreads := 1229782938248 }
    = .error (.tooManyThreads 1229782938248) := by rfl

end Settings

end WritePath
