import WritePath.Decimal.Binary64

/-!
# The shortest decimal that reads back

The real numbers that round to a given `Binary64` form an interval around it, whose ends belong to it
exactly when the significand is even.  The shortest decimal is the one with the fewest digits in that
interval, and of those the nearest to the number itself.

The search goes through the grids of 1, 2, … 17 significant digits.  On each grid only the two
neighbours of the number need a look: if any point of the grid lies in the interval, one of them does.

`text` is how the document format writes the digits: plainly, with a point and at least one digit
after it, for a decimal exponent from `-5` to `15`, and otherwise with a signed exponent and no point
after a single digit.
-/

namespace WritePath.Binary64

/-- The interval of reals that round to a magnitude, scaled to natural numbers: the number is
`value / den`, the ends are `low / den` and `high / den`. -/
structure Rounding where
  low : Nat
  value : Nat
  high : Nat
  den : Nat
  /-- The ends round to the number too. -/
  closed : Bool

/-- The interval of `x`.  Below a power of two the neighbour is half as far as above it. -/
def rounding (x : Binary64) : Rounding :=
  let (m, e) := x.parts
  let below := if m = unit && 0 < e then 1 else 2
  let up := if e < 1074 then 1 else twoTo (e - 1074)
  let den := if e < 1074 then 4 * twoTo (1074 - e) else 4
  ⟨(4 * m - below) * up, 4 * m * up, (4 * m + 2) * up, den, m % 2 = 0⟩

/-- Does `n * 10 ^ k` lie in the interval? -/
def Rounding.holds (r : Rounding) (n : Nat) (k : Int) : Bool :=
  let (a, b) := match k with
    | .ofNat k => (n * tenTo k * r.den, 1)
    | .negSucc k => (n * r.den, tenTo (k + 1))
  if r.closed then r.low * b ≤ a && a ≤ r.high * b else r.low * b < a && a < r.high * b

/-- The largest multiple of `10 ^ k` that is not above the number, and the remainder as a quotient. -/
def Rounding.floor (r : Rounding) (k : Int) : Nat × Nat × Nat :=
  let (a, b) := match k with
    | .ofNat k => (r.value, r.den * tenTo k)
    | .negSucc k => (r.value * tenTo (k + 1), r.den)
  (a / b, a % b, b)

/-- The decimal exponent of the leading digit: an `e` with `10 ^ e ≤ value / den < 10 ^ (e + 1)`. -/
def Rounding.leading (r : Rounding) : Int :=
  if r.den ≤ r.value then ((Nat.toDigits 10 (r.value / r.den)).length : Int) - 1
  else
    -- The quotient is below one: with `d` digits of `den / value`, it is at least `10 ^ -d`.
    let d := (Nat.toDigits 10 (r.den / r.value)).length
    if r.value * tenTo (d - 1) = r.den then -((d : Int) - 1) else -(d : Int)

/-- The point of the grid with step `10 ^ k` that reads back, the nearer of two. -/
def Rounding.onGrid (r : Rounding) (k : Int) : Option Nat :=
  let (n, rest, whole) := r.floor k
  match r.holds n k, r.holds (n + 1) k with
  | true, true =>
    if 2 * rest < whole then some n
    else if whole < 2 * rest then some (n + 1)
    else some (n + n % 2)
  | true, false => some n
  | false, true => some (n + 1)
  | false, false => none

/-- The first grid with a hit, `left` more grids being allowed. -/
def Rounding.search (r : Rounding) : Nat → Int → Nat × Int
  | 0, k => ((r.floor k).1, k)
  | left + 1, k =>
    match r.onGrid k with
    | some n => (n, k)
    | none => search r left (k - 1)

/-- Moves the zeros at the end of `n` into the exponent. -/
def trim : Nat → Nat → Int → Nat × Int
  | 0, n, k => (n, k)
  | fuel + 1, n, k => if n % 10 = 0 && 0 < n then trim fuel (n / 10) (k + 1) else (n, k)

/-- The shortest decimal `n * 10 ^ k` that reads back as the magnitude of a number other than zero;
`n` does not end in the digit zero. -/
def shortest (x : Binary64) : Nat × Int :=
  let r := x.rounding
  let (n, k) := r.search 17 r.leading
  trim 400 n k

/-- The digits of a magnitude in plain or in exponent notation. -/
def digitsText (n : Nat) (k : Int) : List Char :=
  let digits := Nat.toDigits 10 n
  let count := digits.length
  let e : Int := k + count - 1
  if 0 ≤ k && e < 16 then digits ++ List.replicate k.toNat '0' ++ ['.', '0']
  else if 0 ≤ e && e < 16 then
    digits.take (e.toNat + 1) ++ ['.'] ++ digits.drop (e.toNat + 1)
  else if -5 ≤ e && e < 0 then
    ['0', '.'] ++ List.replicate (-e - 1).toNat '0' ++ digits
  else
    let mantissa := match digits with
      | d :: rest => if rest.isEmpty then [d] else d :: '.' :: rest
      | [] => []
    let sign := if e < 0 then '-' else '+'
    mantissa ++ ['e', sign] ++ Nat.toDigits 10 e.natAbs

/-- The text of a finite number in the document format. -/
def text (x : Binary64) : List Char :=
  let sign := if x.isNegative then ['-'] else []
  if x.parts.1 = 0 then sign ++ ['0', '.', '0']
  else sign ++ digitsText x.shortest.1 x.shortest.2

example : String.ofList (text (ofNat 100000)) = "100000.0" := by decide +kernel
example : String.ofList (text ⟨0x3FB999999999999A⟩) = "0.1" := by decide +kernel
example : String.ofList (text ⟨0x8000000000000001⟩) = "-5e-324" := by decide +kernel
example : String.ofList (text ⟨0x7FEFFFFFFFFFFFFF⟩) = "1.7976931348623157e+308" := by
  decide +kernel

end WritePath.Binary64
