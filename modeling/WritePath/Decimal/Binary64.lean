/-!
# Binary floating point of sixty-four bits

A `Binary64` is the sixty-four bits of a finite number in the interchange format: one bit of sign,
eleven of exponent, fifty-two of significand.  Everything here is exact arithmetic on natural numbers,
so that what is rounded, and where, can be read off the definitions.

* `ofRatio` rounds a quotient of natural numbers to the nearest representable magnitude, a tie to the
  even neighbour; it answers `none` above the largest finite number.
* `scaled` multiplies or divides by a power of ten *after* both operands have been rounded.  This is
  not the nearest number to the decimal meant by the two operands: a reader that works in this way is
  off by a unit in the last place for some inputs.  It is the reading that the document format fixes.
-/

namespace WritePath

/-- The bits of a finite number. -/
structure Binary64 where
  bits : UInt64
  deriving DecidableEq, Inhabited

namespace Binary64

/-- A power of two.  The function on natural numbers is named, so that no other meaning of powers can
come in. -/
def twoTo (n : Nat) : Nat := Nat.pow 2 n

def tenTo (n : Nat) : Nat := Nat.pow 10 n

/-- `2 ^ 52`: the smallest significand with all its bits. -/
def unit : Nat := twoTo 52

/-- The number of bits of a positive number; zero has none. -/
def width (n : Nat) : Nat :=
  if n = 0 then 0 else n.log2 + 1

/-- The quotient rounded to the nearest natural number, a tie to the even one. -/
def roundDiv (num den : Nat) : Nat :=
  let q := num / den
  let r := num % den
  if 2 * r < den then q else if den < 2 * r then q + 1 else q + q % 2

/-- The magnitude `m * 2 ^ (e - 1074)` for a significand below `2 ^ 53`; `e` is zero for the numbers
without a leading bit. -/
def pack (m e : Nat) : UInt64 :=
  if m < unit then UInt64.ofNat m
  else UInt64.ofNat ((e + 1) * unit + (m - unit))

/-- The smallest exponent `e` such that `num / den` in units of `2 ^ (e - 1074)` is below `2 ^ 53`, or
one less: `width` bounds the quotient from both sides. -/
def scaleOf (num den : Nat) : Nat :=
  width num + 1074 - (width den + 53)

/-- `num / den` in units of `2 ^ (e - 1074)`, rounded. -/
def inUnits (num den e : Nat) : Nat :=
  if e < 1074 then roundDiv (num * twoTo (1074 - e)) den else roundDiv num (den * twoTo (e - 1074))

/-- The magnitude nearest to `num / den`; `none` when that is not finite. -/
def magnitude (num den : Nat) : Option UInt64 :=
  let e₀ := scaleOf num den
  -- The estimate may be one too small; then the significand has a bit too many.
  let e := if inUnits num den e₀ < 2 * unit then e₀ else e₀ + 1
  let m := inUnits num den e
  let (m, e) := if m = 2 * unit then (unit, e + 1) else (m, e)
  if 2045 < e then none else some (pack m e)

def withSign (negative : Bool) (b : UInt64) : Binary64 :=
  ⟨if negative then b ||| 0x8000000000000000 else b⟩

/-- The number nearest to `num / den` with the given sign. -/
def ofRatio (negative : Bool) (num den : Nat) : Option Binary64 :=
  (magnitude num den).map (withSign negative)

def isNegative (x : Binary64) : Bool :=
  x.bits &&& 0x8000000000000000 != 0

/-- The significand `m` and exponent `e` of a finite number: its magnitude is
`m * 2 ^ (e - 1074)`. -/
def parts (x : Binary64) : Nat × Nat :=
  let magnitude := (x.bits &&& 0x7FFFFFFFFFFFFFFF).toNat
  let e := magnitude / unit
  let m := magnitude % unit
  if e = 0 then (m, 0) else (unit + m, e - 1)

/-- The magnitude as a quotient of natural numbers. -/
def ratio (x : Binary64) : Nat × Nat :=
  let (m, e) := x.parts
  if e < 1074 then (m, twoTo (1074 - e)) else (m * twoTo (e - 1074), 1)

/-- A natural number, rounded.  The argument of every call is far below the largest finite number. -/
def ofNat (n : Nat) : Binary64 :=
  (ofRatio false n 1).getD ⟨0⟩

/-- A power of ten, rounded; meant for exponents up to 308. -/
def powerOfTen (k : Nat) : Binary64 :=
  ofNat (tenTo k)

def mul (x y : Binary64) : Option Binary64 :=
  let (a, b) := x.ratio
  let (c, d) := y.ratio
  ofRatio (x.isNegative != y.isNegative) (a * c) (b * d)

def div (x y : Binary64) : Option Binary64 :=
  let (a, b) := x.ratio
  let (c, d) := y.ratio
  ofRatio (x.isNegative != y.isNegative) (a * d) (b * c)

/-- Divides by ten to the power `k`, at most 308 places at a time; `turns` bounds the number of
divisions. -/
def dividePower : Nat → Binary64 → Nat → Option Binary64
  | 0, x, _ => some x
  | turns + 1, x, k =>
    if x.parts.1 = 0 then some x
    else if k ≤ 308 then x.div (powerOfTen k)
    else (x.div (powerOfTen 308)).bind (fun y => dividePower turns y (k - 308))

/-- `significand * 10 ^ exponent`, the significand and the power of ten being rounded before they are
combined.  `none` when the result is not finite. -/
def scaled (negative : Bool) (significand : Nat) (exponent : Int) : Option Binary64 :=
  let x := ofNat significand
  let y :=
    match exponent with
    | .ofNat k =>
      if k ≤ 308 then x.mul (powerOfTen k) else if significand = 0 then some x else none
    | .negSucc k => dividePower 5 x (k + 1)
  y.map (fun y => withSign negative y.bits)

/-- The bits as sixteen hexadecimal digits. -/
def hex (x : Binary64) : String :=
  let digits := Nat.toDigits 16 x.bits.toNat
  String.ofList (List.replicate (16 - digits.length) '0' ++ digits)

example : (ofNat 1).bits = 0x3FF0000000000000 := by decide +kernel
example : (scaled false 1 23).map (·.bits) = some 0x44B52D02C7E14AF6 := by decide +kernel
example : (scaled true 0 0).map (·.bits) = some 0x8000000000000000 := by decide +kernel
example : scaled false 1 309 = none := by decide +kernel
example : (scaled false 5 (-324)).map (·.bits) = some 1 := by decide +kernel

end Binary64

end WritePath
