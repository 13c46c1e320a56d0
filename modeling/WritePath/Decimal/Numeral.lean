import WritePath.Json.Reader

/-!
# Numbers as texts

Numbers that stand alone in a text, as a field of numbers takes them.  A whole number is a sign, which may be
left out, and digits, leading zeros included, and it must fit in sixty-four bits.  A decimal number has digits
on at least one side of its point, and is read as the nearest binary number; beyond the greatest one that is
infinity, which can also be written in letters, as can the absence of a number.
-/

namespace WritePath.Numeral

def digits? (cs : List Char) : Option Nat :=
  if !cs.isEmpty && cs.all Char.isDigit then some (Nat.ofDigitChars 10 cs 0) else none

/-- The number without sign that a text spells; a plus is no sign. -/
def natural? (s : String) : Option Nat :=
  let number := match s.toList with
    | '+' :: rest => digits? rest
    | cs => digits? cs
  number.filter (· < UInt64.size)

def integer? (s : String) : Option Int :=
  let number : Option Int := match s.toList with
    | '+' :: rest => (digits? rest).map Int.ofNat
    | '-' :: rest => (digits? rest).map (fun n => -Int.ofNat n)
    | cs => (digits? cs).map Int.ofNat
  number.filter (fun i => -9223372036854775808 ≤ i && i < 9223372036854775808)

def truth? (s : String) : Option Bool :=
  if s = "true" then some true else if s = "false" then some false else none

/-! ## Decimal numbers -/

def infinity : UInt64 := 0x7FF0000000000000

def noNumber : UInt64 := 0x7FF8000000000000

/-- The magnitude nearest to the digits times a power of ten.  A number far outside the range is not
computed. -/
def nearest (ds : List Char) (exponent : Int) : UInt64 :=
  let n := Nat.ofDigitChars 10 ds 0
  let leading := (ds.dropWhile (· == '0')).length + exponent
  if n = 0 || leading < -400 then 0
  else if 400 < leading then infinity
  else match exponent with
    | .ofNat k => (Binary64.magnitude (n * Binary64.tenTo k) 1).getD infinity
    | .negSucc k => (Binary64.magnitude n (Binary64.tenTo (k + 1))).getD infinity

/-- The magnitude that digits with a point and an exponent spell. -/
def magnitude? (cs : List Char) : Option UInt64 :=
  let (whole, rest) := Json.digits cs
  let (fraction, rest) := match rest with
    | '.' :: rest => Json.digits rest
    | rest => ([], rest)
  if whole.isEmpty && fraction.isEmpty then none
  else match Json.readExponent rest with
    | some (exponent, []) => some (nearest (whole ++ fraction) (exponent.getD 0 - fraction.length))
    | _ => none

def decimal? (s : String) : Option UInt64 :=
  let (negative, cs) := match s.toList with
    | '-' :: rest => (true, rest)
    | '+' :: rest => (false, rest)
    | cs => (false, cs)
  let word := String.ofList (cs.map Char.toLower)
  let magnitude :=
    if word = "inf" || word = "infinity" then some infinity
    else if word = "nan" then some noNumber
    else magnitude? cs
  magnitude.map (fun m => (Binary64.withSign negative m).bits)

example : ["1.5", "1.", ".5", "+2e1", "-0", "1e999", "-INF", "NaN"].map decimal?
    = [some 0x3FF8000000000000, some 0x3FF0000000000000, some 0x3FE0000000000000, some 0x4034000000000000,
      some 0x8000000000000000, some infinity, some 0xFFF0000000000000, some noNumber] := by decide +kernel

example : ["", ".", "e5", "1e", "1e+", "1_0", " 1", "+-1", "infinit"].all (fun s => (decimal? s).isNone) = true := by
  decide +kernel

end WritePath.Numeral
