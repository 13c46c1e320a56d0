import WritePath.Decimal.Binary64
import WritePath.Json.Reader
import WritePath.Moment
import WritePath.Toml.Table

/-!
# Numbers, truth values and moments of the settings format

A scalar without quotes is a run of characters that ends before white space or punctuation; a date and a
time may be joined by one space.  `scalar?` says what such a run means, if it means anything.

A whole number has at most 128 bits, with or without a sign.  A decimal number is checked for its form and
for being finite.  A moment is checked for being one of the calendar: the day must occur in the month of that
year, the seconds may be left out, and the sixtieth second of any minute is allowed because of leap seconds.
-/

namespace WritePath.Toml

/-! ## Digits with underscores between them -/

/-- Digits of one base with single underscores between them: the digits alone.  `first` says that the
next character must be a digit. -/
def spread (isDigit : Char → Bool) : (first : Bool) → List Char → Option (List Char)
  | first, [] => if first then none else some []
  | first, c :: rest =>
    if isDigit c then (spread isDigit false rest).map (c :: ·)
    else if c == '_' && !first then spread isDigit true rest
    else none

def isOctal (c : Char) : Bool := '0' ≤ c && c ≤ '7'

def isBinary (c : Char) : Bool := c == '0' || c == '1'

/-- A hexadecimal digit in either case. -/
def isHex (c : Char) : Bool := (Json.hexDigit? c).isSome

/-- The number that digits of a base spell. -/
def positional (base : Nat) (digits : List Char) : Nat :=
  digits.foldl (fun n c => n * base + (Json.hexDigit? c).getD 0) 0

/-- The digits before a point or an exponent: no zero stands before another digit. -/
def wholeDigits? (cs : List Char) : Option (List Char) :=
  match cs with
  | '0' :: _ :: _ => none
  | _ => spread Char.isDigit true cs

/-- Takes a sign off: is it negative, and the rest. -/
def signed : List Char → Bool × List Char
  | '-' :: rest => (true, rest)
  | '+' :: rest => (false, rest)
  | rest => (false, rest)

/-! ## Numbers -/

/-- The whole number in one of the four bases that a run spells, of any size. -/
def integer? (cs : List Char) : Option Int :=
  match cs with
  | '0' :: 'x' :: rest => (spread isHex true rest).map (fun ds => (positional 16 ds : Int))
  | '0' :: 'o' :: rest => (spread isOctal true rest).map (fun ds => (positional 8 ds : Int))
  | '0' :: 'b' :: rest => (spread isBinary true rest).map (fun ds => (positional 2 ds : Int))
  | cs =>
    let (negative, cs) := signed cs
    (wholeDigits? cs).map fun ds =>
      let n : Int := positional 10 ds
      if negative then -n else n

/-- How many numbers 128 bits can tell apart. -/
def wordCount : Nat := UInt64.size * UInt64.size

/-- A whole number of at most 128 bits, one of which is the sign of a negative one. -/
def fits (i : Int) : Bool :=
  if 0 ≤ i then i.toNat < wordCount else i.natAbs ≤ wordCount / 2

/-- `digits * 10 ^ e` is above the largest finite number.  Only near that number is there something to
compute. -/
def overflows (digits : Nat) (e : Int) : Bool :=
  if digits = 0 then false
  else
    let top := (Nat.toDigits 10 digits).length + e
    if top ≤ 308 then false
    else if 311 ≤ top then true
    else match e with
      | .ofNat k => (Binary64.ofRatio false (digits * Binary64.tenTo k) 1).isNone
      | .negSucc k => (Binary64.ofRatio false digits (Binary64.tenTo (k + 1))).isNone

/-- Cuts a run of characters at the first one that satisfies `p`, which is in neither part. -/
def cutAt (p : Char → Bool) (cs : List Char) : List Char × Option (List Char) :=
  match cs.dropWhile (fun c => !p c) with
  | [] => (cs, none)
  | _ :: rest => (cs.takeWhile (fun c => !p c), some rest)

/-- The value of an exponent: digits with an optional sign, zeros in front being allowed. -/
def exponent? (cs : List Char) : Option Int :=
  let (negative, cs) := signed cs
  (spread Char.isDigit true cs).map fun ds =>
    let n : Int := positional 10 ds
    if negative then -n else n

/-- Is this a finite number with a fraction or an exponent, or one of the two that are not finite? -/
def isDecimal (cs : List Char) : Bool :=
  let (_, cs) := signed cs
  if cs = ['i', 'n', 'f'] || cs = ['n', 'a', 'n'] then true
  else
    let (mantissa, exponent) := cutAt (fun c => c == 'e' || c == 'E') cs
    let (whole, fraction) := cutAt (· == '.') mantissa
    let parts : Option (List Char × List Char × Int) := do
      let whole ← wholeDigits? whole
      let fraction ← match fraction with
        | some ds => spread Char.isDigit true ds
        | none => some []
      let e ← match exponent with
        | some ds => exponent? ds
        | none => some 0
      return (whole, fraction, e)
    match parts with
    | some (whole, fraction, e) =>
      (fraction ≠ [] || exponent.isSome)
        && !overflows (positional 10 (whole ++ fraction)) (e - fraction.length)
    | none => false

/-! ## Moments -/

def date? (cs : List Char) : Option (List Char) :=
  (Moment.day? cs).map (·.2)

/-- Passes over the seconds of a time, if there are any. -/
def seconds? (cs : List Char) : Option (List Char) :=
  match cs with
  | ':' :: _ => (Moment.seconds? cs).map (·.2.2)
  | _ => some cs

/-- Passes over a time. -/
def time? (cs : List Char) : Option (List Char) := do
  let (_, cs) ← Moment.clock? cs
  seconds? cs

/-- Passes over the distance of a time from the common one, if there is any. -/
def zone? (cs : List Char) : Option (List Char) :=
  match cs with
  | [] => some []
  | _ :: _ => (Moment.zone? cs).map (·.2)

def isMoment (cs : List Char) : Bool :=
  match time? cs with
  | some rest => rest.isEmpty
  | none =>
    match date? cs with
    | none => false
    | some [] => true
    | some (c :: rest) =>
      (c == 'T' || c == 't' || c == ' ') && ((time? rest).bind zone?) == some []

/-! ## Scalars -/

/-- What a run of characters means. -/
def scalar? (cs : List Char) : Option Value :=
  if cs = "true".toList || cs = "false".toList then some .truth
  else match integer? cs with
    | some i => if fits i then some (.integer i) else none
    | none =>
      if isDecimal cs then some .decimal
      else if isMoment cs then some .moment
      else none

/-- A character that belongs to a run. -/
def isRun (c : Char) : Bool :=
  !(c == ' ' || c == '\t' || c == '\n' || c == '\r' || c == ',' || c == ']' || c == '\x7d'
    || c == '#' || c == '=' || c == '[' || c == '\x7b' || c == '"' || c == '\'')

/-- The run at the front of a text, with the rest.  After a date one space and a digit go on with the
run. -/
def run (cs : List Char) : List Char × List Char :=
  let first := cs.takeWhile isRun
  match cs.dropWhile isRun with
  | ' ' :: d :: rest =>
    if d.isDigit && date? first == some [] then
      (first ++ ' ' :: (d :: rest).takeWhile isRun, (d :: rest).dropWhile isRun)
    else (first, ' ' :: d :: rest)
  | rest => (first, rest)

def readScalar (cs : List Char) : Option (Value × List Char) :=
  (scalar? (run cs).1).map (·, (run cs).2)

example : (["0x1F", "1_000", "-0", "007", "1__0", "0X1"].map (fun s => integer? s.toList))
    = [some 31, some 1000, some 0, none, none, none] := by decide +kernel

example : [340282366920938463463374607431768211455, -170141183460469231731687303715884105728].all fits
    && !([340282366920938463463374607431768211456, -170141183460469231731687303715884105729].any fits) := by
  decide +kernel

example : (["1.", "1e400", "1e-400", "1_0.5e+07", "nan", ".5"].map (fun s => isDecimal s.toList))
    = [false, false, true, true, true, false] := by decide +kernel

example : (["1979-05-27", "1979-13-01", "2001-02-29", "07:32", "1979-05-27 07:32:60Z", "07:32Z"].map
    (fun s => isMoment s.toList)) = [true, false, false, true, true, false] := by decide +kernel

end WritePath.Toml
