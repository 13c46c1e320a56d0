import WritePath.Json.Value

/-!
# Reading JSON text

A recursive-descent reader over the characters of a text.  Each reader takes the characters that are
left and answers what it read together with what is left after it, or nothing if the text is not of
its form.

Three rules of the format are decided here.

* *Nesting.*  A reader carries the number of containers it may still enter; at zero a bracket is an
  error, however well formed the text is.
* *Numbers.*  A number without fraction and exponent is an integer if it fits (`-0` does not: it has a
  sign that an integer cannot keep).  Any other number is scaled from its leading digits: digits are
  taken as long as the significand stays below `2 ^ 64`, later digits only move the exponent
  (`Number.significand`), and a number too large for a finite result is an error.
* *Duplicates.*  Of two members with one name the later one stays.  Where duplicates matter the members can be
  kept as they stand (`gather`).

`skip` passes over a value without building it.  It checks the grammar alone: nesting has no limit, a
number has no size, and an escape may name half a surrogate pair, because nothing of the value is kept.

The recursion is on `fuel`, which the callers set to twice the length of the text: every bracket costs
two steps and every comma one, so it never runs out on a text that has the form asked for.
-/

namespace WritePath.Json

/-- White space between the tokens: space, tab, line feed, carriage return. -/
def isSpace (c : Char) : Bool :=
  c == ' ' || c == '\t' || c == '\n' || c == '\r'

def skipSpace (cs : List Char) : List Char :=
  cs.dropWhile isSpace

/-! ## Strings -/

def hexDigit? (c : Char) : Option Nat :=
  if '0' ≤ c && c ≤ '9' then some (c.toNat - '0'.toNat)
  else if 'a' ≤ c && c ≤ 'f' then some (c.toNat - 'a'.toNat + 10)
  else if 'A' ≤ c && c ≤ 'F' then some (c.toNat - 'A'.toNat + 10)
  else none

def unit? (a b c d : Char) : Option Nat := do
  let a ← hexDigit? a
  let b ← hexDigit? b
  let c ← hexDigit? c
  let d ← hexDigit? d
  return ((a * 16 + b) * 16 + c) * 16 + d

/-- The first half of a surrogate pair. -/
def isHigh (u : Nat) : Bool := 0xD800 ≤ u && u < 0xDC00

/-- The second half of a surrogate pair. -/
def isLow (u : Nat) : Bool := 0xDC00 ≤ u && u < 0xE000

def pairChar (high low : Nat) : Char :=
  Char.ofNat (0x10000 + (high - 0xD800) * 0x400 + (low - 0xDC00))

def shortEscape? : Char → Option Char
  | '"' => some '"'
  | '\\' => some '\\'
  | '/' => some '/'
  | 'b' => some '\x08'
  | 'f' => some '\x0c'
  | 'n' => some '\n'
  | 'r' => some '\r'
  | 't' => some '\t'
  | _ => none

/-- Reads the inside of a string up to and including the closing quote. -/
def readString : List Char → Option (List Char × List Char)
  | [] => none
  | '"' :: rest => some ([], rest)
  | '\\' :: 'u' :: a :: b :: c :: d :: rest => do
    let u ← unit? a b c d
    if isLow u then none
    else if isHigh u then
      match rest with
      | '\\' :: 'u' :: e :: f :: g :: h :: rest =>
        let low ← unit? e f g h
        if isLow low then
          let (s, left) ← readString rest
          return (pairChar u low :: s, left)
        else none
      | _ => none
    else
      let (s, left) ← readString rest
      return (Char.ofNat u :: s, left)
  | '\\' :: c :: rest => do
    let c ← shortEscape? c
    let (s, left) ← readString rest
    return (c :: s, left)
  | c :: rest =>
    if c.toNat < 0x20 || c == '\\' then none
    else do
      let (s, left) ← readString rest
      return (c :: s, left)

/-- Passes over the inside of a string; an escape needs its digits but may name no character. -/
def skipString : List Char → Option (List Char)
  | [] => none
  | '"' :: rest => some rest
  | '\\' :: 'u' :: a :: b :: c :: d :: rest => do
    let _ ← unit? a b c d
    skipString rest
  | '\\' :: c :: rest => do
    let _ ← shortEscape? c
    skipString rest
  | c :: rest => if c.toNat < 0x20 || c == '\\' then none else skipString rest

/-! ## Numbers -/

/-- The parts of a number as it is written. -/
structure Number where
  negative : Bool
  /-- The digits before the point. -/
  whole : List Char
  /-- The digits after the point, if there is one. -/
  fraction : Option (List Char)
  /-- The exponent, if there is one. -/
  exponent : Option Int

/-- The digits at the front of a text, and the rest. -/
def digits (cs : List Char) : List Char × List Char :=
  (cs.takeWhile Char.isDigit, cs.dropWhile Char.isDigit)

def readFraction (cs : List Char) : Option (Option (List Char) × List Char) :=
  match cs with
  | '.' :: rest =>
    match digits rest with
    | ([], _) => none
    | (ds, rest) => some (some ds, rest)
  | _ => some (none, cs)

def readExponentDigits (negative : Bool) (cs : List Char) : Option (Option Int × List Char) :=
  match digits cs with
  | ([], _) => none
  | (ds, rest) =>
    let n : Int := Nat.ofDigitChars 10 ds 0
    some (some (if negative then -n else n), rest)

def readExponent (cs : List Char) : Option (Option Int × List Char) :=
  match cs with
  | c :: rest =>
    if c == 'e' || c == 'E' then
      match rest with
      | '-' :: rest => readExponentDigits true rest
      | '+' :: rest => readExponentDigits false rest
      | rest => readExponentDigits false rest
    else some (none, cs)
  | [] => some (none, cs)

/-- Reads the digits before the point: a zero has none after it. -/
def readWhole (cs : List Char) : Option (List Char × List Char) :=
  match digits cs with
  | ([], _) => none
  | ('0' :: _ :: _, _) => none
  | (ds, rest) => some (ds, rest)

def readNumber (cs : List Char) : Option (Number × List Char) := do
  let (negative, cs) := match cs with
    | '-' :: rest => (true, rest)
    | cs => (false, cs)
  let (whole, cs) ← readWhole cs
  let (fraction, cs) ← readFraction cs
  let (exponent, cs) ← readExponent cs
  return (⟨negative, whole, fraction, exponent⟩, cs)

/-- Appends digits to a significand as long as it stays below `2 ^ 64`; also the number of digits that
found room. -/
def absorb : Nat → List Char → Nat × Nat
  | n, [] => (n, 0)
  | n, d :: rest =>
    let next := n * 10 + (d.toNat - '0'.toNat)
    if next < 18446744073709551616 then
      let (m, taken) := absorb next rest
      (m, taken + 1)
    else (n, 0)

/-- The significand of a number and the power of ten that goes with it. -/
def Number.significand (n : Number) : Nat × Int :=
  let (m, taken) := absorb 0 n.whole
  let dropped := n.whole.length - taken
  let (m, places) := absorb m (n.fraction.getD [])
  (m, (dropped : Int) - places + n.exponent.getD 0)

def Number.integer (n : Number) : Int :=
  let m : Int := Nat.ofDigitChars 10 n.whole 0
  if n.negative then -m else m

/-- The value of a number, unless it is too large. -/
def Number.value (n : Number) : Option Value :=
  if n.fraction.isNone && n.exponent.isNone && Value.fits n.integer
      && !(n.negative && n.integer == 0) then
    some (.int n.integer)
  else
    let (m, e) := n.significand
    (Binary64.scaled n.negative m e).map .float

/-! ## Values -/

section Values

variable (gather : List (String × Value) → List (String × Value))

mutual

/-- Reads a value, entering at most `room` containers; `gather` makes an object of its members in the order of
the text. -/
def readValue : Nat → Nat → List Char → Option (Value × List Char)
  | 0, _, _ => none
  | fuel + 1, room, cs =>
    match skipSpace cs with
    | 'n' :: 'u' :: 'l' :: 'l' :: rest => some (.null, rest)
    | 't' :: 'r' :: 'u' :: 'e' :: rest => some (.bool true, rest)
    | 'f' :: 'a' :: 'l' :: 's' :: 'e' :: rest => some (.bool false, rest)
    | '"' :: rest => (readString rest).map (fun r => (.string (String.ofList r.1), r.2))
    | '[' :: rest =>
      match room with
      | 0 => none
      | room + 1 =>
        match skipSpace rest with
        | ']' :: rest => some (.array [], rest)
        | rest => (readItems fuel room rest).map (fun r => (.array r.1, r.2))
    | '\x7b' :: rest =>
      match room with
      | 0 => none
      | room + 1 =>
        match skipSpace rest with
        | '\x7d' :: rest => some (.object [], rest)
        | rest =>
          (readMembers fuel room rest).map (fun r => (.object (gather r.1), r.2))
    | cs => (readNumber cs).bind (fun r => r.1.value.map (·, r.2))

/-- Reads the items of an array that is not empty, up to and including the closing bracket. -/
def readItems : Nat → Nat → List Char → Option (List Value × List Char)
  | 0, _, _ => none
  | fuel + 1, room, cs =>
    (readValue fuel room cs).bind fun (v, rest) =>
      match skipSpace rest with
      | ']' :: rest => some ([v], rest)
      | ',' :: rest => (readItems fuel room rest).map (fun r => (v :: r.1, r.2))
      | _ => none

/-- Reads the members of an object that is not empty, in the order of the text, up to and including the
closing brace. -/
def readMembers : Nat → Nat → List Char → Option (List (String × Value) × List Char)
  | 0, _, _ => none
  | fuel + 1, room, cs =>
    match skipSpace cs with
    | '"' :: rest =>
      (readString rest).bind fun (key, rest) =>
        match skipSpace rest with
        | ':' :: rest =>
          (readValue fuel room rest).bind fun (v, rest) =>
            match skipSpace rest with
            | '\x7d' :: rest => some ([(String.ofList key, v)], rest)
            | ',' :: rest =>
              (readMembers fuel room rest).map (fun r => ((String.ofList key, v) :: r.1, r.2))
            | _ => none
        | _ => none
    | _ => none

end

end Values

mutual

/-- Passes over a value of any nesting. -/
def skip : Nat → List Char → Option (List Char)
  | 0, _ => none
  | fuel + 1, cs =>
    match skipSpace cs with
    | 'n' :: 'u' :: 'l' :: 'l' :: rest => some rest
    | 't' :: 'r' :: 'u' :: 'e' :: rest => some rest
    | 'f' :: 'a' :: 'l' :: 's' :: 'e' :: rest => some rest
    | '"' :: rest => skipString rest
    | '[' :: rest =>
      match skipSpace rest with
      | ']' :: rest => some rest
      | rest => skipItems fuel rest
    | '\x7b' :: rest =>
      match skipSpace rest with
      | '\x7d' :: rest => some rest
      | rest => skipMembers fuel rest
    | cs => (readNumber cs).map (·.2)

def skipItems : Nat → List Char → Option (List Char)
  | 0, _ => none
  | fuel + 1, cs =>
    (skip fuel cs).bind fun rest =>
      match skipSpace rest with
      | ']' :: rest => some rest
      | ',' :: rest => skipItems fuel rest
      | _ => none

def skipMembers : Nat → List Char → Option (List Char)
  | 0, _ => none
  | fuel + 1, cs =>
    match skipSpace cs with
    | '"' :: rest =>
      (skipString rest).bind fun rest =>
        match skipSpace rest with
        | ':' :: rest =>
          (skip fuel rest).bind fun rest =>
            match skipSpace rest with
            | '\x7d' :: rest => some rest
            | ',' :: rest => skipMembers fuel rest
            | _ => none
        | _ => none
    | _ => none

end

def fuelFor (cs : List Char) : Nat :=
  2 * cs.length + 2

/-- What was read, if nothing but white space is left after it. -/
def whole {α : Type} : Option (α × List Char) → Option α
  | some (a, rest) => if (skipSpace rest).isEmpty then some a else none
  | none => none

def Value.read? (s : String) : Option Value :=
  whole (readValue Keyed.ofList (fuelFor s.toList) nestingLimit s.toList)

example : Value.read? " [1, -0, 2.5e1]"
    = some (.array [.int 1, .float ⟨0x8000000000000000⟩, .float ⟨0x4039000000000000⟩]) := by
  decide +kernel

example : ["01", "1.", "[1,]", "\"\\ud800\"", "1e400", ""].all (fun s => (Value.read? s).isNone) := by
  decide +kernel

end WritePath.Json
