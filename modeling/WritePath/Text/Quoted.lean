import WritePath.Text.Hidden

/-!
# Text in diagnostics

A diagnostic shows a text between double quotes so that no character of it can be misread.  Line feed,
carriage return, tab, NUL, the backslash and the double quote have a short spelling; any other
character that does not show is spelled by its number in braces; all else, the single quote included,
stands as it is.

`record`, `option` and `list` put the parts of a diagnostic together, so that each type has its form
in one line beside it.

An `interval` of time is a number of whole milliseconds.  Below one second the text is this number; from one
second on it is the number of seconds, with the milliseconds as a fraction that has no trailing zero.
The empty interval is written in the smallest unit there is.
-/

namespace WritePath.Text

/-- One character inside the quotes. -/
def quotedChar (c : Char) : List Char :=
  match c with
  | '\x00' => ['\\', '0']
  | '\t' => ['\\', 't']
  | '\r' => ['\\', 'r']
  | '\n' => ['\\', 'n']
  | '\\' => ['\\', '\\']
  | '"' => ['\\', '"']
  | c =>
    if isHidden c then ['\\', 'u', '\x7b'] ++ Nat.toDigits 16 c.toNat ++ ['\x7d']
    else [c]

def quoted (s : String) : String :=
  String.ofList (['"'] ++ s.toList.flatMap quotedChar ++ ['"'])

/-- A named record with its fields in order; `more` says that there are fields it does not show. -/
def record (name : String) (fields : List (String × String)) (more : Bool) : String :=
  let shown := fields.map (fun f => f.1 ++ ": " ++ f.2)
  let parts := if more then shown ++ [".."] else shown
  name ++ " \x7b " ++ ", ".intercalate parts ++ " \x7d"

/-- A value that may be absent. -/
def option : Option String → String
  | none => "None"
  | some s => "Some(" ++ s ++ ")"

def list (items : List String) : String :=
  "[" ++ ", ".intercalate items ++ "]"

/-! ## Intervals of time -/

def dropTrailingZeros (cs : List Char) : List Char :=
  (cs.reverse.dropWhile (· == '0')).reverse

def threeDigits (n : Nat) : List Char :=
  [n / 100 % 10, n / 10 % 10, n % 10].map Nat.digitChar

/-- The text of an interval of `ms` milliseconds. -/
def interval (ms : Nat) : String :=
  if ms = 0 then "0ns"
  else if ms < 1000 then toString ms ++ "ms"
  else
    let fraction := dropTrailingZeros (threeDigits (ms % 1000))
    let tail := if fraction.isEmpty then [] else '.' :: fraction
    toString (ms / 1000) ++ String.ofList tail ++ "s"

example : [0, 7, 999, 1000, 1500, 1234, 3600000].map interval
    = ["0ns", "7ms", "999ms", "1s", "1.5s", "1.234s", "3600s"] := by decide +kernel

end WritePath.Text
