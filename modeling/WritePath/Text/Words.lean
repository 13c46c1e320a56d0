import WritePath.Text.Alphanumeric
import WritePath.Text.LowerCase
import WritePath.Text.Stem

/-!
# Words of a text

An index finds a text by its words, and what the words of a text are is decided by its *analysis*.  There are
four: a text can be one word as a whole, it can be cut at white space, and it can be taken as runs of letters
and digits in small letters, with or without the endings of English.
-/

namespace WritePath.Text

/-- The runs of characters with a property, without what lies between them; `fuel` is at least the length of
the text. -/
def runsWithin (p : Char → Bool) : (fuel : Nat) → List Char → List (List Char)
  | 0, _ => []
  | fuel + 1, cs =>
    match cs.dropWhile (fun c => !p c) with
    | [] => []
    | c :: rest => (c :: rest).takeWhile p :: runsWithin p fuel ((c :: rest).dropWhile p)

/-- The runs of characters with a property. -/
def runs (p : Char → Bool) (cs : List Char) : List (List Char) :=
  runsWithin p cs.length cs

/-- How a text is cut into words. -/
inductive Analysis where
  /-- The text is one word, even if it is empty. -/
  | whole
  /-- What stands between white space of ASCII. -/
  | spaced
  /-- Runs of letters and digits in small letters, but for the long ones. -/
  | plain
  /-- The stems of the runs of letters and digits; `bounded` leaves out the long runs. -/
  | stems (bounded : Bool)
  deriving DecidableEq, Repr

namespace Analysis

/-- White space of ASCII that ends a word. -/
def isSpace (c : Char) : Bool :=
  c == ' ' || c == '\t' || c == '\n' || c == '\x0c' || c == '\r'

/-- A run with so many bytes is long. -/
def longRun : Nat := 40

def isModest (cs : List Char) : Bool :=
  (String.ofList cs).utf8ByteSize < longRun

/-- The words of a text, repeated as often as they occur. -/
def cut : Analysis → List Char → List (List Char)
  | .whole, cs => [cs]
  | .spaced, cs => runs (fun c => !isSpace c) cs
  | .plain, cs => ((runs isAlphanumeric cs).filter isModest).map lower
  | .stems bounded, cs =>
    ((runs isAlphanumeric cs).filter (fun w => !bounded || isModest w)).map (fun w => stem (lower w))

/-- The greatest number of bytes of a word that an index takes. -/
def longestWord : Nat := 65530

def words (a : Analysis) (s : String) : List String :=
  ((a.cut s.toList).map String.ofList).filter (fun w => w.utf8ByteSize ≤ longestWord)

example : plain.words "Hello, World! x2" = ["hello", "world", "x2"] := by decide +kernel

example : spaced.words " a-b\tc " = ["a-b", "c"] := by decide +kernel

example : (stems false).words "Running runs" = ["run", "run"] := by decide +kernel

end Analysis

end WritePath.Text
