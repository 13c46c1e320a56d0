import WritePath.Address
import WritePath.Decimal.Numeral
import WritePath.Engine
import WritePath.Moment
import WritePath.Schema.Field
import WritePath.Text.Base64

/-!
# Identifiers in fields

An identifier is a text.  A field of texts takes every one; a field of another type takes those that spell a
value of it, numbers and truth values only if the field is told to.

To find the documents with an identifier, an index looks it up among its *terms*.  The terms of a text are its
words, and the terms of a value are sequences of bytes: the identifier is not read as a value then, but
compared with them byte by byte.
-/

namespace WritePath

/-- What a document is found by. -/
inductive Terms where
  | words (l : List String)
  | codes (l : List (List UInt8))
  deriving DecidableEq, Repr

namespace Terms

def holds : Terms → String → Bool
  | .words l, s => l.contains s
  | .codes l, s => l.contains s.toUTF8.toList

/-- The bytes of a number of sixty-four bits, the greatest first. -/
def bytesOf (n : UInt64) : List UInt8 :=
  ([56, 48, 40, 32, 24, 16, 8, 0] : List UInt64).map (fun shift => (n >>> shift).toUInt8)

def signBit : UInt64 := 0x8000000000000000

/-- The number of sixty-four bits whose order among others is that of the whole number. -/
def orderOfInteger (i : Int) : UInt64 :=
  Int64.toUInt64 (Int64.ofInt i) ^^^ signBit

/-- The number of sixty-four bits whose order among others is that of the decimal number with these bits. -/
def orderOfDecimal (bits : UInt64) : UInt64 :=
  if bits &&& signBit = 0 then bits ^^^ signBit else ~~~bits

/-- The number of sixty-four bits for an instant in nanoseconds: those of a second that has begun do not count. -/
def orderOfInstant (nanos : Int) : UInt64 :=
  let second := Int64.ofNat Moment.nanosPerSecond
  orderOfInteger (Int64.ofInt nanos / second * second).toInt

end Terms

/-! ## Paths in a hierarchy -/

namespace Facet

/-- The names of a path, cut at strokes; a character after a backslash is no cut. -/
def names : List Char → List (List Char)
  | [] => [[]]
  | ['\\'] => [[]]
  | '\\' :: c :: rest =>
    match names rest with
    | name :: more => (c :: name) :: more
    | [] => [[c]]
  | c :: rest =>
    if c = '/' then [] :: names rest
    else match names rest with
      | name :: more => (c :: name) :: more
      | [] => [[c]]

/-- The names of a path with a zero character between them. -/
def encode (path : List Char) : List Char :=
  ['\x00'].intercalate (names path)

/-- The beginnings of a list that end before an item at which it is cut, and the list itself. -/
def beginnings (isCut : Char → Bool) : List Char → List (List Char)
  | [] => [[]]
  | c :: rest =>
    let more := (beginnings isCut rest).map (c :: ·)
    if isCut c then [] :: more else more

/-- The path and those above it, each as the text by which it is found: the top is the empty one.  A zero at the
beginning is no cut. -/
def terms (path : List Char) : List String :=
  match encode path with
  | [] => [""]
  | c :: rest => "" :: (beginnings (· == '\x00') rest).map (fun b => String.ofList (c :: b))

def isPath (s : String) : Bool :=
  s.startsWith "/"

/-- The terms of a path that begins with a stroke. -/
def termsOf (s : String) : List String :=
  terms (s.toList.drop 1)

example : termsOf "/a/b" = ["", "a", "a\x00b"] := by decide +kernel

example : termsOf "/a//b" = ["", "a", "a\x00", "a\x00\x00b"] := by decide +kernel

example : termsOf "/" = [""] := by decide +kernel

end Facet

/-! ## Fields -/

namespace Field

/-- The field takes a value if it is told to read texts. -/
def coerced {α : Type} (f : Field) (value : Option α) : Reception :=
  if f.options.coerce && value.isSome then .taken else .refused

/-- How a field takes an identifier. -/
def receptionOf (f : Field) (id : String) : Reception :=
  match f.type with
  | .text => .taken
  | .natural => f.coerced (Numeral.natural? id)
  | .integer => f.coerced (Numeral.integer? id)
  | .decimal => f.coerced (Numeral.decimal? id)
  | .truth => f.coerced (Numeral.truth? id)
  | .date => if Moment.isMoment id then .taken else .refused
  | .facet => if Facet.isPath id then .taken else .fatal
  | .bytes => if (Text.Base64.decode id.toList).isSome then .taken else .refused
  | .address => if (Address.read? id).isSome then .taken else .refused
  | .json => .refused

/-- The terms of a value that is indexed. -/
def codesOf (f : Field) (value : Option (List UInt8)) : Option Terms :=
  if f.options.indexed then some (.codes value.toList) else none

/-- The terms of an identifier that the field has taken; nothing if documents cannot be found by the field. -/
def termsOf? (f : Field) (id : String) : Option Terms :=
  match f.type with
  | .text => (f.wordsOf? id).map .words
  | .natural => f.codesOf ((Numeral.natural? id).map (fun n => Terms.bytesOf n.toUInt64))
  | .integer => f.codesOf ((Numeral.integer? id).map (fun i => Terms.bytesOf (Terms.orderOfInteger i)))
  | .decimal => f.codesOf ((Numeral.decimal? id).map (fun b => Terms.bytesOf (Terms.orderOfDecimal b)))
  | .truth => f.codesOf ((Numeral.truth? id).map (fun b => Terms.bytesOf (if b then 1 else 0)))
  | .facet =>
    some (.words ((Facet.termsOf id).filter (fun w => w.utf8ByteSize ≤ Text.Analysis.longestWord)))
  | .bytes => f.codesOf (Text.Base64.decode id.toList)
  | .address => f.codesOf (Address.read? id)
  | .date => f.codesOf ((Moment.instant? id).map (fun n => Terms.bytesOf (Terms.orderOfInstant n)))
  | .json => f.codesOf none

/-- Documents can be found by the field. -/
def isLookedUp (f : Field) : Bool :=
  match f.type with
  | .text => f.options.indexing.isSome || f.options.columns != .none
  | .facet => true
  | .natural | .integer | .decimal | .truth | .date | .bytes | .json | .address => f.options.indexed

end Field

end WritePath
