import WritePath.Text.Words

/-!
# Fields

A field of an index has a name, a type, and options.  The options say whether its values are *stored*, so that
they can be shown, whether they are *indexed*, so that documents can be found by them, and whether they can be
had in *columns*.  The options are one record for all types; each type looks at some of them.

Texts are indexed by their words, after an analysis with a name.  An index can be written to only if it knows
the analyses of all its fields.
-/

namespace WritePath

inductive FieldType where
  | text
  /-- Whole numbers without sign. -/
  | natural
  /-- Whole numbers with a sign. -/
  | integer
  | decimal
  | truth
  | date
  /-- Paths in a hierarchy of classes. -/
  | facet
  | bytes
  | json
  /-- Addresses of machines. -/
  | address
  deriving DecidableEq, Repr

namespace FieldType

def all : List FieldType :=
  [.text, .natural, .integer, .decimal, .truth, .date, .facet, .bytes, .json, .address]

def name : FieldType → String
  | .text => "Str"
  | .natural => "U64"
  | .integer => "I64"
  | .decimal => "F64"
  | .truth => "Bool"
  | .date => "Date"
  | .facet => "Facet"
  | .bytes => "Bytes"
  | .json => "Json"
  | .address => "IpAddr"

/-- The values of the type are indexed by their words. -/
def hasWords : FieldType → Bool
  | .text | .json => true
  | .natural | .integer | .decimal | .truth | .date | .facet | .bytes | .address => false

end FieldType

/-- How texts are indexed. -/
structure Indexing where
  /-- The name of the analysis. -/
  tokenizer : String := "default"
  /-- What is kept of a word: in which documents it is, how often, or where. -/
  record : String := "basic"
  fieldnorms : Bool := true
  deriving DecidableEq, Repr

/-- Whether values can be had in columns. -/
inductive Columns where
  | none
  | whole
  /-- The words of texts, after an analysis with a name. -/
  | words (tokenizer : String)
  deriving DecidableEq, Repr

structure FieldOptions where
  stored : Bool := false
  /-- Of types without words. -/
  indexed : Bool := false
  /-- Of types with words. -/
  indexing : Option Indexing := none
  columns : Columns := .none
  fieldnorms : Bool := false
  /-- Texts are taken as values if they spell one. -/
  coerce : Bool := false
  /-- Of dates: how exact they are in columns. -/
  precision : String := "seconds"
  /-- Of bodies: the points in names are steps into the body. -/
  expandDots : Bool := false
  deriving DecidableEq, Repr

structure Field where
  name : String
  type : FieldType
  options : FieldOptions
  deriving DecidableEq, Repr

/-- The fields of an index; the number of a field is its place. -/
abbrev Fields := List Field

namespace Text.Analysis

/-- The analysis that a name stands for in an index. -/
def ofName? (name : String) : Option Analysis :=
  if name = "raw" then some .whole
  else if name = "whitespace" then some .spaced
  else if name = "default" then some .plain
  else if name = "en_stem" then some (.stems false)
  else none

/-- The analysis that a name stands for in a column. -/
def forColumns? (name : String) : Option Analysis :=
  (ofName? name).map fun
    | .stems _ => .stems true
    | a => a

end Text.Analysis

namespace Field

/-- A field of texts that are indexed as they are and stored. -/
def ofTexts (name : String) : Field :=
  ⟨name, .text, { stored := true, indexing := some { tokenizer := "raw" } }⟩

/-- The index knows the analyses of the field. -/
def hasKnownWords (f : Field) : Bool :=
  !f.type.hasWords
    || (f.options.indexing.all (fun i => (Text.Analysis.ofName? i.tokenizer).isSome)
      && match f.options.columns with
        | .words tokenizer => (Text.Analysis.forColumns? tokenizer).isSome
        | .none | .whole => true)

/-- The words by which documents are found that have a text in the field; nothing if documents cannot be found
by it at all. -/
def wordsOf? (f : Field) (s : String) : Option (List String) :=
  match f.options.indexing, f.options.columns with
  | some i, _ => some (((Text.Analysis.ofName? i.tokenizer).map (·.words s)).getD [])
  | none, .whole => some [s]
  | none, .words tokenizer => some (((Text.Analysis.forColumns? tokenizer).map (·.words s)).getD [])
  | none, .none => none

end Field

end WritePath
