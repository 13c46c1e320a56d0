import WritePath.Schema.Field
import WritePath.Text.Quoted

/-!
# Schemas

The fields of an index.  The documents of the write path need two of them: the identifier, indexed as it
is, and the body, a JSON object whose texts are indexed word by word with English endings removed.  An
index of somebody else can be written to only if it has fields of these names, in whatever place and of
whatever type.
-/

namespace WritePath

/-- A schema that documents can be written under: the fields with the numbers of the two that are
needed. -/
structure Schema where
  fields : Fields
  id : Nat
  body : Nat
  deriving DecidableEq, Repr

namespace Schema

def idField : String := "id"

def bodyField : String := "body"

/-- The name of the analysis of identifiers: there is none. -/
def idTokenizer : String := "raw"

def bodyTokenizer : String := "en_stem"

/-- The fields of an index that the write path makes itself. -/
def ownFields : Fields :=
  [⟨idField, .text, { stored := true, indexing := some { tokenizer := idTokenizer } }⟩,
   ⟨bodyField, .json,
    { stored := true, indexing := some { tokenizer := bodyTokenizer, record := "position" } }⟩]

def number? (fields : Fields) (name : String) : Option Nat :=
  fields.findIdx? (·.name == name)

/-- The schema over some fields, if the two that are needed are among them. -/
def ofFields? (fields : Fields) : Option Schema := do
  return ⟨fields, ← number? fields idField, ← number? fields bodyField⟩

def own : Schema :=
  ⟨ownFields, 0, 1⟩

/-- The form for diagnostics: it names the two fields, wherever they are. -/
def diagnostic (_ : Schema) : String :=
  Text.record "IndexSchema" [("fields", Text.list [Text.quoted idField, Text.quoted bodyField])] false

end Schema

end WritePath
