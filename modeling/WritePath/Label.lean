import WritePath.Json.Outline
import WritePath.Json.Printer
import WritePath.Text.Quoted

/-!
# Names of indexes and works

Two texts identify what a failure is about: the name of the index, and the description of one work.
Both have a form for messages, one for diagnostics and one for JSON.

In JSON the name of an index is a record with one member and so may also be spelled as an array of one
field; the description of a work is a bare string and has one spelling only.
-/

namespace WritePath

/-- The name of an index, used in logs and failure reports. -/
structure IndexName where
  name : String
  deriving DecidableEq, Inhabited

namespace IndexName

/-- How messages speak of the index. -/
def label (i : IndexName) : String :=
  "index '" ++ i.name ++ "'"

def diagnostic (i : IndexName) : String :=
  Text.record "EventContext" [("index_name", Text.quoted i.name)] false

def json (i : IndexName) : Json.Value :=
  .object [("index_name", .string i.name)]

/-- Reads the JSON record: its member must be there once, others do not matter. -/
def read? (s : String) : Option IndexName := do
  match ← Json.Outline.read? (· == "index_name") s with
  | .fields members =>
    let v ← (← Json.single? "index_name" members)
    return ⟨← v.text?⟩
  | .value (.array [.string s]) => return ⟨s⟩
  | .value _ => none

end IndexName

/-- The description of one work, used only in failure reports. -/
structure WorkLabel where
  text : String
  deriving DecidableEq, Inhabited

namespace WorkLabel

def diagnostic (w : WorkLabel) : String :=
  "WorkInfo(" ++ Text.quoted w.text ++ ")"

def json (w : WorkLabel) : Json.Value :=
  .string w.text

def read? (s : String) : Option WorkLabel := do
  return ⟨← (← Json.Value.read? s).text?⟩

end WorkLabel

end WritePath
