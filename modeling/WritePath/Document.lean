import WritePath.Failure
import WritePath.Json.Outline
import WritePath.Json.Printer

/-!
# Documents

A document is an identifier with a body of named values.  It has two written forms, and they are not
the same language.

* A *line* is one flat object in which `id` stands among the other members.  The identifier must be
  there and must not be empty; all other members are the body, which therefore has no member `id`.
  Of two members with one name the later one counts, `id` included.
* The *stored form* is an object with the two members `id` and `body`, or the array of the two.  Here
  the identifier may be empty, the body may hold a member `id` and may be left out, members with other
  names are passed over, and `id` or `body` standing twice is an error.

Why a line is no document is a `LineError`.
-/

namespace WritePath

/-- An identifier with a body of named values. -/
structure Document where
  id : String
  body : Keyed Json.Value := []
  deriving DecidableEq, Inhabited

namespace Document

/-- The document with the given fields in its body; a field given twice has its later value. -/
def ofFields (id : String) (fields : List (String × Json.Value)) : Document :=
  ⟨id, Keyed.ofList fields⟩

def field? (d : Document) (name : String) : Option Json.Value :=
  Keyed.get? name d.body

def setField (d : Document) (name : String) (value : Json.Value) : Document :=
  { d with body := Keyed.insert name value d.body }

/-! ## Lines -/

/-- The member of a line that holds the identifier. -/
def idMember : String := "id"

/-- Why a line is no document. -/
inductive LineError where
  /-- The line is not JSON text. -/
  | notJson
  | notAnObject
  /-- The identifier is not a text, or an empty one. -/
  | idNotText
  | idMissing
  deriving DecidableEq, Repr

def LineError.message : LineError → String
  | .notJson => "Invalid document JSON"
  | .notAnObject => "Document JSON must be an object"
  | .idNotText => "Document member 'id' must be a non-empty string"
  | .idMissing => "Document is missing the 'id' member"

def LineError.failure (e : LineError) : Failure :=
  .parse e.message

/-- The document that a value spells as a line. -/
def ofFlat : Json.Value → Except LineError Document
  | .object members =>
    match Keyed.get? idMember members with
    | some (.string id) => if id = "" then .error .idNotText else .ok ⟨id, Keyed.erase idMember members⟩
    | some _ => .error .idNotText
    | none => .error .idMissing
  | _ => .error .notAnObject

def ofLine (line : String) : Except LineError Document :=
  match Json.Value.read? line with
  | some v => ofFlat v
  | none => .error .notJson

/-- The line of a document, as a value. -/
def flat (d : Document) : Json.Value :=
  .object (Keyed.insert idMember (.string d.id) d.body)

/-! ## The stored form -/

/-- The stored form: the identifier first, then the body. -/
def stored (d : Document) : Json.Value :=
  .object [("id", .string d.id), ("body", .object d.body)]

def text (d : Document) : String :=
  d.stored.compact

/-- The document of an identifier and a body that may be left out. -/
def ofParts (id : Json.Value) (body : Option Json.Value) : Option Document := do
  let id ← id.text?
  match body with
  | none => return ⟨id, []⟩
  | some body => return ⟨id, ← body.members?⟩

def read? (s : String) : Option Document := do
  match ← Json.Outline.read? (fun name => name == "id" || name == "body") s with
  | .fields members =>
    let id ← (← Json.single? "id" members)
    let body ← Json.single? "body" members
    ofParts id body
  | .value (.array [id]) => ofParts id none
  | .value (.array [id, body]) => ofParts id (some body)
  | .value _ => none

/-! ## Small facts -/

theorem id_ne_empty_of_ofFlat {v : Json.Value} {d : Document} (h : ofFlat v = .ok d) :
    d.id ≠ "" := by
  unfold ofFlat at h
  repeat' split at h
  all_goals simp_all
  subst h
  assumption

@[simp] theorem field?_setField_self (d : Document) (name : String) (value : Json.Value) :
    (d.setField name value).field? name = some value := by
  simp [setField, field?]

example : (ofLine "\x7b\"id\":\"a\",\"x\":1,\"id\":\"b\"\x7d").toOption = some ⟨"b", [("x", .int 1)]⟩ := by
  decide +kernel

example : read? "[\"\",\x7b\"id\":null\x7d]" = some ⟨"", [("id", .null)]⟩ := by decide +kernel

end Document

end WritePath
