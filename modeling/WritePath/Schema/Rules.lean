import WritePath.Engine.Listing
import WritePath.Json.Form
import WritePath.Schema
import WritePath.Schema.Identifier

/-!
# What an index does with documents

The rules of an index follow from the fields that it has for the identifier and for the body.

A body is taken by a field of JSON objects, unless it holds a moment without a day in the common time: such a
text cannot be turned into a date, and whoever tries does not survive that.  A field of texts takes a body only
if it describes a text that has been cut into words already.  All other fields refuse bodies.  Of the two parts
of a document the body is looked at first.

Readers see the identifier and the body where they are stored, and as a text and as an object only.
-/

namespace WritePath.Schema

/-- A word of a text that has been cut into words: where it begins and ends, its number, its letters, and how
many words it stands for. -/
def wordRecord : Json.Layout :=
  [⟨"offset_from", .below UInt64.size, .always⟩, ⟨"offset_to", .below UInt64.size, .always⟩,
   ⟨"position", .below UInt64.size, .always⟩, ⟨"text", .text, .always⟩,
   ⟨"position_length", .below UInt64.size, .always⟩]

def cutText : Json.Layout :=
  [⟨"text", .text, .always⟩, ⟨"tokens", .list wordRecord.admits, .always⟩]

def receptionOfBody (type : FieldType) (body : Json.Value) : Reception :=
  match type with
  | .json => if body.hasText Moment.isBeyond then .fatal else .taken
  | .text => if cutText.admits body then .taken else .refused
  | .natural | .integer | .decimal | .truth | .date | .facet | .bytes | .address => .refused

def idFieldOf (s : Schema) : Option Field :=
  s.fields[s.id]?

def bodyFieldOf (s : Schema) : Option Field :=
  s.fields[s.body]?

/-- What comes of a document that is added. -/
def receives (s : Schema) (d : Document) : Reception :=
  match s.idFieldOf, s.bodyFieldOf with
  | some id, some body =>
    if Engine.Listing.accepts d then
      match receptionOfBody body.type (.object d.body) with
      | .taken => id.receptionOf d.id
      | r => r
    else .refused
  | _, _ => .refused

/-- Deleting an identifier removes the document. -/
def finds (s : Schema) (id : String) (d : Document) : Bool :=
  (s.idFieldOf.bind (·.termsOf? d.id)).any (·.holds id)

/-- Deleting an identifier can remove documents. -/
def looksUp (s : Schema) : Bool :=
  s.idFieldOf.any Field.isLookedUp

/-- The field shows its values, which are of a type. -/
def isShown (type : FieldType) (f : Field) : Bool :=
  f.options.stored && f.type == type

def shows (s : Schema) (d : Document) : Document :=
  { id := if s.idFieldOf.any (isShown .text) then d.id else ""
    body := if s.bodyFieldOf.any (isShown .json) then d.body else [] }

def rules (s : Schema) : Engine.Listing.Rules :=
  ⟨s.receives, s.finds, s.shows⟩

/-- The index knows the analyses of all its fields. -/
def isWritable (s : Schema) : Bool :=
  s.fields.all Field.hasKnownWords

end WritePath.Schema
