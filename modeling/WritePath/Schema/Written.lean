import WritePath.Json.Form
import WritePath.Schema.Field

/-!
# Fields in descriptions

The JSON form of a field is an object with its name, its type and its options.  The layout of the options depends
on the type.  An object that says one of the three twice is no field, and nor is one whose options say twice what
they know of.
-/

namespace WritePath

open Json (Value Layout Form)

namespace FieldType

def word : FieldType → String
  | .text => "text"
  | .natural => "u64"
  | .integer => "i64"
  | .decimal => "f64"
  | .truth => "bool"
  | .date => "date"
  | .facet => "facet"
  | .bytes => "bytes"
  | .json => "json_object"
  | .address => "ip_addr"

def ofWord? (s : String) : Option FieldType :=
  all.find? (·.word == s)

def ofJson? (v : Value) : Option FieldType :=
  (Form.wordOf? v).bind ofWord?

/-- How the texts of a field are indexed. -/
def indexing : Layout :=
  [⟨"record", .word ["basic", "freq", "position"], .never⟩, ⟨"fieldnorms", .truth, .never⟩,
   ⟨"tokenizer", .text, .never⟩]

def columnWords : Layout :=
  [⟨"with_tokenizer", .text, .always⟩]

/-- Whether values can be had in columns, and how texts are cut up then. -/
def columns : Form :=
  .either .truth columnWords.admitsObject

/-- The options of a field of numbers or truth values. -/
def plainLayout : Layout :=
  [⟨"indexed", .truth, .always⟩, ⟨"fieldnorms", .orNull .truth, .never⟩, ⟨"fast", .truth, .never⟩,
   ⟨"stored", .truth, .always⟩, ⟨"coerce", .truth, .never⟩]

def layout : FieldType → Layout
  | .text =>
    [⟨"indexing", .orNull indexing.admits, .never⟩, ⟨"stored", .truth, .never⟩, ⟨"fast", columns, .never⟩,
     ⟨"coerce", .truth, .never⟩]
  | .json =>
    [⟨"stored", .truth, .always⟩, ⟨"indexing", .orNull indexing.admits, .inArrays⟩,
     ⟨"fast", columns, .always⟩, ⟨"expand_dots_enabled", .truth, .never⟩]
  | .natural | .integer | .decimal | .truth => plainLayout
  | .date =>
    [⟨"indexed", .truth, .always⟩, ⟨"fieldnorms", .truth, .always⟩, ⟨"fast", .truth, .never⟩,
     ⟨"stored", .truth, .always⟩,
     ⟨"precision", .word ["seconds", "milliseconds", "microseconds", "nanoseconds"], .never⟩]
  | .facet => [⟨"stored", .truth, .always⟩]
  | .bytes =>
    [⟨"indexed", .truth, .always⟩, ⟨"fieldnorms", .orNull .truth, .never⟩, ⟨"fast", .truth, .always⟩,
     ⟨"stored", .truth, .always⟩]
  | .address =>
    [⟨"fast", .truth, .always⟩, ⟨"stored", .truth, .always⟩, ⟨"indexed", .truth, .always⟩,
     ⟨"fieldnorms", .truth, .always⟩]

end FieldType

/-! ## Options -/

/-- A member that is a truth value, if it is there and is one. -/
def Json.Layout.truthOf? (l : Layout) (name : String) (v : Value) : Option Bool :=
  match l.slotValue? name v with
  | some (.bool b) => some b
  | _ => none

namespace Indexing

def ofJson (v : Value) : Indexing :=
  let get (name : String) := FieldType.indexing.slotValue? name v
  let plain : Indexing := {}
  { tokenizer := ((get "tokenizer").bind Value.text?).getD plain.tokenizer
    record := ((get "record").bind Form.wordOf?).getD plain.record
    fieldnorms := (FieldType.indexing.truthOf? "fieldnorms" v).getD plain.fieldnorms }

def json (i : Indexing) : Value :=
  .object [("fieldnorms", .bool i.fieldnorms), ("record", .string i.record), ("tokenizer", .string i.tokenizer)]

end Indexing

namespace Columns

def ofJson (v : Value) : Columns :=
  match v with
  | .bool true => .whole
  | v =>
    match (FieldType.columnWords.slotValue? "with_tokenizer" v).bind Value.text? with
    | some tokenizer => .words tokenizer
    | Option.none => .none

def json : Columns → Value
  | .none => .bool false
  | .whole => .bool true
  | .words tokenizer => .object [("with_tokenizer", .string tokenizer)]

end Columns

namespace FieldOptions

/-- The options of a record that has the layout of a type. -/
def ofJson (type : FieldType) (v : Value) : FieldOptions :=
  let l := type.layout
  let get (name : String) := l.slotValue? name v
  let indexed := (l.truthOf? "indexed" v).getD false
  { stored := (l.truthOf? "stored" v).getD false
    indexed := indexed
    indexing := (get "indexing").bind fun
      | .null => none
      | v => some (.ofJson v)
    columns := ((get "fast").map Columns.ofJson).getD .none
    fieldnorms := (l.truthOf? "fieldnorms" v).getD indexed
    coerce := (l.truthOf? "coerce" v).getD false
    precision := ((get "precision").bind Form.wordOf?).getD "seconds"
    expandDots := (l.truthOf? "expand_dots_enabled" v).getD false }

/-- How the words of a field are indexed, as a member. -/
def indexingJson (o : FieldOptions) : Value :=
  (o.indexing.map Indexing.json).getD .null

def json (type : FieldType) (o : FieldOptions) : Value :=
  match type with
  | .text =>
    .object [("coerce", .bool o.coerce), ("fast", o.columns.json), ("indexing", o.indexingJson),
      ("stored", .bool o.stored)]
  | .json =>
    .object [("expand_dots_enabled", .bool o.expandDots), ("fast", o.columns.json),
      ("indexing", o.indexingJson), ("stored", .bool o.stored)]
  | .natural | .integer | .decimal | .truth =>
    .object [("coerce", .bool o.coerce), ("fast", o.columns.json), ("fieldnorms", .bool o.fieldnorms),
      ("indexed", .bool o.indexed), ("stored", .bool o.stored)]
  | .date =>
    .object [("fast", o.columns.json), ("fieldnorms", .bool o.fieldnorms), ("indexed", .bool o.indexed),
      ("precision", .string o.precision), ("stored", .bool o.stored)]
  | .facet => .object [("stored", .bool o.stored)]
  | .bytes | .address =>
    .object [("fast", o.columns.json), ("fieldnorms", .bool o.fieldnorms), ("indexed", .bool o.indexed),
      ("stored", .bool o.stored)]

end FieldOptions

namespace Field

def layout : Layout :=
  [⟨"name", .text, .always⟩, ⟨"type", fun v => (FieldType.ofJson? v).isSome, .always⟩,
   ⟨"options", fun _ => true, .always⟩]

def ofJson? (v : Value) : Option Field :=
  if layout.admitsObject v then do
    let name ← (← layout.slotValue? "name" v).text?
    let type ← FieldType.ofJson? (← layout.slotValue? "type" v)
    let options ← layout.slotValue? "options" v
    if type.layout.admits options then some ⟨name, type, .ofJson type options⟩ else none
  else none

def json (f : Field) : Value :=
  .object [("name", .string f.name), ("options", f.options.json f.type), ("type", .string f.type.word)]

end Field

example : Field.ofJson? (Field.ofTexts "id").json = some (Field.ofTexts "id") := by decide +kernel

end WritePath
