import WritePath.Engine.Listing
import WritePath.Json.Tree
import WritePath.Schema.Written

/-!
# Descriptions of indexes

The text by which a directory is known to hold an index: a record with the *segments* that its documents lie
in, the way they are packed, the fields, and the last stamp.

`Description.read?` takes every record of this form and keeps the fields and the number of the segments.  It
refuses one that says a thing twice: of two members with one name, or of two fields with one name, neither is
the right one.  What a description says beside the known members does not matter, and is not even read, but for
the fields, which are read whole.

A description that the library wrote itself knows the committed documents as well.  Its text names no segments:
the documents are kept beside it.
-/

namespace WritePath

structure Description where
  fields : Fields
  /-- How many segments of somebody else it names. -/
  segments : Nat := 0
  /-- The documents. -/
  kept : List Kept := []
  deriving DecidableEq

namespace Description

def isHex (s : String) : Bool :=
  s.toList.all (fun c => (Json.hexDigit? c).isSome)

/-- The text is a number of 128 bits in five groups of digits. -/
def isGrouped (s : String) : Bool :=
  let groups := s.splitOn "-"
  groups.map String.length == [8, 4, 4, 4, 12] && groups.all isHex

/-- What may stand before a number in groups, in small or capital letters. -/
def identifierMark : String := "urn:uuid:"

/-- The text is a number of 128 bits in hexadecimal digits: in one group, or in the five usual ones, which may
stand in braces or after a mark. -/
def isIdentifier (s : String) : Bool :=
  let length := identifierMark.length
  s.length == 32 && isHex s
    || isGrouped s
    || s.startsWith "\x7b" && s.endsWith "\x7d" && isGrouped ((s.drop 1).dropEnd 1).copy
    || (s.toList.take length).map Char.toLower == identifierMark.toList && isGrouped (s.drop length).copy

/-- The documents of a segment that are deleted. -/
def deletions : Json.Layout :=
  [⟨"num_deleted_docs", .below UInt32.size, .always⟩, ⟨"opstamp", .below UInt64.size, .always⟩]

def segment : Json.Layout :=
  [⟨"segment_id", .textThat isIdentifier, .always⟩, ⟨"max_doc", .below UInt32.size, .always⟩,
   ⟨"deletes", .orNull deletions.admits, .inArrays⟩]

/-- The way the documents are packed. -/
def packing : Json.Layout :=
  [⟨"docstore_compression", .textThat (["none", "lz4"].contains ·), .never⟩,
   ⟨"docstore_compress_dedicated_thread", .truth, .never⟩,
   ⟨"docstore_blocksize", .below UInt64.size, .never⟩]

def layout : Json.Layout :=
  [⟨"segments", .list segment.admits, .always⟩,
   ⟨"index_settings", packing.admits, .never⟩,
   ⟨"schema", .list (fun v => (Field.ofJson? v).isSome), .always⟩,
   ⟨"opstamp", .below UInt64.size, .always⟩,
   ⟨"payload", .orNull .text, .inArrays⟩]

/-- The shape of records of a layout, given the shapes of some of their members. -/
def shapeOf (l : Json.Layout) (inner : List (String × Json.Shape)) : Json.Shape :=
  .record (l.map (fun slot => (slot.name, (Json.Shape.member? inner slot.name).getD .tree)))

/-- Where records are in a description. -/
def shape : Json.Shape :=
  shapeOf layout
    [("segments", .list (shapeOf segment [("deletes", shapeOf deletions [])])),
     ("index_settings", shapeOf packing [])]

/-- The items that a record has for a slot. -/
def items (name : String) (v : Json.Value) : List Json.Value :=
  match layout.slotValue? name v with
  | some (.array items) => items
  | _ => []

def ofJson? (v : Json.Value) : Option Description :=
  if layout.admits v then
    let fields := (items "schema" v).filterMap Field.ofJson?
    if (fields.map (·.name)).Nodup then some { fields := fields, segments := (items "segments" v).length }
    else none
  else none

def read? (s : String) : Option Description :=
  (shape.read? s).bind ofJson?

def text (d : Description) : String :=
  "\x7b\n  \"segments\": [],\n  \"schema\": " ++ (Json.Value.array (d.fields.map Field.json)).compact
    ++ ",\n  \"opstamp\": 0\n\x7d\n"

example : read? (text ⟨[], 3, []⟩) = some ⟨[], 0, []⟩ := by decide +kernel

example : read? "[[],\x7b\x7d,[],7,null]" = some ⟨[], 0, []⟩ := by decide +kernel

example : read? "\x7b\"segments\":[],\"schema\":[],\"opstamp\":1,\"opstamp\":1\x7d" = none := by decide +kernel

end Description

end WritePath
