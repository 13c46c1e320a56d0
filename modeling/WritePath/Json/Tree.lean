import WritePath.Json.Reader

/-!
# Trees of records in JSON text

A text with records inside one another, read by its *shape*.  The members of an object are kept as they stand,
in the order of the text and with duplicates, so that a record can refuse a member that stands twice.

The shape says where records are.  Of a record the known members are read, each by its own shape, and the others
are passed over without looking into them; a record may also be spelled as the array of its fields.  Where the
shape knows of no record everything is read.
-/

namespace WritePath.Json

/-- Where records are in a text. -/
inductive Shape where
  /-- Nowhere. -/
  | tree
  /-- In the items of an array. -/
  | list (item : Shape)
  /-- Here, with these members. -/
  | record (members : List (String × Shape))

namespace Shape

/-- The shape of the member with a name, if it is known. -/
def member? (members : List (String × Shape)) (name : String) : Option Shape :=
  (members.find? (·.1 == name)).map (·.2)

/-- The shape of the item with a number, in an array instead of a record. -/
def item (members : List (String × Shape)) (n : Nat) : Shape :=
  (members[n]?.map (·.2)).getD .tree

end Shape

/-- Reads a value whose members are kept as they stand. -/
def readTree (fuel room : Nat) (cs : List Char) : Option (Value × List Char) :=
  readValue id fuel room cs

mutual

/-- Reads a value of a shape, entering at most `room` containers. -/
def readShaped : Nat → Nat → Shape → List Char → Option (Value × List Char)
  | 0, _, _, _ => none
  | fuel + 1, room, shape, cs =>
    match shape, room, skipSpace cs with
    | .record members, room + 1, '\x7b' :: rest =>
      match skipSpace rest with
      | '\x7d' :: rest => some (.object [], rest)
      | rest => do
        let (fields, left) ← readFields fuel room members rest
        return (.object fields, left)
    | .record members, room + 1, '[' :: rest => do
      let (items, left) ← readElements fuel room (Shape.item members) rest
      return (.array items, left)
    | .list item, room + 1, '[' :: rest => do
      let (items, left) ← readElements fuel room (fun _ => item) rest
      return (.array items, left)
    | _, _, cs => readTree fuel room cs

/-- Reads the known members of an object that is not empty and passes over the others, up to and including the
closing brace. -/
def readFields : Nat → Nat → List (String × Shape) → List Char →
    Option (List (String × Value) × List Char)
  | 0, _, _, _ => none
  | fuel + 1, room, members, cs =>
    match skipSpace cs with
    | '"' :: rest =>
      (readString rest).bind fun (key, rest) =>
        let key := String.ofList key
        match skipSpace rest with
        | ':' :: rest =>
          (readField fuel room (Shape.member? members key) key rest).bind fun (field, rest) =>
            match skipSpace rest with
            | '\x7d' :: rest => some (field, rest)
            | ',' :: rest => (readFields fuel room members rest).map (fun r => (field ++ r.1, r.2))
            | _ => none
        | _ => none
    | _ => none

/-- Reads the value of a member if its shape is known, and else passes over it. -/
def readField : Nat → Nat → Option Shape → String → List Char → Option (List (String × Value) × List Char)
  | 0, _, _, _, _ => none
  | fuel + 1, room, some shape, key, cs =>
    (readShaped fuel room shape cs).map (fun r => ([(key, r.1)], r.2))
  | fuel + 1, _, none, _, cs => (skip fuel cs).map ([], ·)

/-- Reads an array after its opening bracket, given the shapes of its items. -/
def readElements : Nat → Nat → (Nat → Shape) → List Char → Option (List Value × List Char)
  | 0, _, _, _ => none
  | fuel + 1, room, shapes, cs =>
    match skipSpace cs with
    | ']' :: rest => some ([], rest)
    | rest => readRest fuel room shapes 0 rest

/-- Reads the items of an array that is not empty, from the one with a number on, up to and including the
closing bracket. -/
def readRest : Nat → Nat → (Nat → Shape) → Nat → List Char → Option (List Value × List Char)
  | 0, _, _, _, _ => none
  | fuel + 1, room, shapes, n, cs =>
    (readShaped fuel room (shapes n) cs).bind fun (v, rest) =>
      match skipSpace rest with
      | ']' :: rest => some ([v], rest)
      | ',' :: rest => (readRest fuel room shapes (n + 1) rest).map (fun r => (v :: r.1, r.2))
      | _ => none

end

/-- The value of a shape that a text spells, its objects with all that stands in them. -/
def Shape.read? (shape : Shape) (s : String) : Option Value :=
  whole (readShaped (2 * fuelFor s.toList) nestingLimit shape s.toList)

example : Shape.read? (.list (.record [("a", .tree)])) "[\x7b\"a\":1,\"b\":1e999,\"a\":2\x7d,[3]]"
    = some (.array [.object [("a", .int 1), ("a", .int 2)], .array [.int 3]]) := by decide +kernel

end WritePath.Json
