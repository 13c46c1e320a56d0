import WritePath.Json.Reader

/-!
# Records in JSON text

A record is read from an object whose member names are known beforehand.  `Outline.read?` keeps the
known members in the order of the text, with duplicates, so that a record can refuse a member that
stands twice; it passes over the others without looking into them.  Any other value is read as it is: a
record may also be spelled as the array of its fields.
-/

namespace WritePath.Json

/-- The outermost level of a text. -/
inductive Outline where
  /-- An object: its known members in the order of the text. -/
  | fields (members : List (String × Value))
  /-- Anything but an object. -/
  | value (v : Value)

/-- Reads the known members of an object that is not empty and passes over the others, up to and
including the closing brace. -/
def readKnown (known : String → Bool) :
    Nat → List Char → Option (List (String × Value) × List Char)
  | 0, _ => none
  | fuel + 1, cs =>
    match skipSpace cs with
    | '"' :: rest =>
      (readString rest).bind fun (key, rest) =>
        let key := String.ofList key
        match skipSpace rest with
        | ':' :: rest =>
          let read :=
            if known key then
              (readValue Keyed.ofList fuel (nestingLimit - 1) rest).map (fun r => ([(key, r.1)], r.2))
            else (skip fuel rest).map ([], ·)
          read.bind fun (field, rest) =>
            match skipSpace rest with
            | '\x7d' :: rest => some (field, rest)
            | ',' :: rest => (readKnown known fuel rest).map (fun r => (field ++ r.1, r.2))
            | _ => none
        | _ => none
    | _ => none

/-- Reads the outermost level of a text, given which members are known. -/
def Outline.read? (known : String → Bool) (s : String) : Option Outline :=
  let fuel := fuelFor s.toList
  match skipSpace s.toList with
  | '\x7b' :: rest =>
    match skipSpace rest with
    | '\x7d' :: rest => whole (some (.fields [], rest))
    | rest => whole ((readKnown known fuel rest).map (fun r => (.fields r.1, r.2)))
  | cs => whole ((readValue Keyed.ofList fuel nestingLimit cs).map (fun r => (.value r.1, r.2)))

/-- The values of the members with one name. -/
def valuesOf (name : String) (members : List (String × Value)) : List Value :=
  (members.filter (·.1 == name)).map (·.2)

/-- A member that must not stand twice: its value, or nothing if it is missing. -/
def single? (name : String) (members : List (String × Value)) : Option (Option Value) :=
  match valuesOf name members with
  | [] => some none
  | [v] => some (some v)
  | _ => none

end WritePath.Json
