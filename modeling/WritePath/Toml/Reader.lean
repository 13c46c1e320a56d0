import WritePath.Toml.Scalar
import WritePath.Toml.Text

/-!
# Reading settings documents

A document is a list of lines, each of which holds one statement or nothing; a comment may end it.
`readStatements` reads the statements, and `Entries.read?` carries them out one after the other.

Arrays and tables written as values may go on over several lines, hold comments and end in a comma; in
such a table a line may even end on either side of the equals sign.  At most `depthLimit` of them may
stand inside one another, and a key has at most as many parts.

The recursion is on `fuel`, which is set from the length of the text and does not run out on a text that
has the form asked for.
-/

namespace WritePath.Toml

/-- How many arrays and tables a value may hold inside one another, and how many tables a key may lead
through, its last part counted. -/
def depthLimit : Nat := 80

/-- A text after the white space at its front. -/
def skipGap (cs : List Char) : List Char :=
  cs.dropWhile isGap

/-! ## Lines -/

/-- The text after a comment, from its line end on. -/
def skipComment : List Char → List Char
  | '#' :: rest => rest.dropWhile isPlain
  | cs => cs

/-- The text of the next line, if nothing but a comment is left on this one. -/
def endLine (cs : List Char) : Option (List Char) :=
  match skipComment (skipGap cs) with
  | [] => some []
  | cs => afterLineEnd? cs

/-- Passes over white space, line ends and comments; `inComment` says that one has begun. -/
def skipLines : (inComment : Bool) → List Char → Option (List Char)
  | _, '\n' :: rest => skipLines false rest
  | _, '\r' :: '\n' :: rest => skipLines false rest
  | true, c :: rest => if isPlain c then skipLines true rest else none
  | false, c :: rest =>
    if isGap c then skipLines false rest
    else if c == '#' then skipLines true rest
    else some (c :: rest)
  | _, [] => some []

/-! ## Keys -/

/-- A character of a key without quotes. -/
def isBare (c : Char) : Bool :=
  c.isAlphanum || c == '_' || c == '-'

/-- Reads one part of a key.  A key is never written with three quotes. -/
def readPart (cs : List Char) : Option (String × List Char) :=
  let ofChars (r : List Char × List Char) := (String.ofList r.1, r.2)
  match cs with
  | '"' :: rest => (readBasic rest).map ofChars
  | '\'' :: rest => (readLiteral rest).map ofChars
  | cs =>
    match cs.takeWhile isBare with
    | [] => none
    | bare => some (String.ofList bare, cs.dropWhile isBare)

/-- A key: the parts before the last one, and the last one. -/
abbrev Key := List String × String

/-- Reads a key of at most `room` parts, which are separated by points, up to what follows the white space
after it. -/
def readParts : (room : Nat) → List Char → Option (Key × List Char)
  | 0, _ => none
  | room + 1, cs => do
    let (part, rest) ← readPart (skipGap cs)
    match skipGap rest with
    | '.' :: rest =>
      let ((path, name), rest) ← readParts room rest
      return ((part :: path, name), rest)
    | rest => return (([], part), rest)

def readKey (cs : List Char) : Option (Key × List Char) :=
  readParts depthLimit cs

/-! ## Values -/

mutual

/-- Reads a value, entering at most `room` arrays and tables. -/
def readValue : Nat → Nat → List Char → Option (Value × List Char)
  | 0, _, _ => none
  | fuel + 1, room, cs =>
    match cs with
    | '[' :: rest =>
      match room with
      | 0 => none
      | room + 1 => (readItems fuel room rest).map (fun r => (.array r.1, r.2))
    | '\x7b' :: rest =>
      match room with
      | 0 => none
      | room + 1 => (readPairs fuel room [] rest).map (fun r => (.table .inlined r.1, r.2))
    | '"' :: _ | '\'' :: _ => (readText cs).map (fun r => (.text r.1, r.2))
    | cs => readScalar cs

/-- Reads the items of an array up to and including the closing bracket. -/
def readItems : Nat → Nat → List Char → Option (List Value × List Char)
  | 0, _, _ => none
  | fuel + 1, room, cs =>
    (skipLines false cs).bind fun
      | ']' :: rest => some ([], rest)
      | cs =>
        (readValue fuel room cs).bind fun (v, rest) =>
          (skipLines false rest).bind fun
            | ',' :: rest => (readItems fuel room rest).map (fun r => (v :: r.1, r.2))
            | ']' :: rest => some ([v], rest)
            | _ => none

/-- Reads the pairs of a table up to and including the closing brace, and carries them out. -/
def readPairs : Nat → Nat → Entries → List Char → Option (Entries × List Char)
  | 0, _, _, _ => none
  | fuel + 1, room, entries, cs =>
    (skipLines false cs).bind fun
      | '\x7d' :: rest => some (entries, rest)
      | cs =>
        (readKey cs).bind fun ((path, name), rest) =>
          (skipLines false rest).bind fun
            | '=' :: rest =>
              (skipLines false rest).bind fun rest =>
                (readValue fuel room rest).bind fun (v, rest) =>
                  (assign name v false .header path entries).bind fun entries =>
                    (skipLines false rest).bind fun
                      | ',' :: rest => readPairs fuel room entries rest
                      | '\x7d' :: rest => some (entries, rest)
                      | _ => none
            | _ => none

end

/-! ## Statements -/

inductive Statement where
  /-- The header of a table. -/
  | header (key : Key)
  /-- The header of one of several tables. -/
  | element (key : Key)
  | pair (key : Key) (value : Value)

def fuelFor (cs : List Char) : Nat :=
  2 * cs.length + 4

/-- Reads the statement at the front of a line, with the rest of the line. -/
def readStatement (cs : List Char) : Option (Statement × List Char) :=
  match cs with
  | '[' :: '[' :: rest =>
    (readKey rest).bind fun
      | (key, ']' :: ']' :: rest) => some (.element key, rest)
      | _ => none
  | '[' :: rest =>
    (readKey rest).bind fun
      | (key, ']' :: rest) => some (.header key, rest)
      | _ => none
  | cs =>
    (readKey cs).bind fun
      | (key, '=' :: rest) =>
        (readValue (fuelFor rest) depthLimit (skipGap rest)).map (fun r => (.pair key r.1, r.2))
      | _ => none

def readStatements : Nat → List Char → Option (List Statement)
  | 0, _ => none
  | fuel + 1, cs =>
    (skipLines false cs).bind fun
      | [] => some []
      | cs =>
        (readStatement cs).bind fun (statement, rest) =>
          (endLine rest).bind fun rest =>
            (readStatements fuel rest).map (statement :: ·)

/-- Carries out statements; `current` is the path of the header in force. -/
def carryOut : (current : List String) → List Statement → Entries → Option Entries
  | _, [], entries => some entries
  | current, .pair (path, name) value :: rest, entries =>
    (descend (fun origin => assign name value false origin path) .header current entries).bind
      (carryOut current rest)
  | _, .header (path, name) :: rest, entries =>
    (openTable path name entries).bind (carryOut (path ++ [name]) rest)
  | _, .element (path, name) :: rest, entries =>
    (appendTable path name entries).bind (carryOut (path ++ [name]) rest)

/-- The text without a byte order mark at its front. -/
def dropMark : List Char → List Char
  | '\uFEFF' :: rest => rest
  | cs => cs

def Entries.read? (s : String) : Option Entries :=
  let cs := dropMark s.toList
  (readStatements (fuelFor cs) cs).bind (carryOut [] · [])

end WritePath.Toml
