import WritePath.Json.Reader

/-!
# Quoted texts of the settings format

There are four ways to write a text.  Between double quotes a backslash begins an escape; between single
quotes every character stands for itself.  Three quotes instead of one allow line ends inside, and up to
two quotes as long as a third one does not follow; a line end right after the opening quotes does not
count.  Between three double quotes a backslash at the end of a line takes away all white space up to the
next character.

Control characters other than the tab are not allowed in any of them.
-/

namespace WritePath.Toml

/-- A character that may stand in a text or a comment. -/
def isPlain (c : Char) : Bool :=
  c == '\t' || (0x20 ≤ c.toNat && c.toNat != 0x7F)

def isGap (c : Char) : Bool :=
  c == ' ' || c == '\t'

/-- The character with the number that hexadecimal digits spell; half a surrogate pair is none. -/
def numbered? (digits : List Char) : Option Char := do
  let n ← digits.foldlM (fun n c => (Json.hexDigit? c).map (n * 16 + ·)) 0
  if n < 0xD800 || (0xDFFF < n && n ≤ 0x10FFFF) then some (Char.ofNat n) else none

/-- The character of a short escape. -/
def shortEscape? : Char → Option Char
  | '"' => some '"'
  | '\\' => some '\\'
  | 'b' => some '\x08'
  | 'e' => some '\x1b'
  | 'f' => some '\x0c'
  | 'n' => some '\n'
  | 'r' => some '\r'
  | 't' => some '\t'
  | _ => none

def put (c : Char) (r : Option (List Char × List Char)) : Option (List Char × List Char) :=
  r.map (fun r => (c :: r.1, r.2))

/-- Puts a character that may be missing in front of what a reader has read. -/
def put? (c : Option Char) (r : Option (List Char × List Char)) : Option (List Char × List Char) :=
  c.bind (put · r)

/-- Reads a text between double quotes, after the opening one. -/
def readBasic : List Char → Option (List Char × List Char)
  | '"' :: rest => some ([], rest)
  | '\\' :: 'x' :: a :: b :: rest => put? (numbered? [a, b]) (readBasic rest)
  | '\\' :: 'u' :: a :: b :: c :: d :: rest => put? (numbered? [a, b, c, d]) (readBasic rest)
  | '\\' :: 'U' :: a :: b :: c :: d :: e :: f :: g :: h :: rest =>
    put? (numbered? [a, b, c, d, e, f, g, h]) (readBasic rest)
  | '\\' :: c :: rest => put? (shortEscape? c) (readBasic rest)
  | c :: rest => if isPlain c && c != '\\' then put c (readBasic rest) else none
  | [] => none

/-- Reads a text between single quotes, after the opening one. -/
def readLiteral : List Char → Option (List Char × List Char)
  | '\'' :: rest => some ([], rest)
  | c :: rest => if isPlain c then put c (readLiteral rest) else none
  | [] => none

/-- After three closing quotes: up to two more of them belong to the text. -/
def closing (quote : Char) (cs : List Char) : List Char × List Char :=
  let more := (cs.take 2).takeWhile (· == quote)
  (more, cs.drop more.length)

/-- The text after a line end at its front. -/
def afterLineEnd? : List Char → Option (List Char)
  | '\n' :: rest => some rest
  | '\r' :: '\n' :: rest => some rest
  | _ => none

/-- Does the line hold nothing more than white space? -/
def lineIsOver (cs : List Char) : Bool :=
  (afterLineEnd? (cs.dropWhile isGap)).isSome

/-- Reads a text between three double quotes, after the opening ones.  `gap` says that white space is
being taken away. -/
def readBasicLines : (gap : Bool) → List Char → Option (List Char × List Char)
  | _, '"' :: '"' :: '"' :: rest => some (closing '"' rest)
  | _, '\\' :: 'x' :: a :: b :: rest => put? (numbered? [a, b]) (readBasicLines false rest)
  | _, '\\' :: 'u' :: a :: b :: c :: d :: rest =>
    put? (numbered? [a, b, c, d]) (readBasicLines false rest)
  | _, '\\' :: 'U' :: a :: b :: c :: d :: e :: f :: g :: h :: rest =>
    put? (numbered? [a, b, c, d, e, f, g, h]) (readBasicLines false rest)
  | _, '\\' :: c :: rest =>
    if lineIsOver (c :: rest) then readBasicLines true (c :: rest)
    else put? (shortEscape? c) (readBasicLines false rest)
  | gap, '\r' :: '\n' :: rest =>
    if gap then readBasicLines true rest else put '\r' (put '\n' (readBasicLines false rest))
  | gap, c :: rest =>
    if gap && (isGap c || c == '\n') then readBasicLines true rest
    else if (isPlain c && c != '\\') || c == '\n' then put c (readBasicLines false rest)
    else none
  | _, [] => none

/-- Reads a text between three single quotes, after the opening ones. -/
def readLiteralLines : List Char → Option (List Char × List Char)
  | '\'' :: '\'' :: '\'' :: rest => some (closing '\'' rest)
  | '\r' :: '\n' :: rest => put '\r' (put '\n' (readLiteralLines rest))
  | c :: rest => if isPlain c || c == '\n' then put c (readLiteralLines rest) else none
  | [] => none

def dropLineEnd (cs : List Char) : List Char :=
  (afterLineEnd? cs).getD cs

/-- Reads a text in any of the four forms; nothing if there is no quote. -/
def readText (cs : List Char) : Option (String × List Char) :=
  let read := match cs with
    | '"' :: '"' :: '"' :: rest => readBasicLines false (dropLineEnd rest)
    | '\'' :: '\'' :: '\'' :: rest => readLiteralLines (dropLineEnd rest)
    | '"' :: rest => readBasic rest
    | '\'' :: rest => readLiteral rest
    | _ => none
  read.map (fun r => (String.ofList r.1, r.2))

end WritePath.Toml
