/-!
# White space and lines

Text is *blank* when every character of it is white space in the sense of the Unicode property
`White_Space`: twenty-five characters, listed here.  A name of an index must not be blank, and a
blank line of a document file is skipped.

Lines end with a line feed; a carriage return right before it belongs to the line end.  A text that
ends in a line feed has no empty line after it, and a carriage return at the very end of a text
without a line feed stays part of the last line.
-/

namespace WritePath.Text

/-- The characters with the Unicode property `White_Space`. -/
def isWhite (c : Char) : Bool :=
  let n := c.toNat
  (0x9 ≤ n && n ≤ 0xD) || n == 0x20 || n == 0x85 || n == 0xA0 || n == 0x1680
    || (0x2000 ≤ n && n ≤ 0x200A) || n == 0x2028 || n == 0x2029 || n == 0x202F
    || n == 0x205F || n == 0x3000

def isBlank (s : String) : Bool :=
  s.toList.all isWhite

/-- Cuts at every line feed: the parts before, between and after them.  There is always one part. -/
def splitLines : List Char → List (List Char)
  | [] => [[]]
  | c :: rest =>
    if c = '\n' then [] :: splitLines rest
    else match splitLines rest with
      | [] => [[c]]
      | line :: lines => (c :: line) :: lines

/-- Drops one carriage return at the end. -/
def dropReturn (line : List Char) : List Char :=
  match line.reverse with
  | '\r' :: rest => rest.reverse
  | _ => line

/-- Of the parts around line feeds, those that are lines: all but the last were ended by a line feed
and lose a carriage return before it; the last one counts only if it holds something. -/
def closeLines : List (List Char) → List (List Char)
  | [] => []
  | [last] => if last.isEmpty then [] else [last]
  | line :: rest => dropReturn line :: closeLines rest

def lines (s : String) : List String :=
  (closeLines (splitLines s.toList)).map String.ofList

example : ["a", "b\r", "", "c"].map isBlank = [false, false, true, false] := by decide

end WritePath.Text
