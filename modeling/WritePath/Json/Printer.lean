import WritePath.Json.Value
import WritePath.Decimal.Shortest

/-!
# The compact text of a JSON value

No white space, members in the order of their keys, and as few escapes as the format allows: the quote,
the backslash and the control characters below the space.  Five of these have a short spelling, the
others a four-digit one in lower case.  Every other character, the delete character included, stands as
it is.
-/

namespace WritePath.Json

def escape (c : Char) : List Char :=
  match c with
  | '"' => ['\\', '"']
  | '\\' => ['\\', '\\']
  | '\x08' => ['\\', 'b']
  | '\x0c' => ['\\', 'f']
  | '\n' => ['\\', 'n']
  | '\r' => ['\\', 'r']
  | '\t' => ['\\', 't']
  | c =>
    if c.toNat < 0x20 then
      ['\\', 'u', '0', '0', Nat.digitChar (c.toNat / 16), Nat.digitChar (c.toNat % 16)]
    else [c]

def stringText (s : String) : List Char :=
  '"' :: (s.toList.flatMap escape ++ ['"'])

def intText : Int → List Char
  | .ofNat n => Nat.toDigits 10 n
  | .negSucc n => '-' :: Nat.toDigits 10 (n + 1)

namespace Value

mutual

def text : Value → List Char
  | .null => ['n', 'u', 'l', 'l']
  | .bool true => ['t', 'r', 'u', 'e']
  | .bool false => ['f', 'a', 'l', 's', 'e']
  | .int i => intText i
  | .float x => x.text
  | .string s => stringText s
  | .array items => '[' :: (itemsText items ++ [']'])
  | .object members => '\x7b' :: (membersText members ++ ['\x7d'])

def itemsText : List Value → List Char
  | [] => []
  | [v] => text v
  | v :: w :: rest => text v ++ ',' :: itemsText (w :: rest)

def membersText : List (String × Value) → List Char
  | [] => []
  | [(k, v)] => stringText k ++ ':' :: text v
  | (k, v) :: m :: rest => stringText k ++ ':' :: (text v ++ ',' :: membersText (m :: rest))

end

def compact (v : Value) : String :=
  String.ofList v.text

end Value

example : (Value.object [("a", .array [.int 1, .null]), ("b", .string "x\x01\"")]).compact
    = "\x7b\"a\":[1,null],\"b\":\"x\\u0001\\\"\"\x7d" := by decide +kernel

end WritePath.Json
