/-!
# Bytes in sixty-four characters

Three bytes are written as four characters of six bits each.  At the end one or two bytes may be left, which
are written as two or three characters, and equal signs make up for those that are missing.  Of the last
character before them the bits that belong to no byte are zero, so bytes have one written form.
-/

namespace WritePath.Text.Base64

/-- The characters for the numbers below sixty-four. -/
def alphabet : List Char :=
  "ABCDEFGHIJKLMNOPQRSTUVWXYZabcdefghijklmnopqrstuvwxyz0123456789+/".toList

def digit? (c : Char) : Option Nat :=
  alphabet.findIdx? (· == c)

/-- The bytes of a group that is complete. -/
def group? (a b c d : Char) : Option (List UInt8) := do
  let n := ((((← digit? a) * 64 + (← digit? b)) * 64 + (← digit? c)) * 64 + (← digit? d))
  return [n / 65536, n / 256 % 256, n % 256].map UInt8.ofNat

/-- The bytes of the last group: all three, or two or one of them before equal signs. -/
def lastGroup? (a b c d : Char) : Option (List UInt8) :=
  if d = '=' then
    if c = '=' then (group? a b 'A' 'A').bind fun
      | [x, 0, 0] => some [x]
      | _ => none
    else (group? a b c 'A').bind fun
      | [x, y, 0] => some [x, y]
      | _ => none
  else group? a b c d

def decode : List Char → Option (List UInt8)
  | [] => some []
  | [a, b, c, d] => lastGroup? a b c d
  | a :: b :: c :: d :: rest => do
    let bytes ← group? a b c d
    return bytes ++ (← decode rest)
  | _ => none

example : decode "TWFu".toList = some [77, 97, 110] := by decide +kernel

example : decode "YQ==".toList = some [97] := by decide +kernel

example : ["YQ", "YR==", "Y Q=", "Y===", "YQ==YQ=="].all (fun s => (decode s.toList).isNone) = true := by
  decide +kernel

end WritePath.Text.Base64
