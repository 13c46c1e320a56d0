import WritePath.Json.Reader

/-!
# Addresses of machines

An address has sixteen bytes, in eight groups of two.  It is written as the groups in hexadecimal digits with
colons between them; once two colons in a row may stand for groups of zeros, at least one.  The last two
groups may be written as four decimal numbers with points between them.  Four such numbers alone are an
address of the older kind, whose place among the new ones is fixed.
-/

namespace WritePath.Address

abbrev Bytes := List UInt8

/-- Reads a decimal number of at most three digits below 256, without a zero before other digits. -/
def octet? (cs : List Char) : Option (UInt8 × List Char) :=
  match Json.digits cs with
  | ([], _) => none
  | ('0' :: _ :: _, _) => none
  | (ds, rest) =>
    let n := Nat.ofDigitChars 10 ds 0
    if ds.length ≤ 3 && n < 256 then some (UInt8.ofNat n, rest) else none

/-- The text after one given character. -/
def after? (c : Char) : List Char → Option (List Char)
  | d :: rest => if d = c then some rest else none
  | [] => none

/-- Reads four decimal numbers with points between them. -/
def dotted? (cs : List Char) : Option (Bytes × List Char) := do
  let (a, cs) ← octet? cs
  let (b, cs) ← octet? (← after? '.' cs)
  let (c, cs) ← octet? (← after? '.' cs)
  let (d, cs) ← octet? (← after? '.' cs)
  return ([a, b, c, d], cs)

/-- Reads a group: one to four hexadecimal digits. -/
def group? (cs : List Char) : Option (Bytes × List Char) :=
  let ds := cs.takeWhile (fun c => (Json.hexDigit? c).isSome)
  if ds.isEmpty || 4 < ds.length then none
  else
    let n := ds.foldl (fun n c => n * 16 + (Json.hexDigit? c).getD 0) 0
    some ([UInt8.ofNat (n / 256), UInt8.ofNat (n % 256)], cs.drop ds.length)

/-- The groups that were read, with what is left. -/
structure Groups where
  bytes : Bytes := []
  /-- The last two groups were written as decimal numbers. -/
  dotted : Bool := false
  rest : List Char

/-- Reads groups as far as there are any, at most so many; `first` says that no colon stands before them. -/
def groups (first : Bool) : Nat → List Char → Groups
  | 0, cs => { rest := cs }
  | n + 1, cs =>
    match if first then some cs else after? ':' cs with
    | none => { rest := cs }
    | some inner =>
      match if 0 < n then dotted? inner else none with
      | some (bytes, rest) => ⟨bytes, true, rest⟩
      | none =>
        match group? inner with
        | none => { rest := cs }
        | some (bytes, rest) =>
          let more := groups false n rest
          { more with bytes := bytes ++ more.bytes }

/-- The bytes of an address of eight groups. -/
def eightGroups? (cs : List Char) : Option Bytes :=
  let head := groups true 8 cs
  if head.bytes.length = 16 then if head.rest.isEmpty then some head.bytes else none
  else if head.dotted then none
  else match head.rest with
    | ':' :: ':' :: rest =>
      let tail := groups true (7 - head.bytes.length / 2) rest
      let gap := 16 - head.bytes.length - tail.bytes.length
      if tail.rest.isEmpty then some (head.bytes ++ List.replicate gap 0 ++ tail.bytes) else none
    | _ => none

def read? (s : String) : Option Bytes :=
  match dotted? s.toList with
  | some (bytes, []) => some (List.replicate 10 0 ++ [255, 255] ++ bytes)
  | some (_, _ :: _) => none
  | none => eightGroups? s.toList

example : ["::", "::1", "1.2.3.4", "::ffff:1.2.3.4", "1:2:3:4:5:6:7:8", "1:2:3:4:5:6:7::", "1::8",
    "1:2:3:4:5:6:1.2.3.4"].all (fun s => (read? s).map List.length == some 16) = true := by decide +kernel

example : ["", ":", ":::", "1.2.3", "01.2.3.4", "1.2.3.256", "1:2:3:4:5:6:7", "1:2:3:4:5:6:7:8:9",
    "1:2:3:4:5:6:7:8::", "12345::", "::1.2.3.4:5", "::1%1", "1:2:3:4:5:6:7:1.2.3.4"].all
    (fun s => (read? s).isNone) = true := by decide +kernel

end WritePath.Address
