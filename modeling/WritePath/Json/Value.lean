import WritePath.Keyed
import WritePath.Decimal.Binary64

/-!
# JSON values

A value of the document format: a number is an integer when it is written as one and fits in
sixty-four bits, signed or unsigned, and a `Binary64` otherwise; an object is a keyed list, so the order
of its members carries no meaning and no member occurs twice.

`nesting` counts how many arrays and objects stand inside one another.  Both the reader and the list
engine set a limit to it (`nestingLimit`), but they measure different texts: the reader the line it is
given, the engine the stored form of a document, which has one object more.
-/

namespace WritePath.Json

inductive Value where
  | null
  | bool (b : Bool)
  | int (i : Int)
  | float (x : Binary64)
  | string (s : String)
  | array (items : List Value)
  | object (members : List (String × Value))
  deriving Inhabited

/-- How many arrays and objects a text may hold inside one another. -/
def nestingLimit : Nat := 127

namespace Value

/-! ## Equality is decidable

By recursion on the left value; the lists inside it take their own functions. -/

mutual

def decEq : (a b : Value) → Decidable (a = b)
  | .null, b => match b with
    | .null => isTrue rfl
    | .bool _ | .int _ | .float _ | .string _ | .array _ | .object _ => isFalse nofun
  | .bool a, b => match b with
    | .bool b => if h : a = b then isTrue (congrArg _ h) else isFalse (fun h' => h (by injection h'))
    | .null | .int _ | .float _ | .string _ | .array _ | .object _ => isFalse nofun
  | .int a, b => match b with
    | .int b => if h : a = b then isTrue (congrArg _ h) else isFalse (fun h' => h (by injection h'))
    | .null | .bool _ | .float _ | .string _ | .array _ | .object _ => isFalse nofun
  | .float a, b => match b with
    | .float b => if h : a = b then isTrue (congrArg _ h) else isFalse (fun h' => h (by injection h'))
    | .null | .bool _ | .int _ | .string _ | .array _ | .object _ => isFalse nofun
  | .string a, b => match b with
    | .string b => if h : a = b then isTrue (congrArg _ h) else isFalse (fun h' => h (by injection h'))
    | .null | .bool _ | .int _ | .float _ | .array _ | .object _ => isFalse nofun
  | .array a, b => match b with
    | .array b => match decEqItems a b with
      | isTrue h => isTrue (congrArg _ h)
      | isFalse h => isFalse (fun h' => h (by injection h'))
    | .null | .bool _ | .int _ | .float _ | .string _ | .object _ => isFalse nofun
  | .object a, b => match b with
    | .object b => match decEqMembers a b with
      | isTrue h => isTrue (congrArg _ h)
      | isFalse h => isFalse (fun h' => h (by injection h'))
    | .null | .bool _ | .int _ | .float _ | .string _ | .array _ => isFalse nofun

def decEqItems : (a b : List Value) → Decidable (a = b)
  | [], [] => isTrue rfl
  | [], _ :: _ => isFalse nofun
  | _ :: _, [] => isFalse nofun
  | v :: a, w :: b => match decEq v w, decEqItems a b with
    | isTrue h, isTrue h' => isTrue (by rw [h, h'])
    | isFalse h, _ => isFalse (fun e => h (by injection e))
    | _, isFalse h => isFalse (fun e => h (by injection e))

def decEqMembers : (a b : List (String × Value)) → Decidable (a = b)
  | [], [] => isTrue rfl
  | [], _ :: _ => isFalse nofun
  | _ :: _, [] => isFalse nofun
  | (k, v) :: a, (l, w) :: b => match decEq v w, decEqMembers a b with
    | isTrue h, isTrue h' =>
      if e : k = l then isTrue (by rw [h, h', e])
      else isFalse (fun q => e (by injection q with q _; injection q))
    | isFalse h, _ => isFalse (fun q => h (by injection q with q _; injection q))
    | _, isFalse h => isFalse (fun q => h (by injection q))

end

instance : DecidableEq Value := decEq

/-! ## Nesting and parts -/

mutual

/-- The number of arrays and objects inside one another. -/
def nesting : Value → Nat
  | .array items => nestingItems items + 1
  | .object members => nestingMembers members + 1
  | .null | .bool _ | .int _ | .float _ | .string _ => 0

def nestingItems : List Value → Nat
  | [] => 0
  | v :: rest => max (nesting v) (nestingItems rest)

def nestingMembers : List (String × Value) → Nat
  | [] => 0
  | (_, v) :: rest => max (nesting v) (nestingMembers rest)

end

mutual

/-- A text in the value has a property; names of members do not count. -/
def hasText (p : String → Bool) : Value → Bool
  | .string s => p s
  | .array items => hasTextItems p items
  | .object members => hasTextMembers p members
  | .null | .bool _ | .int _ | .float _ => false

def hasTextItems (p : String → Bool) : List Value → Bool
  | [] => false
  | v :: rest => hasText p v || hasTextItems p rest

def hasTextMembers (p : String → Bool) : List (String × Value) → Bool
  | [] => false
  | (_, v) :: rest => hasText p v || hasTextMembers p rest

end

/-- `depth` arrays inside each other, the innermost one empty; `null` for none. -/
def nested : Nat → Value
  | 0 => .null
  | 1 => .array []
  | n + 1 => .array [nested n]

def text? : Value → Option String
  | .string s => some s
  | _ => none

def members? : Value → Option (Keyed Value)
  | .object members => some members
  | _ => none

def member? (v : Value) (name : String) : Option Value :=
  v.members?.bind (Keyed.get? name)

/-- The integer fits in sixty-four bits, signed or unsigned. -/
def fits (i : Int) : Bool :=
  -9223372036854775808 ≤ i && i < 18446744073709551616

example : (nested 3).nesting = 3 := by decide

end Value

end WritePath.Json
