import WritePath.Json.Value

/-!
# Forms of JSON values

What a value has to look like where most of it is only checked and not kept.  A `Form` is a test of a value.
A `Layout` is the form of a record: an object with these members, or the array of them in their order.  An
object may have other members too, but none of these twice, and an array may leave off its last items if they
may be missing.
-/

namespace WritePath.Json

/-- A test of a value. -/
abbrev Form := Value → Bool

namespace Form

def truth : Form
  | .bool _ => true
  | _ => false

def text : Form
  | .string _ => true
  | _ => false

/-- A whole number from zero up to a limit that is not reached. -/
def below (limit : Nat) : Form
  | .int i => 0 ≤ i && i < limit
  | _ => false

/-- A text with a property. -/
def textThat (p : String → Bool) : Form
  | .string s => p s
  | _ => false

/-- The word that a value is: a text, or the only member of an object, with nothing in it. -/
def wordOf? : Value → Option String
  | .string s | .object [(s, .null)] | .object [(s, .object [])] => some s
  | _ => none

def word (words : List String) : Form := fun v =>
  (wordOf? v).any words.contains

def orNull (f : Form) : Form
  | .null => true
  | v => f v

def either (f g : Form) : Form := fun v =>
  f v || g v

def list (f : Form) : Form
  | .array items => items.all f
  | _ => false

end Form

/-- Where a member of a record must be given. -/
inductive Need where
  | always
  /-- In an array, but not in an object. -/
  | inArrays
  | never
  deriving DecidableEq, Repr

/-- A member of a record. -/
structure Slot where
  name : String
  form : Form
  need : Need := .never

/-- The form of a record. -/
abbrev Layout := List Slot

namespace Layout

/-- What an object has under a name. -/
def valuesAt (name : String) (members : List (String × Value)) : List Value :=
  (members.filter (·.1 == name)).map (·.2)

/-- What a record has for a slot. -/
def slotValue? (l : Layout) (name : String) : Value → Option Value
  | .object members => (valuesAt name members).head?
  | .array items => items[l.findIdx (·.name == name)]?
  | _ => none

/-- The values that an object has for a slot are what it needs. -/
def Slot.admits (slot : Slot) : List Value → Bool
  | [] => slot.need != .always
  | [v] => slot.form v
  | _ => false

/-- A value is a record of this layout. -/
def admits (l : Layout) : Form
  | .object members => l.all (fun slot => Slot.admits slot (valuesAt slot.name members))
  | .array items =>
    items.length ≤ l.length
      && (items.zip l).all (fun p => p.2.form p.1)
      && (l.drop items.length).all (·.need == .never)
  | _ => false

/-- A value is a record of this layout, and is spelled as an object. -/
def admitsObject (l : Layout) : Form
  | .object members => l.admits (.object members)
  | _ => false

end Layout

example : (Layout.admits [⟨"a", .truth, .always⟩, ⟨"b", .orNull .text, .inArrays⟩])
    (.object [("a", .bool true), ("c", .null)]) = true := by decide +kernel

example : (Layout.admits [⟨"a", .truth, .never⟩]) (.object [("a", .bool true), ("a", .bool true)]) = false := by
  decide +kernel

end WritePath.Json
