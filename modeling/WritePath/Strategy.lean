import WritePath.Json.Outline
import WritePath.Json.Printer

/-!
# Strategies

A workset says for commits and for refreshes whether it leaves them to the processor or insists on them
before it counts as done.  Both choices have the same two values.

In JSON a strategy is its word, or an object whose only member is the word with `null` under it.
-/

namespace WritePath

/-- Whether a step is left to the processor or must happen before a workset is done. -/
inductive Strategy where
  | none
  | force
  deriving DecidableEq, Repr, Inhabited

namespace Strategy

def word : Strategy → String
  | .none => "none"
  | .force => "force"

def ofWord? : String → Option Strategy
  | "none" => some .none
  | "force" => some .force
  | _ => Option.none

def json (s : Strategy) : Json.Value :=
  .string s.word

/-- Reads either JSON form. -/
def read? (s : String) : Option Strategy := do
  match ← Json.Outline.read? (fun _ => true) s with
  | .value (.string w) => ofWord? w
  | .fields [(w, .null)] => ofWord? w
  | _ => Option.none

@[simp] theorem ofWord?_word (s : Strategy) : ofWord? s.word = some s := by cases s <;> rfl

end Strategy

structure Strategies where
  commit : Strategy := .none
  refresh : Strategy := .none
  deriving DecidableEq, Repr, Inhabited

namespace Strategies

/-- A commit is needed for its own sake, or because a refresh shows committed changes only. -/
def needsCommit (s : Strategies) : Bool :=
  s.commit == .force || s.refresh == .force

theorem needsCommit_iff {s : Strategies} :
    s.needsCommit = true ↔ s.commit = .force ∨ s.refresh = .force := by
  simp [needsCommit]

end Strategies

end WritePath
