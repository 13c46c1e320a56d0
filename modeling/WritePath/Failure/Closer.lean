import WritePath.Failure
import WritePath.Log

/-!
# Releasing resources in order

A `Closer` runs release actions one after the other, and keeps their failures.  A failed action never keeps
the following ones from running; at the end all failures become one, whose source is the first of them and
which holds the others as suppressed.

An action is a call on whatever is being released (`push`).  `Release` is a tree of actions that change
nothing but the record of what was done: one that succeeds, one that fails, or a group with a closer of its
own, whose end is the result of the group.
-/

namespace WritePath

/-- The failures of the actions so far, oldest first. -/
structure Closer where
  failures : List Failure := []

namespace Closer

/-- Keeps the failure of an action. -/
def take (c : Closer) : Except Failure Unit → Closer
  | .ok _ => c
  | .error e => ⟨c.failures ++ [e]⟩

/-- Runs an action now.  A failure is kept, and `note` puts it into the log. -/
def push {σ : Type} (note : σ → Log.Level → String → σ) (action : Call σ Unit) (c : Closer) (s : σ) :
    Closer × σ :=
  let (result, s) := action s
  (c.take result,
    match result with
    | .ok _ => s
    | .error e => note s .debug ("Release action failed: " ++ e.message))

def failureCount (c : Closer) : Nat :=
  c.failures.length

/-- The one result of all actions; `action` says what was being released. -/
def finish (c : Closer) (action : String) : Except Failure Unit :=
  match c.failures with
  | [] => .ok ()
  | first :: rest => .error (.shutdown action first rest)

/-- The action is run once, whatever failed before it.  What it has done stays as it is, but that there may be
a note of its failure. -/
theorem push_cases {σ : Type} (note : σ → Log.Level → String → σ) (action : Call σ Unit) (c : Closer)
    (s : σ) :
    ∃ s', c.push note action s = (c.take (action s).1, s')
      ∧ (s' = (action s).2 ∨ ∃ level text, s' = note (action s).2 level text) := by
  unfold push
  rcases action s with ⟨e | _, after⟩
  · exact ⟨_, rfl, .inr ⟨_, _, rfl⟩⟩
  · exact ⟨_, rfl, .inl rfl⟩

/-- Whoever cannot tell two actions apart cannot tell what a closer does with them. -/
theorem push_map {σ τ : Type} {f : σ → τ} {note : σ → Log.Level → String → σ}
    {note' : τ → Log.Level → String → τ}
    (noted : ∀ s level text, note' (f s) level text = f (note s level text))
    {action : Call σ Unit} {action' : Call τ Unit}
    (same : ∀ s, action' (f s) = ((action s).1, f (action s).2)) (c : Closer) (s : σ) :
    c.push note' action' (f s) = ((c.push note action s).1, f (c.push note action s).2) := by
  simp only [push, same]
  rcases action s with ⟨e | _, s'⟩
  · exact congrArg (Prod.mk _) (noted ..)
  · rfl

end Closer

inductive Release where
  | succeeds
  | fails (e : Failure)
  /-- Runs its parts with a closer of its own. -/
  | group (action : String) (parts : List Release)
  deriving Inhabited

namespace Release

structure Trace where
  /-- The actions, in the order in which they were begun. -/
  begun : List Release := []
  /-- The failure count of the closer in charge, after each action. -/
  counts : List Nat := []
  log : List Log.Record := []

namespace Trace

def begin (t : Trace) (r : Release) : Trace :=
  { t with begun := t.begun ++ [r] }

def count (t : Trace) (n : Nat) : Trace :=
  { t with counts := t.counts ++ [n] }

def note (t : Trace) (level : Log.Level) (text : String) : Trace :=
  { t with log := t.log ++ [⟨level, text⟩] }

end Trace

mutual

def run : Release → Call Trace Unit
  | .succeeds, t => (.ok (), t)
  | .fails e, t => (.error e, t)
  | .group action parts, t =>
    let (closer, t) := runParts {} parts t
    (closer.finish action, t)

/-- Pushes the parts of a group to the closer of the group. -/
def runParts (closer : Closer) : List Release → Trace → Closer × Trace
  | [], t => (closer, t)
  | part :: rest, t =>
    let (closer, t) := closer.push Trace.note (fun t => part.run (t.begin part)) t
    runParts closer rest (t.count closer.failureCount)

end

end Release

end WritePath
