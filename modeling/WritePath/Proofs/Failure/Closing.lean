import WritePath.Failure.Closer

/-!
# Nothing is lost at the end

What becomes of a tree of release actions.  Every action is begun once, in
depth-first order, whatever failed before it (`begun_run`).  The failures that the
actions at the leaves end with are all in the one failure at the end.

A leaf may fail with the failure of a shutdown, which looks like the end of a group
from the outside.  So what a run leaves of a tree is described by a tree of its own
(`Remains`): the leaves that fail and the groups around them, without the branches
that succeed.  `Remains.failure` is the failure such a tree turns into, and
`Remains.leaves` reads it, the source of a group before what is suppressed.
-/

namespace WritePath

mutual

/-- The failures below the failure of a shutdown, the source first; any other failure
is alone. -/
def Failure.spread : Failure → List Failure
  | .shutdown _ source suppressed => source.spread ++ Failure.spreadAll suppressed
  | e => [e]

def Failure.spreadAll : List Failure → List Failure
  | [] => []
  | e :: rest => e.spread ++ Failure.spreadAll rest

end

/-- What a run leaves of a tree of actions. -/
inductive Remains where
  | leaf (e : Failure)
  /-- A group of which some parts failed. -/
  | group (action : String) (first : Remains) (others : List Remains)

namespace Remains

mutual

/-- The failure that the group in charge is told. -/
def failure : Remains → Failure
  | .leaf e => e
  | .group action first others => .shutdown action first.failure (failures others)

def failures : List Remains → List Failure
  | [] => []
  | t :: rest => t.failure :: failures rest

end

mutual

/-- The failures of the leaves, the source of every group first. -/
def leaves : Remains → List Failure
  | .leaf e => [e]
  | .group _ first others => first.leaves ++ leavesOf others

def leavesOf : List Remains → List Failure
  | [] => []
  | t :: rest => t.leaves ++ leavesOf rest

end

theorem failures_append (a b : List Remains) : failures (a ++ b) = failures a ++ failures b := by
  induction a with
  | nil => rfl
  | cons t rest ih => rw [List.cons_append, failures, ih, failures, List.cons_append]

theorem leaves_ne_nil : ∀ t : Remains, t.leaves ≠ []
  | .leaf _ => List.cons_ne_nil _ _
  | .group _ first others => by
    rw [leaves]
    exact List.append_ne_nil_of_left_ne_nil first.leaves_ne_nil _

mutual

/-- Whoever takes the failure of a group apart finds the failures of the leaves. -/
theorem spread_failure : ∀ t : Remains, t.failure.spread = t.leaves.flatMap Failure.spread
  | .leaf e => (List.flatMap_singleton Failure.spread e).symm
  | .group action first others => by
    rw [failure, Failure.spread, leaves, List.flatMap_append, spread_failure first,
      spreadAll_failures others]

theorem spreadAll_failures : ∀ parts : List Remains,
    Failure.spreadAll (failures parts) = (leavesOf parts).flatMap Failure.spread
  | [] => rfl
  | t :: rest => by
    rw [failures, Failure.spreadAll, leavesOf, List.flatMap_append, spread_failure t,
      spreadAll_failures rest]

end

end Remains

namespace Release

/-! ## What there is in a tree -/

mutual

/-- The actions below an action, of every level, each one before those below it. -/
def actions : Release → List Release
  | .succeeds | .fails _ => []
  | .group _ parts => actionsOf parts

def actionsOf : List Release → List Release
  | [] => []
  | part :: rest => part :: (part.actions ++ actionsOf rest)

end

mutual

/-- The failures of the leaves, from left to right. -/
def leafFailures : Release → List Failure
  | .succeeds => []
  | .fails e => [e]
  | .group _ parts => leafFailuresOf parts

def leafFailuresOf : List Release → List Failure
  | [] => []
  | part :: rest => part.leafFailures ++ leafFailuresOf rest

end

def hasFailure (r : Release) : Bool :=
  !r.leafFailures.isEmpty

mutual

/-- The tree without the branches that succeed, if anything is left. -/
def remains : Release → Option Remains
  | .succeeds => none
  | .fails e => some (.leaf e)
  | .group action parts =>
    match remainsOf parts with
    | [] => none
    | first :: others => some (.group action first others)

def remainsOf : List Release → List Remains
  | [] => []
  | part :: rest => part.remains.toList ++ remainsOf rest

end

mutual

/-- No leaf is lost with the branches that succeed, and none is moved. -/
theorem leaves_remains : ∀ r : Release, Remains.leavesOf r.remains.toList = r.leafFailures
  | .succeeds => rfl
  | .fails _ => rfl
  | .group action parts => by
    rw [leafFailures, ← leavesOf_remainsOf parts, remains]
    cases remainsOf parts with
    | nil => rfl
    | cons first others => exact List.append_nil _

theorem leavesOf_remainsOf : ∀ parts : List Release,
    Remains.leavesOf (remainsOf parts) = leafFailuresOf parts
  | [] => rfl
  | part :: rest => by
    rw [leafFailuresOf, ← leaves_remains part, ← leavesOf_remainsOf rest, remainsOf]
    cases part.remains with
    | none => rfl
    | some t => simp [Remains.leavesOf]

end

/-- Nothing is left of a tree exactly if no leaf of it fails. -/
theorem remains_eq_none_iff (r : Release) : r.remains = none ↔ r.hasFailure = false := by
  rw [hasFailure, ← leaves_remains r]
  cases r.remains with
  | none => simp [Remains.leavesOf]
  | some t => simp [Remains.leavesOf, t.leaves_ne_nil]

/-! ## What a run does -/

/-- The end of a group of which this is left. -/
def outcome : Option Remains → Except Failure Unit
  | none => .ok ()
  | some t => .error t.failure

section

variable (action : String) (closer : Closer) (part : Release) (rest : List Release) (t : Trace)

theorem run_group (parts : List Release) :
    (group action parts).run t = ((runParts {} parts t).1.finish action, (runParts {} parts t).2) := by
  rw [run]

/-- An action that is begun and run by a closer. -/
def pushed : Closer × Trace :=
  closer.push Trace.note (fun t => part.run (t.begin part)) t

theorem runParts_cons :
    runParts closer (part :: rest) t
      = let (closer, t) := pushed closer part t
        runParts closer rest (t.count closer.failureCount) := by
  rw [runParts, pushed]

/-- A closer adds nothing to the record of an action but a line of the log. -/
theorem pushed_eq :
    ∃ log, pushed closer part t
      = (closer.take (part.run (t.begin part)).1, { (part.run (t.begin part)).2 with log := log }) := by
  obtain ⟨t', pushed, same | ⟨level, text, noted⟩⟩ :=
    closer.push_cases Trace.note (fun t => part.run (t.begin part)) t
  · exact ⟨t'.log, by rw [Release.pushed, pushed, ← same]⟩
  · exact ⟨t'.log, by rw [Release.pushed, pushed, noted]; rfl⟩

theorem begun_pushed : (pushed closer part t).2.begun = (part.run (t.begin part)).2.begun := by
  obtain ⟨log, h⟩ := pushed_eq closer part t
  rw [h]

theorem counts_pushed : (pushed closer part t).2.counts = (part.run (t.begin part)).2.counts := by
  obtain ⟨log, h⟩ := pushed_eq closer part t
  rw [h]

theorem closer_pushed :
    (pushed closer part t).1 = closer.take (part.run (t.begin part)).1 := by
  obtain ⟨log, h⟩ := pushed_eq closer part t
  rw [h]

/-- A closer takes what is left of an action. -/
theorem failures_take_outcome (left : Option Remains) :
    (closer.take (outcome left)).failures
      = closer.failures ++ Remains.failures left.toList := by
  cases left with
  | none => exact (List.append_nil _).symm
  | some t => rfl

end

mutual

/-- A run ends with the failure of what is left of the tree, whatever was done
before. -/
theorem run_result : ∀ (r : Release) (t : Trace), (r.run t).1 = outcome r.remains
  | .succeeds, t => by rw [run, remains, outcome]
  | .fails e, t => by rw [run, remains, outcome, Remains.failure]
  | .group action parts, t => by
    have kept := failures_runParts {} parts t
    rw [List.nil_append] at kept
    rw [run_group, Closer.finish, kept, remains]
    cases remainsOf parts with
    | nil => rfl
    | cons first others => rfl

/-- A closer that is done with the parts holds the failures of what is left of
them, after those it held before. -/
theorem failures_runParts : ∀ (closer : Closer) (parts : List Release) (t : Trace),
    (runParts closer parts t).1.failures = closer.failures ++ Remains.failures (remainsOf parts)
  | closer, [], t => by rw [runParts, remainsOf, Remains.failures, List.append_nil]
  | closer, part :: rest, t => by
    rw [runParts_cons, failures_runParts _ rest, closer_pushed, run_result part,
      failures_take_outcome, remainsOf, Remains.failures_append, List.append_assoc]

end

mutual

/-- Every action of every level is begun once, those below it after it and before
the next one of its level. -/
theorem begun_run : ∀ (r : Release) (t : Trace), (r.run t).2.begun = t.begun ++ r.actions
  | .succeeds, t => by rw [run, actions, List.append_nil]
  | .fails e, t => by rw [run, actions, List.append_nil]
  | .group action parts, t => by rw [run_group, begun_runParts {} parts, actions]

theorem begun_runParts : ∀ (closer : Closer) (parts : List Release) (t : Trace),
    (runParts closer parts t).2.begun = t.begun ++ actionsOf parts
  | closer, [], t => by rw [runParts, actionsOf, List.append_nil]
  | closer, part :: rest, t => by
    have begun := begun_pushed closer part t
    rw [begun_run part, Trace.begin] at begun
    rw [runParts_cons, begun_runParts _ rest, Trace.count, begun, actionsOf]
    simp

end

theorem failureCount_pushed (closer : Closer) (part : Release) (t : Trace) :
    (pushed closer part t).1.failureCount
      = closer.failureCount + [part].countP hasFailure := by
  rw [closer_pushed, Closer.failureCount, run_result, failures_take_outcome, List.length_append,
    Closer.failureCount]
  cases left : part.remains with
  | none => simp [(remains_eq_none_iff part).mp left, Remains.failures]
  | some t =>
    have fails : part.hasFailure = true := by
      cases none : part.hasFailure with
      | true => rfl
      | false => simp [(remains_eq_none_iff part).mpr none] at left
    simp [fails, Remains.failures]

mutual

theorem counts_run : ∀ (r : Release) (t : Trace),
    (r.run t).2.counts = t.counts ++ (r.run {}).2.counts
  | .succeeds, t => by simp only [run, List.append_nil]
  | .fails e, t => by simp only [run, List.append_nil]
  | .group action parts, t => by
    rw [run_group, run_group, counts_runParts {} parts t, counts_runParts {} parts {},
      List.nil_append]

/-- After each action the closer in charge has counted the actions of its level that
have failed so far. -/
theorem counts_runParts : ∀ (closer : Closer) (parts : List Release) (t : Trace),
    (runParts closer parts t).2.counts = t.counts ++ parts.zipIdx.flatMap fun (part, i) =>
      (part.run {}).2.counts ++ [closer.failureCount + (parts.take (i + 1)).countP hasFailure]
  | closer, [], t => by rw [runParts, List.zipIdx_nil, List.flatMap_nil, List.append_nil]
  | closer, part :: rest, t => by
    -- what comes before an action of the rest is the first action and what comes
    -- before it in the rest
    have later (i : Nat) : ((part :: rest).take (i + 1 + 1)).countP hasFailure
        = [part].countP hasFailure + (rest.take (i + 1)).countP hasFailure := by
      rw [List.take_succ_cons, ← List.countP_append, List.singleton_append]
    have counts := counts_pushed closer part t
    rw [counts_run part, Trace.begin] at counts
    rw [runParts_cons, counts_runParts _ rest, Trace.count, counts, failureCount_pushed,
      List.zipIdx_cons, List.zipIdx_succ, List.flatMap_cons, List.flatMap_map]
    simp only [later, Nat.add_assoc, List.append_assoc]
    rfl

end

/-- **Nothing is lost.**  A group of release actions is run, with groups inside it.

* Every action of every level is begun once, in depth-first order, whatever failed
  before it.
* The group succeeds exactly if no leaf of it fails.
* Otherwise it ends with the failure of what is left of it without the branches that
  succeed: of every level the first failing action is the source, and the others are
  suppressed, in their order.
* Read from the sources on, what is left has the failures of the leaves, each of them
  once, in the order of execution; taken apart as far as possible, the failure of the
  group consists of what they consist of.
* After each action of the group, whose own actions come before it, the closer has
  counted the actions of this level that have failed so far. -/
theorem run_loses_nothing (action : String) (parts : List Release) :
    let closing := Release.group action parts
    (closing.run {}).2.begun = closing.actions
      ∧ ((closing.run {}).1 = .ok () ↔ closing.leafFailures = [])
      ∧ (closing.run {}).1 = outcome closing.remains
      ∧ closing.remains.toList.flatMap Remains.leaves = closing.leafFailures
      ∧ (∀ e, (closing.run {}).1 = .error e →
          e.spread = closing.leafFailures.flatMap Failure.spread)
      ∧ (closing.run {}).2.counts = parts.zipIdx.flatMap fun (part, i) =>
          (part.run {}).2.counts ++ [(parts.take (i + 1)).countP hasFailure] := by
  intro closing
  have kept := leaves_remains closing
  refine ⟨begun_run closing {}, ?succeeds, run_result closing {}, ?leaves, ?spread, ?counts⟩
  case succeeds =>
    rw [run_result closing]
    cases left : closing.remains with
    | none => simp [outcome, ← kept, left, Remains.leavesOf]
    | some t => simp [outcome, ← kept, left, Remains.leavesOf, t.leaves_ne_nil]
  case leaves =>
    rw [← kept]
    cases closing.remains <;> simp [Remains.leavesOf]
  case spread =>
    intro e ended
    rw [run_result closing] at ended
    cases left : closing.remains with
    | none =>
      rw [left] at ended
      cases ended
    | some t =>
      rw [left] at ended
      cases ended
      rw [t.spread_failure, ← kept, left]
      simp [Remains.leavesOf]
  case counts =>
    rw [run_group, counts_runParts]
    simp [Closer.failureCount]

/-- A group in a group, whose second leaf fails with the end of some other group. -/
theorem run_loses_nothing_of_foreign_shutdown :
    let other := Failure.shutdown "b" (.config "x") [.config "y"]
    let parts : List Release := [.succeeds, .group "c" [.fails (.parse "1"), .fails other],
      .group "d" [.succeeds], .fails (.parse "2")]
    let ended := Failure.shutdown "a" (.shutdown "c" (.parse "1") [other]) [.parse "2"]
    ((group "a" parts).run {}).1 = .error ended
      ∧ ((group "a" parts).run {}).2.counts = [0, 1, 2, 1, 0, 1, 2]
      ∧ ended.spread = [.parse "1", .config "x", .config "y", .parse "2"] := by
  intro other parts ended
  have failed : ((group "a" parts).run {}).1 = .error ended := rfl
  exact ⟨failed, rfl, (run_loses_nothing "a" parts).2.2.2.2.1 ended failed⟩

end Release

end WritePath
