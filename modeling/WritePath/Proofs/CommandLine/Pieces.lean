import WritePath.CommandLine.Import
import WritePath.Proofs.Engine.Upsert
import WritePath.Proofs.Processor.Lasting
import WritePath.Proofs.Queue.Service
import WritePath.Proofs.Workset.Conclusion

/-!
# The pieces of an import

An import comes to the queue in pieces: changesets of updates, and a flush in the
end.  What is staged depends on the pieces that have been run and on nothing else
(`Holds`), so it does not matter in which batches they are run, and when what is
pending is committed.  After a flush it is also what is committed.

`Holds.of_run` says so for every run of a queue, with what the submitters are
told.
-/

namespace WritePath.Import

open Engine (Listing)
open Engine.Listing (written)
open Workset (Executes)

/-- A workset of an import. -/
inductive Piece where
  | part (docs : List Document)
  | flush

namespace Piece

def workset : Piece → Workset
  | .part docs => changeset docs
  | .flush => Workset.flush

/-- What the submitter is told: the failure of the first document that is not
taken. -/
def answer (receives : Document → Reception) : Piece → Except Failure Output
  | .part docs =>
    match docs.find? fun d => receives d ≠ .taken with
    | some d => .error (Listing.refused d)
    | none => .ok .unit
  | .flush => .ok .unit

def write (segment : Segment) (receives : Document → Reception) : Piece → List Kept → List Kept
  | .part docs => written segment receives docs
  | .flush => id

def writeAll (segment : Segment) (receives : Document → Reception) (pieces : List Piece)
    (docs : List Kept) : List Kept :=
  pieces.foldl (fun docs x => x.write segment receives docs) docs

theorem writeAll_append (segment : Segment) (receives : Document → Reception)
    (pieces : List Piece) (x : Piece) (docs : List Kept) :
    writeAll segment receives (pieces ++ [x]) docs
      = x.write segment receives (writeAll segment receives pieces docs) := by
  simp [writeAll]

end Piece

/-! ## The engine between two pieces -/

/-- What has become of an engine after some pieces. -/
structure Holds (o : Listing) (pieces : List Piece) (l : Listing) : Prop where
  attached : l.detached = false
  rules : l.rules = o.rules
  segment : l.segment = o.segment
  staged : l.staged = Piece.writeAll o.segment o.rules.receives pieces o.staged
  committed : pieces.getLast? = some .flush → l.committed = l.staged

theorem holds_start {o : Listing} (attached : o.detached = false) : Holds o [] o :=
  ⟨attached, rfl, rfl, rfl, nofun⟩

variable {o : Listing} {pieces : List Piece}

theorem Holds.commit {l : Listing} (h : Holds o pieces l) :
    Engine.commit l = (.ok (l.stamp + 1), { l with committed := l.staged, stamp := l.stamp + 1 })
      ∧ Holds o pieces { l with committed := l.staged, stamp := l.stamp + 1 } := by
  refine ⟨?_, h.attached, h.rules, h.segment, h.staged, fun _ => rfl⟩
  show Listing.commit l = _
  rw [Listing.commit, if_neg (by simp [h.attached])]
  rfl

theorem Holds.refresh {l : Listing} (h : Holds o pieces l) :
    Holds o pieces (Engine.refresh l).2 := by
  show Holds o pieces (Listing.refresh l).2
  rw [Listing.refresh, if_neg (by simp [h.attached])]
  exact ⟨h.attached, h.rules, h.segment, h.staged, h.committed⟩

theorem lasting_holds (o : Listing) (pieces : List Piece) :
    Processor.Lasting (Holds o pieces) := by
  refine ⟨fun l h => ?_, fun l h => h.refresh⟩
  obtain ⟨committed, holds⟩ := h.commit
  rw [committed]
  exact holds

/-! ## A piece is run -/

section Run

variable (finds : ∀ id d, o.rules.finds id d = (d.id == id))
variable {p : Processor Listing} (now : Nat) (listening : Bool)

include finds in
theorem Holds.run_part (h : Holds o pieces p.engine) (hw : p.workset = none)
    (docs : List Document) :
    ((Piece.part docs).workset.run now listening p).told
        = some ((Piece.part docs).answer o.rules.receives)
      ∧ Holds o (pieces ++ [.part docs])
          ((Piece.part docs).workset.run now listening p).processor.engine := by
  have finds' : ∀ id d, p.engine.rules.finds id d = (d.id == id) := h.rules ▸ finds
  -- what the works leave is right, whatever the stamps
  have right (stamp : Nat) : Holds o (pieces ++ [.part docs])
      { p.engine with
        staged := written p.engine.segment p.engine.rules.receives docs p.engine.staged
        stamp := stamp } := by
    refine ⟨h.attached, h.rules, h.segment, ?_, fun last => ?_⟩
    · rw [Piece.writeAll_append, ← h.staged, h.segment, h.rules]
      rfl
    · simp at last
  rcases Listing.updates_cases finds' docs with
    ⟨outputs, stamp, taken, executes⟩
    | ⟨before, d, rest, outputs, m, stamp, cut, taken, refused, executes, fails⟩
  · obtain ⟨v, log, answer, ran⟩ := Workset.run_executed (w := changeset docs) now listening hw
      (by rw [changeset, Listing.works_updates]; exact executes) rfl
    obtain rfl : Output.unit = v := Option.some.inj answer
    have none : docs.find? (fun d => o.rules.receives d ≠ .taken) = none := by
      rw [List.find?_eq_none]
      intro d hd
      simpa [h.rules] using taken d hd
    simp only [Piece.workset, Piece.answer, none, ran]
    exact ⟨trivial, right stamp⟩
  · have works : (changeset docs).works = (before.map fun d => .silent (.update d))
        ++ .silent (.update d) :: rest.map fun d => .silent (.update d) := by
      rw [changeset, Listing.works_updates, cut, List.map_append]
      rfl
    obtain ⟨log, log', ran⟩ := Workset.run_failed now listening hw works executes fails
    have first : docs.find? (fun d => o.rules.receives d ≠ .taken) = some d := by
      rw [cut, List.find?_append, List.find?_eq_none.mpr (by simpa [h.rules] using taken),
        Option.none_or, List.find?_cons_of_pos (by simpa [h.rules] using refused)]
    simp only [Piece.workset, Piece.answer, first, ran]
    exact ⟨trivial, right stamp⟩

theorem Holds.run_flush (h : Holds o pieces p.engine) (hw : p.workset = none) :
    (Workset.flush.run now listening p).told = some (.ok .unit)
      ∧ Holds o (pieces ++ [.flush]) (Workset.flush.run now listening p).processor.engine := by
  obtain ⟨committed, holds⟩ := h.commit
  obtain ⟨v, log, answer, ran⟩ := Workset.run_committed (w := Workset.flush) now listening hw
    (.cons rfl (.nil p.engine)) rfl committed
  obtain rfl : Output.unit = v := Option.some.inj answer
  rw [ran]
  refine ⟨rfl, holds.attached, holds.rules, holds.segment, ?_, fun _ => rfl⟩
  rw [Piece.writeAll_append]
  exact holds.staged

include finds in
/-- The submitter of a piece is told its answer, and the documents are those that
it writes. -/
theorem Holds.run (h : Holds o pieces p.engine) (hw : p.workset = none) (x : Piece) :
    (x.workset.run now listening p).told = some (x.answer o.rules.receives)
      ∧ Holds o (pieces ++ [x]) (x.workset.run now listening p).processor.engine := by
  cases x with
  | part docs => exact h.run_part finds now listening hw docs
  | flush => exact h.run_flush now listening hw

end Run

/-! ## Runs of the queue -/

section Queue

open Queue (Step Tidy)

variable {q q' : Queue Listing} {a : Event} {h : History}

/-- Nothing that happens between the pieces makes a difference, unless the worker
comes to its end. -/
theorem Holds.step (holds : Holds o pieces q.processor.engine) (s : Step q a q')
    (quiet : a.runs = []) (open' : q'.phase ≠ .closed) : Holds o pieces q'.processor.engine := by
  have lasting := lasting_holds o pieces
  cases s with
  | arrive | enter | refuse | withdraw | deafen | receive | spurn | crash | reject | draw | drain
  | pass | stop => exact holds
  | run hp hj => cases quiet
  | @endBatch count hp =>
    rw [(Queue.alike_endBatch q count).engine]
    exact lasting.endBatch q.now holds
  | expire hp hd => exact lasting.commitPending q.now holds
  | finish => exact absurd rfl open'

variable (finds : ∀ id d, o.rules.finds id d = (d.id == id))
include finds

theorem Holds.step_run (holds : Holds o pieces q.processor.engine) (t : Tidy h q)
    (s : Step q a q') {ticket : Nat} {x : Piece} (ran : a.runs = [(ticket, .workset x.workset)]) :
    Holds o (pieces ++ [x]) q'.processor.engine
      ∧ (ticket, x.answer o.rules.receives) ∈ q'.told := by
  cases s with
  | @run e count w hp hj =>
    obtain ⟨rfl, rfl⟩ : e.ticket = ticket ∧ w = x.workset := by
      simpa [Event.runs] using ran
    obtain ⟨told, after⟩ := holds.run finds q.now e.listening t.workset x
    constructor
    · have same := (Queue.alike_runWorkset q e x.workset).engine
      rw [← same] at after
      exact after
    · show _ ∈ (q.runWorkset e x.workset).told
      rw [Queue.told_runWorkset, Queue.outcome, told]
      simp
  | _ => cases ran

theorem Holds.of_run (holds : Holds o pieces q.processor.engine) (ready : q.Ready)
    (r : Queue.Run q h q') (open' : q'.phase ≠ .closed) {xs : List Piece}
    (runs : h.runs.map Prod.snd = xs.map fun x => .workset x.workset) :
    Holds o (pieces ++ xs) q'.processor.engine
      ∧ List.Forall₂ (fun s x => (s.1, x.answer o.rules.receives) ∈ q'.told) h.runs xs := by
  refine r.invariant (P := fun h q' => q'.phase ≠ .closed → ∀ xs : List Piece,
    h.runs.map Prod.snd = xs.map (fun x => .workset x.workset) →
      Holds o (pieces ++ xs) q'.processor.engine
        ∧ List.Forall₂ (fun s x => (s.1, x.answer o.rules.receives) ∈ q'.told) h.runs xs)
    ?start ?step open' xs runs
  case start =>
    intro _ xs runs
    obtain rfl : xs = [] := by simpa [History.runs] using runs.symm
    exact ⟨by simpa using holds, .nil⟩
  case step =>
    intro h a q₁ q₂ r ih s open' xs runs
    have before : q₁.phase ≠ .closed := fun closed =>
      open' ((s.afterwards (by rw [closed]; rfl)).phase.trans closed)
    have earlier {l : List Submission} {xs : List Piece}
        (told : List.Forall₂ (fun s x => (s.1, x.answer o.rules.receives) ∈ q₁.told) l xs) :
        List.Forall₂ (fun s x => (s.1, x.answer o.rules.receives) ∈ q₂.told) l xs :=
      told.imp fun _ _ mem => s.told_prefix.subset mem
    rw [History.runs_snoc] at runs ⊢
    rcases hr : a.runs with _ | ⟨⟨ticket, job⟩, more⟩
    · rw [hr, List.append_nil] at runs
      obtain ⟨holds', told⟩ := ih before xs runs
      rw [List.append_nil]
      exact ⟨holds'.step s hr open', earlier told⟩
    · obtain rfl : more = [] := by
        cases a <;> simp_all [Event.runs]
      rw [hr, List.map_append] at runs
      obtain ⟨xs', last, rfl, runs', ran⟩ := List.map_eq_append_iff.mp runs.symm
      obtain ⟨x, rfl, rfl⟩ : ∃ x : Piece, last = [x] ∧ Job.workset x.workset = job :=
        List.map_eq_singleton_iff.mp ran
      obtain ⟨holds', told⟩ := ih before xs' runs'.symm
      obtain ⟨holds'', mine⟩ := holds'.step_run finds (ready.tidy_run r) s hr
      rw [List.append_assoc] at holds''
      exact ⟨holds'', List.rel_append (earlier told) (.cons mine .nil)⟩

end Queue

end WritePath.Import
