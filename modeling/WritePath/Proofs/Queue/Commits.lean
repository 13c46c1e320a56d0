import WritePath.Proofs.Processor.Pending
import WritePath.Proofs.Queue.Replay
import WritePath.Proofs.Workset.Conclusion

/-!
# The commits of a run

Which commits a run attempts, in order, and who has asked for each of them.  A
commit is attempted for a workset that insists on it, at the end of a batch, when
the time is up, or by a worker that comes to its end.

As everywhere, an engine that counts says what was attempted (`Recorded`), and
nothing that it counts is missing here (`attempts_act`).

What a step has to do with commits is `Charged`: it attempts one commit at most,
which sets the time of the last one and ends what is pending, or it leaves the
time as it is, and then something is pending that was before or a work was done.
Two things follow along a run: the time of the last commit is the one that the
run knows of (`lastCommit_act`), and something is pending exactly if a work was
done and no commit was attempted after it (`pending_act`).
-/

namespace WritePath

/-! ## What a counting engine has seen before -/

/-- The engine with other commits before its own. -/
def Recorded.behind {ε : Type} (earlier : List (Except Failure Stamp)) (r : Recorded ε) :
    Recorded ε :=
  { r with attempts := earlier ++ r.attempts }

theorem faithful_behind {ε : Type} [Engine ε] (earlier : List (Except Failure Stamp)) :
    Faithful (Recorded.behind earlier : Recorded ε → Recorded ε) := by
  refine ⟨fun _ _ => rfl, fun _ _ => rfl, fun _ => rfl, fun r => ?_, fun _ => rfl, fun _ => rfl⟩
  show Recorded.commit _ = _
  simp only [Engine.commit, Recorded.commit, Recorded.behind, List.append_assoc]

open Processor in
theorem Event.act_carried {δ ε : Type} [Engine δ] [Engine ε] {f : δ → ε} (hf : Faithful f)
    (a : Event) (past : Journal) (p : Processor δ) :
    a.act (p.carried f past) = (a.act p).carried f past := by
  cases a with
  | received s => exact congrArg Prod.snd (through_beginBatch p)
  | ran ticket w now => exact congrArg Settled.processor (carried_run hf now true w p)
  | ended now => exact congrArg Prod.snd (through_endBatch hf.consistent now p)
  | expired now => exact carried_commitPending hf.consistent now p
  | finished now => exact congrArg Prod.snd (through_close hf now p)
  | _ => rfl

variable {ε : Type} [Engine ε]

open Processor in
theorem Event.act_recorded (a : Event) (p : Processor ε) :
    (a.act p.recorded).carried Recorded.engine ⟨p.journal.handling, [], [], []⟩ = a.act p := by
  rw [← a.act_carried faithful_recorded]
  simp only [carried, Journal.nothing_after]
  rfl

theorem Event.pending_recorded (a : Event) (p : Processor ε) :
    (a.act p.recorded).pending = (a.act p).pending :=
  congrArg Processor.pending (a.act_recorded p)

/-! ## What no step changes -/

theorem Workset.run_refused {w : Workset} {p : Processor ε} {o : OpenWorkset} (now : Nat)
    (listening : Bool) :
    p.workset = some o →
      w.run now listening p = ⟨.error (Misuse.worksetIsOpen.failure p.index), none, p⟩ := by
  intro hw
  simp only [run, Call.andThen, Processor.beforeWorkset, hw, Processor.refuse]

open Processor in
theorem Event.fixed_act (a : Event) (p : Processor ε) : Fixed p (a.act p) := by
  cases a with
  | received s => exact Processor.fixed_act 0 .beginBatch p
  | ran ticket w now =>
    cases hw : p.workset with
    | none => exact (w.run_frame now true hw).1.fixed
    | some o =>
      show Fixed p (w.run now true p).processor
      rw [Workset.run_refused now true hw]
      exact ⟨rfl, rfl, rfl⟩
  | ended now => exact Processor.fixed_act now .endBatch p
  | expired now => exact Processor.fixed_act now .commitPending p
  | finished now => exact (close_frame now p).1.fixed
  | _ => exact ⟨rfl, rfl, rfl⟩

theorem History.fixed_act (h : History) (p : Processor ε) : Processor.Fixed p (h.act p) := by
  induction h generalizing p with
  | nil => exact ⟨rfl, rfl, rfl⟩
  | cons a h ih => exact (a.fixed_act p).trans (ih (a.act p))

/-! ## Attempts -/

inductive Initiator where
  /-- A workset that insists on it. -/
  | workset
  /-- The end of a batch. -/
  | batch
  /-- The worker that has waited long enough. -/
  | timer
  /-- The end of the worker. -/
  | close
  deriving DecidableEq

structure Attempt where
  initiator : Initiator
  time : Nat
  result : Except Failure Stamp

/-- Who asks for the commits of a step, and when. -/
def Event.initiator? : Event → Option (Initiator × Nat)
  | .ran _ _ now => some (.workset, now)
  | .ended now => some (.batch, now)
  | .expired now => some (.timer, now)
  | .finished now => some (.close, now)
  | .received _ | .arrived _ | .entered _ | .refused _ | .withdrew _ | .deafened _ | .spurned _
  | .crashed _ _ | .rejected _ | .drew _ | .drained | .passed | .stopped => none

/-- The worker moves. -/
def Event.ofWorker : Event → Bool
  | .received _ | .spurned _ | .ran _ _ _ | .crashed _ _ | .rejected _ | .drew _ | .drained
  | .ended _ | .expired _ | .finished _ => true
  | .arrived _ | .entered _ | .refused _ | .withdrew _ | .deafened _ | .passed | .stopped => false

def Event.commits (a : Event) (p : Processor ε) : List Attempt :=
  match a.initiator? with
  | some (who, now) => (a.act p.recorded).engine.attempts.map (⟨who, now, ·⟩)
  | none => []

def Workset.outputs (w : Workset) (p : Processor ε) : List Output :=
  match (Workset.attempt w.strategies w.works p).1 with
  | .ok outcomes => outcomes.filterMap WorkOutcome.output?
  | .error _ => []

def Event.outputs (a : Event) (p : Processor ε) : List Output :=
  match a with
  | .ran _ w _ => w.outputs p
  | _ => []

/-- The works that a step does, and the commits that it attempts: a workset is
committed after its works. -/
def Event.marks (a : Event) (p : Processor ε) : List Processor.Mark :=
  (a.outputs p).map (fun _ => .executed) ++ (a.commits p).map (fun _ => .attempted)

namespace History

def commits : History → Processor ε → List Attempt
  | [], _ => []
  | a :: h, p => a.commits p ++ commits h (a.act p)

/-- The works that are done and the commits that are attempted, in order. -/
def marks : History → Processor ε → List Processor.Mark
  | [], _ => []
  | a :: h, p => a.marks p ++ marks h (a.act p)

theorem act_append (h h' : History) (p : Processor ε) : act (h ++ h') p = act h' (act h p) :=
  List.foldl_append

theorem commits_append (h h' : History) (p : Processor ε) :
    commits (h ++ h') p = commits h p ++ commits h' (act h p) := by
  induction h generalizing p with
  | nil => rfl
  | cons a h ih => simp [commits, ih]

theorem marks_append (h h' : History) (p : Processor ε) :
    marks (h ++ h') p = marks h p ++ marks h' (act h p) := by
  induction h generalizing p with
  | nil => rfl
  | cons a h ih => simp [marks, ih]

@[simp] theorem commits_snoc (h : History) (a : Event) (p : Processor ε) :
    commits (h ++ [a]) p = commits h p ++ a.commits (act h p) := by
  simp [commits_append, commits]

@[simp] theorem marks_snoc (h : History) (a : Event) (p : Processor ε) :
    marks (h ++ [a]) p = marks h p ++ a.marks (act h p) := by
  simp [marks_append, marks]

end History

/-! ## Nothing is missing -/

theorem Event.results_commits (a : Event) (p : Processor ε) :
    (a.commits p).map Attempt.result = (a.act p.recorded).engine.attempts := by
  cases a with
  | received s =>
    show [] = (Processor.beginBatch p.recorded).2.engine.attempts
    unfold Processor.beginBatch
    split <;> rfl
  | ran | ended | expired | finished => simp [commits, initiator?, Function.comp_def]
  | _ => rfl

open Processor in
omit [Engine ε] in
/-- A processor over a counting engine is one with nothing counted, behind what
has been counted. -/
theorem recorded_behind (handling : Handling) (q : Processor (Recorded ε)) :
    (q.carried Recorded.engine ⟨handling, [], [], []⟩).recorded.carried
      (Recorded.behind q.engine.attempts) ⟨handling, [], [], []⟩ = q := by
  simp [carried, recorded, Recorded.behind, Journal.nothing_after]

open Processor in
theorem History.act_recorded (h : History) (p : Processor ε) :
    (h.act p.recorded).carried Recorded.engine ⟨p.journal.handling, [], [], []⟩ = h.act p := by
  induction h using List.reverseRecOn with
  | nil => simp [act, carried, recorded, Journal.nothing_after]
  | append_singleton h a ih =>
    rw [act_snoc, act_snoc, ← ih, a.act_carried faithful_recorded]

open Processor in
/-- The commits of a history are all that a counting engine sees. -/
theorem History.attempts_act (h : History) (p : Processor ε) :
    (h.commits p).map Attempt.result = (h.act p.recorded).engine.attempts := by
  induction h using List.reverseRecOn with
  | nil => rfl
  | append_singleton h a ih =>
    -- the last step works behind what has been counted before it
    have before := recorded_behind p.journal.handling (History.act h p.recorded)
    rw [act_recorded] at before
    have after := a.act_carried (faithful_behind (History.act h p.recorded).engine.attempts)
      ⟨p.journal.handling, [], [], []⟩ (History.act h p).recorded
    rw [before] at after
    rw [commits_snoc, act_snoc, List.map_append, ih, a.results_commits, after]
    rfl

/-! ## One step -/

section Calls

variable (now : Nat) (p : Processor ε)

omit [Engine ε] in
theorem Processor.pending_of_delay {p : Processor ε} {now delay : Nat} :
    p.pendingDelay now = some delay → p.pending = true := by
  intro delayed
  cases hp : p.pending with
  | true => rfl
  | false => rw [pendingDelay_eq_none_iff.mpr hp] at delayed; cases delayed

theorem Processor.lastCommit_commitNow : (commitNow now p).2.lastCommit = some now := by
  rcases hc : Engine.commit p.engine with ⟨e | stamp, m⟩
  · rw [commitNow_error hc]
  · obtain ⟨log, h⟩ := commitNow_ok hc now
    rw [h]

theorem Processor.lastCommit_commitPending :
    (p.commitPending now).lastCommit = if p.pending then some now else p.lastCommit := by
  have committed := p.lastCommit_commitNow now
  unfold commitPending
  split
  · rcases hc : commitNow now p with ⟨e | _, p'⟩ <;> rw [hc] at committed <;> exact committed
  · rfl

theorem Processor.lastCommit_flush :
    (flush now p).2.lastCommit = if p.pending then some now else p.lastCommit := by
  unfold flush
  split
  · exact p.lastCommit_commitNow now
  · rfl

theorem Processor.lastCommit_endBatch :
    (endBatch now p).2.lastCommit
      = if p.commitsAtEndBatch now then some now else p.lastCommit := by
  unfold commitsAtEndBatch
  cases hb : p.batchOpen with
  | false => simp [endBatch, hb, refuse]
  | true =>
    cases hw : p.workset with
    | some o => simp [endBatch, hb, hw, refuse]
    | none =>
      rw [endBatch_open now hb hw]
      by_cases due : p.pendingDelay now = some 0
      · simp [due, lastCommit_commitPending, pending_of_delay due]
      · simp [due]

theorem Processor.attempts_flush (q : Processor (Recorded ε)) :
    Attempts q (flush now q).2 q.pending := by
  unfold flush
  cases hp : q.pending with
  | false => exact .none rfl rfl
  | true => exact attempts_commitNow now q

end Calls

/-- What a step that does works with these outputs has to do with commits. -/
inductive Charged (p p' : Processor ε) (outputs : List Output) : List Attempt → Prop where
  /-- It attempts none. -/
  | none : p'.pending = (p.pending || !outputs.isEmpty) → p'.lastCommit = p.lastCommit →
      Charged p p' outputs []
  /-- It attempts one. -/
  | one (x : Attempt) : p'.pending = false → p'.lastCommit = some x.time →
      Charged p p' outputs [x]

omit [Engine ε] in
theorem Charged.nil_or_one {p p' : Processor ε} {outputs : List Output} {commits : List Attempt}
    (h : Charged p p' outputs commits) : commits = [] ∨ ∃ x, commits = [x] := by
  cases h with
  | none => exact .inl rfl
  | one x => exact .inr ⟨x, rfl⟩

section Worksets

open Workset

variable {p : Processor ε} {w : Workset}

theorem Workset.Executes.recorded {works : List Work} {m m' : ε} {outputs : List Output}
    (h : Executes works m outputs m') (attempts : List (Except Failure Stamp)) :
    Executes works (⟨m, attempts⟩ : Recorded ε) outputs ⟨m', attempts⟩ := by
  induction h with
  | nil m => exact .nil _
  | cons hr _ ih => exact .cons (by rw [Recorded.run_work, hr]) ih

theorem Workset.Executes.isEmpty {works : List Work} {m m' : ε} {outputs : List Output}
    (h : Executes works m outputs m') : works.isEmpty = outputs.isEmpty := by
  cases h <;> rfl

theorem Workset.outputs_of_executes {outputs : List Output} {m : ε} :
    p.workset = none → Executes w.works p.engine outputs m → w.outputs p = outputs := by
  intro hw h
  obtain ⟨log, attempted⟩ := submitted_executes hw h
  simp [Workset.outputs, attempted, List.filterMap_map, Function.comp_def, WorkOutcome.output?]

theorem Workset.outputs_of_fails {before rest : List Work} {failed : Work}
    {outputs : List Output} {m m' : ε} {e : Failure} :
    p.workset = none → w.works = before ++ failed :: rest →
      Executes before p.engine outputs m → failed.run m = (.error e, m') →
      w.outputs p = outputs := by
  intro hw works h hr
  obtain ⟨log, attempted⟩ := submitted_fails hw works h hr
  simp [Workset.outputs, attempted, List.filterMap_append, List.filterMap_map, Function.comp_def,
    WorkOutcome.output?]

theorem Workset.outputs_refused {o : OpenWorkset} : p.workset = some o → w.outputs p = [] := by
  intro hw
  simp only [Workset.outputs, attempt, Call.andThen, Processor.beforeWorkset, hw, Processor.refuse]

theorem charged_run (ticket now : Nat) :
    let a : Event := .ran ticket w now
    Charged p (a.act p) (a.outputs p) (a.commits p) := by
  intro a
  -- each of the four ends twice: over the engine, and over the one that counts
  show Charged p (w.run now true p).processor (w.outputs p)
    ((w.run now true p.recorded).processor.engine.attempts.map (⟨.workset, now, ·⟩))
  cases hw : p.workset with
  | some o =>
    rw [outputs_refused hw, run_refused now true hw, run_refused now true (p := p.recorded) hw]
    exact .none (by simp) rfl
  | none =>
    have hw' : p.recorded.workset = none := hw
    rcases Executes.or_fails w.works p.engine with
      ⟨outputs, m, all⟩ | ⟨before, failed, rest, outputs, m, e, m', works, good, fails⟩
    · rw [outputs_of_executes hw all]
      cases hn : w.strategies.needsCommit with
      | false =>
        obtain ⟨v, log, -, h⟩ := run_executed now true hw all hn
        obtain ⟨v', log', -, h'⟩ := run_executed now true hw' (all.recorded []) hn
        rw [h, h', all.isEmpty]
        exact .none rfl rfl
      | true =>
        rcases hc : Engine.commit m with ⟨e | stamp, m'⟩
        · obtain ⟨log, log', h⟩ := run_commitFailed now true hw all hn hc
          obtain ⟨log₁, log₂, h'⟩ := run_commitFailed now true hw' (all.recorded []) hn
            (Recorded.commit_error hc [])
          rw [h, h']
          exact .one ⟨.workset, now, .error e⟩ rfl rfl
        · obtain ⟨v, log, -, h⟩ := run_committed now true hw all hn hc
          obtain ⟨v', log', -, h'⟩ := run_committed now true hw' (all.recorded []) hn
            (Recorded.commit_ok hc [])
          rw [h, h', Recorded.attempts_shownIf]
          exact .one ⟨.workset, now, .ok stamp⟩ rfl rfl
    · rw [outputs_of_fails hw works good fails]
      obtain ⟨log, log', h⟩ := run_failed now true hw works good fails
      obtain ⟨log₁, log₂, h'⟩ := run_failed now true hw' works (good.recorded [])
        (by rw [Recorded.run_work, fails])
      rw [h, h', good.isEmpty]
      exact .none rfl rfl

end Worksets

namespace Event

variable (a : Event) (p : Processor ε)

theorem charged_of_attempts {a : Event} {p : Processor ε} {who : Initiator} {now : Nat} {b : Bool}
    (asks : a.initiator? = some (who, now)) (idle : a.outputs p = [])
    (attempts : Processor.Attempts p.recorded (a.act p.recorded) b)
    (clock : (a.act p).lastCommit = if b then some now else p.lastCommit) :
    Charged p (a.act p) (a.outputs p) (a.commits p) := by
  rw [idle, commits, asks]
  cases attempts with
  | none same quiet =>
    rw [same]
    refine .none ?_ clock
    rw [← a.pending_recorded p, quiet, List.isEmpty_nil, Bool.not_true, Bool.or_false]
    rfl
  | one result more clear =>
    rw [more]
    exact .one ⟨who, now, result⟩ ((a.pending_recorded p).symm.trans clear) clock

theorem charged_of_same {a : Event} {p : Processor ε} (asks : a.initiator? = none)
    (idle : a.outputs p = []) (pending : (a.act p).pending = p.pending)
    (clock : (a.act p).lastCommit = p.lastCommit) :
    Charged p (a.act p) (a.outputs p) (a.commits p) := by
  rw [idle, commits, asks]
  exact .none (by simpa using pending) clock

/-- What a step has to do with commits. -/
theorem charged : Charged p (a.act p) (a.outputs p) (a.commits p) := by
  cases a with
  | ran ticket w now => exact charged_run ticket now
  | ended now =>
    exact charged_of_attempts rfl rfl (Processor.attempts_endBatch now p.recorded)
      (p.lastCommit_endBatch now)
  | expired now =>
    exact charged_of_attempts rfl rfl (Processor.attempts_commitPending now p.recorded)
      (p.lastCommit_commitPending now)
  | finished now =>
    obtain ⟨log, h⟩ := Processor.close_eq now p.recorded
    obtain ⟨log', h'⟩ := Processor.close_eq now p
    have flushed := Processor.attempts_flush now p.recorded
    refine charged_of_attempts rfl rfl (flushed.of_eq rfl rfl ?_ ?_) ?_
    · exact congrArg (fun c => c.2.engine.attempts) h
    · exact congrArg (fun c => c.2.pending) h
    · exact (congrArg (fun c => c.2.lastCommit) h').trans (p.lastCommit_flush now)
  | received s =>
    refine charged_of_same rfl rfl ?_ ?_ <;> simp only [act, Processor.beginBatch] <;> split <;> rfl
  | _ => exact charged_of_same rfl rfl rfl rfl

theorem commits_time {a : Event} {p : Processor ε} {x : Attempt} :
    x ∈ a.commits p → a.initiator? = some (x.initiator, x.time) := by
  intro hx
  unfold commits at hx
  split at hx
  · next asks =>
    obtain ⟨result, -, rfl⟩ := List.mem_map.mp hx
    exact asks
  · cases hx

theorem due_of_ended {p : Processor ε} {now : Nat} {x : Attempt} :
    x ∈ (Event.ended now).commits p → p.pendingDelay now = some 0 := by
  intro hx
  have ends := Processor.attempts_endBatch now p.recorded
  cases due : p.recorded.commitsAtEndBatch now with
  | true =>
    simp only [Processor.commitsAtEndBatch, Bool.and_eq_true, beq_iff_eq] at due
    exact due.2
  | false =>
    rw [due] at ends
    simp only [commits, initiator?, act] at hx
    cases ends with
    | none same _ => rw [same] at hx; cases hx

end Event

/-! ## A history -/

theorem Processor.outstanding_iff {marks : List Mark} :
    Outstanding marks ↔ marks.getLast? = some .executed := by
  rcases List.eq_nil_or_concat marks with rfl | ⟨marks, last, rfl⟩
  · exact iff_of_false not_outstanding_nil (by simp)
  · rw [List.concat_eq_append, List.getLast?_concat]
    cases last with
    | executed => exact iff_of_true (outstanding_executed marks) rfl
    | attempted => exact iff_of_false (not_outstanding_attempted marks) (by simp)

namespace History

variable (h : History) (p : Processor ε)

/-- The last commit that was attempted is the one that sets the time. -/
theorem lastCommit_act :
    (h.act p).lastCommit = ((h.commits p).getLast?.map Attempt.time).or p.lastCommit := by
  induction h using List.reverseRecOn with
  | nil => rfl
  | append_singleton h a ih =>
    have charged := a.charged (History.act h p)
    rw [act_snoc, commits_snoc]
    generalize a.commits (History.act h p) = commits at charged
    cases charged with
    | none _ same => rw [same, ih, List.append_nil]
    | one x _ set => rw [set, List.getLast?_concat]; rfl

/-- Something is pending if a work was done and no commit was attempted after it,
or if something was pending before and nothing has been done about it. -/
theorem pending_act :
    (h.act p).pending = true
      ↔ Processor.Outstanding (h.marks p) ∨ h.marks p = [] ∧ p.pending = true := by
  induction h using List.reverseRecOn with
  | nil => simp [act, marks, Processor.not_outstanding_nil]
  | append_singleton h a ih =>
    have charged := a.charged (History.act h p)
    rw [act_snoc, marks_snoc, Event.marks]
    generalize a.commits (History.act h p) = commits at charged
    generalize a.outputs (History.act h p) = outputs at charged
    cases charged with
    | none pending _ =>
      rcases List.eq_nil_or_concat outputs with rfl | ⟨outputs, last, rfl⟩
      · simpa [pending] using ih
      · simp [pending, Processor.outstanding_iff, ← List.append_assoc]
    | one x clear _ => simp [clear, Processor.outstanding_iff, ← List.append_assoc]

end History

end WritePath
