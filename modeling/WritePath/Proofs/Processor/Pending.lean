import WritePath.Proofs.Processor.Turns
import WritePath.Proofs.Workset.Containment

/-!
# What is pending, and how many commits that takes

A processor remembers in one bit whether there is something to commit.  An
`Account` remembers more: every work that was done and every commit that was
attempted, in the order in which it happened.  The bit is set exactly if a work
was done and no commit was attempted after it (`Outstanding`), whatever the
engine does.

For a processor with interval zero this says how many commits a batch attempts:
one for each workset that insists on it and in which no work has failed, and one
more in the end exactly if the bit is set then (`commit_law`).  A work counts
that was done before a later one of its workset failed, and so does a work that
was done before the batch began.

Two things carry the proof.  A call leaves one mark at most, and the bit is what
that mark says (`marked`).  And inside a batch only the end of a workset attempts
a commit, if it does (`visit_commits`).
-/

namespace WritePath.Processor

/-! ## Marks -/

/-- Something that matters for what is pending. -/
inductive Mark where
  /-- A work was done. -/
  | executed
  /-- A commit was attempted. -/
  | attempted
  deriving DecidableEq

/-- A work was done and no commit was attempted after it. -/
def Outstanding (marks : List Mark) : Prop :=
  ∃ before after, marks = before ++ .executed :: after ∧ Mark.attempted ∉ after

theorem not_outstanding_nil : ¬ Outstanding [] := by
  rintro ⟨before, after, h, -⟩
  simp at h

theorem outstanding_executed (marks : List Mark) : Outstanding (marks ++ [.executed]) :=
  ⟨marks, [], rfl, List.not_mem_nil⟩

theorem not_outstanding_attempted (marks : List Mark) :
    ¬ Outstanding (marks ++ [.attempted]) := by
  rintro ⟨before, after, h, fresh⟩
  -- the last mark is the work itself, or it comes after the work
  rcases List.eq_nil_or_concat after with rfl | ⟨after, last, rfl⟩
  · obtain ⟨-, same⟩ := List.append_inj' h rfl
    cases same
  · rw [List.concat_eq_append, ← List.cons_append, ← List.append_assoc] at h
    obtain ⟨-, same⟩ := List.append_inj' h rfl
    cases same
    exact fresh (by simp)

variable {ε : Type} [Engine ε]

def Instruction.marks (now : Nat) (i : Instruction) (p : Processor ε) : List Mark :=
  (i.executed p).map (fun _ => .executed) ++ (i.attempts now p).map (fun _ => .attempted)

/-- A processor with the marks of the calls on it. -/
structure Account (ε : Type) where
  processor : Processor ε
  marks : List Mark := []

namespace Account

def start (index : IndexName) (engine : ε) (journal : Journal) (interval : Nat) : Account ε where
  processor := { index := index, engine := engine, journal := journal, interval := interval }

def call (a : Account ε) (now : Nat) (i : Instruction) : Account ε where
  processor := i.act now a.processor
  marks := a.marks ++ i.marks now a.processor

def run (a : Account ε) (calls : List (Nat × Instruction)) : Account ε :=
  calls.foldl (fun a c => a.call c.1 c.2) a

def commits (a : Account ε) : Nat :=
  a.marks.count .attempted

theorem run_append (a : Account ε) (calls calls' : List (Nat × Instruction)) :
    a.run (calls ++ calls') = (a.run calls).run calls' :=
  List.foldl_append

end Account

/-! ## Commits of a call -/

/-- Whether one commit was attempted from here to there, and what it has done to
the bit. -/
inductive Attempts (q q' : Processor (Recorded ε)) : Bool → Prop where
  | none : q'.engine.attempts = q.engine.attempts → q'.pending = q.pending →
      Attempts q q' false
  | one (result : Except Failure Stamp) :
      q'.engine.attempts = q.engine.attempts ++ [result] → q'.pending = false →
      Attempts q q' true

section Attempts

omit [Engine ε] in
theorem Attempts.of_eq {q q' r r' : Processor (Recorded ε)} {b : Bool} (h : Attempts q q' b)
    (attempts : r.engine.attempts = q.engine.attempts) (pending : r.pending = q.pending)
    (attempts' : r'.engine.attempts = q'.engine.attempts) (pending' : r'.pending = q'.pending) :
    Attempts r r' b := by
  cases h with
  | none same quiet =>
    exact .none (attempts'.trans (same.trans attempts.symm))
      (pending'.trans (quiet.trans pending.symm))
  | one result more clear =>
    exact .one result (by rw [attempts', more, attempts]) (pending'.trans clear)

variable (now : Nat) (q : Processor (Recorded ε))

theorem attempts_commitNow : Attempts q (commitNow now q).2 true := by
  rcases hc : Engine.commit q.engine.engine with ⟨e | stamp, m⟩
  · have h := commitNow_error (p := q) (Recorded.commit_error hc q.engine.attempts) now
    rw [h]
    exact .one (.error e) rfl rfl
  · obtain ⟨log, h⟩ := commitNow_ok (p := q) (Recorded.commit_ok hc q.engine.attempts) now
    rw [h]
    exact .one (.ok stamp) rfl rfl

theorem attempts_commitPending : Attempts q (q.commitPending now) q.pending := by
  cases hp : q.pending with
  | false =>
    have idle : q.commitPending now = q := by simp [commitPending, hp]
    rw [idle]
    exact .none rfl rfl
  | true =>
    have attempted := attempts_commitNow now q
    simp only [commitPending, hp, if_true]
    rcases hc : commitNow now q with ⟨e | _, q'⟩ <;> rw [hc] at attempted <;>
      exact attempted.of_eq rfl rfl rfl rfl

def commitsAtEndBatch {ε : Type} (now : Nat) (p : Processor ε) : Bool :=
  p.batchOpen && p.workset.isNone && p.pendingDelay now == some 0

theorem attempts_endBatch : Attempts q (endBatch now q).2 (q.commitsAtEndBatch now) := by
  unfold commitsAtEndBatch
  cases hb : q.batchOpen with
  | false =>
    simp only [endBatch, hb]
    exact .none rfl rfl
  | true =>
    cases hw : q.workset with
    | some o =>
      simp only [endBatch, hb, hw, if_true]
      exact .none rfl rfl
    | none =>
      rw [endBatch_open now hb hw]
      have pending : Attempts q _ q.pending :=
        (attempts_commitPending now { q with batchOpen := false }).of_eq rfl rfl rfl rfl
      cases hd : q.pendingDelay now == some 0 with
      | false =>
        rw [if_neg (by simpa using hd)]
        exact .none rfl rfl
      | true =>
        have due : q.pendingDelay now = some 0 := by simpa using hd
        -- nothing is due unless something is pending
        have hp : q.pending = true := by
          cases hp : q.pending with
          | true => rfl
          | false => rw [pendingDelay_eq_none_iff.mpr hp] at due; cases due
        rw [if_pos due]
        generalize ({ q with batchOpen := false } : Processor _).commitPending now = q' at pending ⊢
        rw [hp] at pending
        exact pending

theorem attempts_forcedSteps (s : Strategies) :
    Attempts q (forcedSteps now s q).2 s.needsCommit := by
  cases hn : s.needsCommit with
  | false =>
    rw [forcedSteps_none hn]
    exact .none rfl rfl
  | true =>
    rcases hc : Engine.commit q.engine.engine with ⟨e | stamp, m⟩
    · rw [forcedSteps_error hn (Recorded.commit_error hc q.engine.attempts) now]
      exact .one (.error e) rfl rfl
    · obtain ⟨log, h⟩ := forcedSteps_ok hn (Recorded.commit_ok hc q.engine.attempts) now
      rw [h]
      exact .one (.ok stamp) (Recorded.attempts_shownIf s _) rfl

def commitsAtEnd {ε : Type} (p : Processor ε) : Bool :=
  match p.workset with
  | some ⟨s, none⟩ => s.needsCommit
  | some ⟨_, some _⟩ | none => false

theorem attempts_afterWorkset (listening : Bool) (value : Option Output) :
    Attempts q (q.afterWorkset now listening value).processor q.commitsAtEnd := by
  unfold commitsAtEnd
  rcases afterWorkset_cases now listening q value with
    ⟨hw, h⟩ | ⟨s, r, journal, hw, h⟩ | ⟨s, journal, hw, h⟩ <;> rw [hw, h]
  · exact .none rfl rfl
  · exact .none rfl rfl
  · exact (attempts_forcedSteps now { q with workset := none } s).of_eq rfl rfl rfl rfl

end Attempts

/-! ## One call -/

/-- What the marks of a call say about the bit. -/
inductive Marked (p p' : Processor ε) : List Mark → Prop where
  | quiet : p'.pending = p.pending → Marked p p' []
  | executed : p'.pending = true → Marked p p' [.executed]
  | attempted : p'.pending = false → Marked p p' [.attempted]

variable (now : Nat) {p : Processor ε}

theorem pending_act_recorded (i : Instruction) :
    (i.act now p.recorded).pending = (i.act now p).pending := by
  rw [← act_recorded now i p, pending_carried]

theorem Attempts.marks {i : Instruction} {b : Bool} :
    Attempts p.recorded (i.act now p.recorded) b → i.executed p = [] →
      i.marks now p = if b then [.attempted] else [] := by
  intro h idle
  rw [Instruction.marks, idle, Instruction.attempts]
  cases h with
  | none attempts _ => rw [attempts]; rfl
  | one result attempts _ => rw [attempts]; rfl

theorem Attempts.marked {i : Instruction} {b : Bool} :
    Attempts p.recorded (i.act now p.recorded) b → i.executed p = [] →
      Marked p (i.act now p) (i.marks now p) := by
  intro h idle
  rw [h.marks now idle]
  cases h with
  | none _ pending => exact .quiet ((pending_act_recorded now i).symm.trans pending)
  | one _ _ pending => exact .attempted ((pending_act_recorded now i).symm.trans pending)

theorem marked_submit (w : Work) :
    Marked p (submit w p).2 ((Instruction.submit w).marks now p) := by
  have uncounted : (Instruction.submit w).attempts now p = [] := attempts_submit w p.recorded
  simp only [Instruction.marks, uncounted, List.map_nil, List.append_nil, Instruction.executed]
  rcases hw : p.workset with _ | ⟨s, _ | r⟩
  · rw [submit_noWorkset hw]
    exact .quiet rfl
  · rcases hr : w.run p.engine with ⟨e | o, m⟩
    · obtain ⟨log, h⟩ := submit_failed hw hr
      rw [h]
      exact .quiet rfl
    · rw [submit_executed hw hr]
      exact .executed rfl
  · rw [submit_skipped hw]
    exact .quiet rfl

omit [Engine ε] in
theorem attempts_beginBatch (q : Processor (Recorded ε)) : Attempts q (beginBatch q).2 false := by
  cases hb : q.batchOpen <;> simp only [beginBatch, hb] <;> exact .none rfl rfl

omit [Engine ε] in
theorem attempts_beforeWorkset (s : Strategies) (q : Processor (Recorded ε)) :
    Attempts q (beforeWorkset s q).2 false := by
  cases hw : q.workset <;> simp only [beforeWorkset, hw] <;> exact .none rfl rfl

/-- Every call leaves one mark at most, and the bit is what that mark says. -/
theorem marked (i : Instruction) : Marked p (i.act now p) (i.marks now p) := by
  cases i with
  | beginBatch => exact (attempts_beginBatch p.recorded).marked now rfl
  | beforeWorkset s => exact (attempts_beforeWorkset s p.recorded).marked now rfl
  | submit w => exact marked_submit now w
  | afterWorkset listening value =>
    exact (attempts_afterWorkset now p.recorded listening value).marked now rfl
  | endBatch => exact (attempts_endBatch now p.recorded).marked now rfl
  | commitPending => exact (attempts_commitPending now p.recorded).marked now rfl

/-! ## Any calls -/

/-- The bit says whether something is outstanding. -/
def Account.Sound (a : Account ε) : Prop :=
  a.processor.pending = true ↔ Outstanding a.marks

theorem Account.Sound.call {a : Account ε} (now : Nat) (i : Instruction) :
    a.Sound → (a.call now i).Sound := by
  intro sound
  have h := marked now (p := a.processor) i
  unfold Account.Sound at sound ⊢
  simp only [Account.call]
  generalize i.act now a.processor = p' at h ⊢
  generalize i.marks now a.processor = marks at h ⊢
  cases h with
  | quiet same => rw [same, List.append_nil]; exact sound
  | executed pending => exact iff_of_true pending (outstanding_executed _)
  | attempted pending =>
    exact iff_of_false (by simp [pending]) (not_outstanding_attempted _)

theorem Account.Sound.run {a : Account ε} (calls : List (Nat × Instruction)) :
    a.Sound → (a.run calls).Sound := by
  intro sound
  induction calls generalizing a with
  | nil => exact sound
  | cons c rest ih => exact ih (sound.call c.1 c.2)

/-! ## A batch -/

/-- A workset that is run from one end to the other. -/
structure Visit where
  strategies : Strategies
  works : List Work
  /-- When it ends; nothing in it looks at a clock before. -/
  ended : Nat
  /-- Its submitter still listens. -/
  listening : Bool := true
  value : Option Output := some .unit

namespace Visit

def calls (v : Visit) : List (Nat × Instruction) :=
  (v.ended, .beforeWorkset v.strategies)
    :: (v.works.map (fun w => (v.ended, .submit w))
      ++ [(v.ended, .afterWorkset v.listening v.value)])

/-- A commit is insisted on, and no work fails. -/
def forces (v : Visit) (p : Processor ε) : Bool :=
  v.strategies.needsCommit
    && match (Workset.attempt v.strategies v.works p).1 with
      | .ok outcomes => !outcomes.contains .failed
      | .error _ => false

end Visit

namespace Account

/-- How many of the worksets get the commit attempted that they insist on. -/
def forced (a : Account ε) : List Visit → Nat
  | [] => 0
  | v :: rest => (if v.forces a.processor then 1 else 0) + (a.run v.calls).forced rest

end Account

theorem run_submits (works : List Work) {a : Account ε} {o : OpenWorkset} (now : Nat) :
    a.processor.workset = some o →
      (a.run (works.map fun w => (now, .submit w))).processor
          = (Workset.submitAll works a.processor).2
        ∧ (a.run (works.map fun w => (now, .submit w))).commits = a.commits := by
  intro hw
  induction works generalizing a o with
  | nil => exact ⟨rfl, rfl⟩
  | cons w rest ih =>
    obtain ⟨outcome, p₁, report, h, -, hw₁⟩ := submit_open hw w
    have first : (a.call now (.submit w)).processor = p₁ := congrArg Prod.snd h
    have uncounted : (Instruction.submit w).attempts now a.processor = [] :=
      attempts_submit w a.processor.recorded
    have none : (a.call now (.submit w)).commits = a.commits := by
      simp [Account.commits, Account.call, Instruction.marks, uncounted, List.count_eq_zero]
    obtain ⟨processor, commits⟩ := ih (a := a.call now (.submit w)) (by rw [first]; exact hw₁)
    refine ⟨processor.trans ?_, commits.trans none⟩
    rw [first]
    simp only [Workset.submitAll, Call.andThen, h, Call.map]

/-- After works of a workset have been submitted, the end of the workset attempts
a commit if the workset insists on it and no work has failed. -/
theorem commitsAtEnd_attempt {p : Processor ε} (v : Visit) :
    p.workset = none →
      (Workset.attempt v.strategies v.works p).2.commitsAtEnd = v.forces p := by
  intro hw
  unfold Visit.forces commitsAtEnd
  rw [Workset.attempt_eq hw]
  rcases Workset.Executes.or_fails v.works p.engine with
    ⟨outputs, m, all⟩ | ⟨before, w, rest, outputs, m, e, m', works, good, fails⟩
  · obtain ⟨log, h⟩ := Workset.submitAll_executes all
      (p := { p with workset := some ⟨v.strategies, none⟩ }) rfl rfl
    simp [h]
  · obtain ⟨log, h⟩ := Workset.submitAll_fails good fails
      (p := { p with workset := some ⟨v.strategies, none⟩ }) rfl rfl
    rw [← works] at h
    simp [h]

/-- A workset attempts one commit if it insists on it and no work fails, and none
otherwise. -/
theorem visit_commits {a : Account ε} (v : Visit) :
    a.processor.workset = none →
      Frame a.processor (a.run v.calls).processor ∧ (a.run v.calls).processor.workset = none
        ∧ (a.run v.calls).commits = a.commits + if v.forces a.processor then 1 else 0 := by
  intro hw
  -- neither the first call nor the works attempt a commit
  let opened := a.call v.ended (.beforeWorkset v.strategies)
  let worked := opened.run (v.works.map fun w => (v.ended, .submit w))
  have run : a.run v.calls = worked.call v.ended (.afterWorkset v.listening v.value) := by
    rw [Visit.calls, Account.run, List.foldl_cons, List.foldl_append]
    rfl
  have before : opened.processor = { a.processor with workset := some ⟨v.strategies, none⟩ } := by
    simp [opened, Account.call, Instruction.act, beforeWorkset, hw]
  have none : opened.commits = a.commits := by
    have uncounted := (attempts_beforeWorkset v.strategies a.processor.recorded).marks v.ended
      (i := .beforeWorkset v.strategies) rfl
    simp [opened, Account.commits, Account.call, uncounted]
  obtain ⟨processor, commits⟩ := run_submits v.works v.ended (a := opened)
    (congrArg Processor.workset before)
  have attempt : worked.processor = (Workset.attempt v.strategies v.works a.processor).2 := by
    rw [Workset.attempt_eq hw, ← before]
    exact processor
  have last := (attempts_afterWorkset v.ended worked.processor.recorded v.listening v.value).marks
    v.ended (i := .afterWorkset v.listening v.value) rfl
  rw [show worked.processor.recorded.commitsAtEnd = worked.processor.commitsAtEnd from rfl,
    attempt, commitsAtEnd_attempt v hw, ← attempt] at last
  obtain ⟨frame, closed, -⟩ :=
    afterWorkset_frame (p := worked.processor) v.ended v.listening v.value
  have kept : Frame a.processor worked.processor := by
    obtain ⟨outcomes, p', report, h, kept, -⟩ :=
      Workset.submitAll_open v.works (congrArg Processor.workset before)
    rw [processor, h]
    rw [before] at kept
    exact ⟨kept.index, kept.interval, kept.handling, kept.batchOpen⟩
  rw [run]
  refine ⟨kept.trans frame, closed, ?_⟩
  rw [← none, ← commits]
  show (worked.marks ++ _).count .attempted = worked.marks.count .attempted + _
  rw [last, List.count_append]
  split <;> rfl

theorem visits_commits (visits : List Visit) {a : Account ε} :
    a.processor.workset = none →
      let worked := a.run (visits.flatMap Visit.calls)
      Frame a.processor worked.processor ∧ worked.processor.workset = none
        ∧ worked.commits = a.commits + a.forced visits := by
  intro hw
  induction visits generalizing a with
  | nil => exact ⟨.refl a.processor, hw, rfl⟩
  | cons v rest ih =>
    obtain ⟨frame, closed, commits⟩ := visit_commits v hw
    obtain ⟨frame', closed', commits'⟩ := ih closed
    rw [List.flatMap_cons, Account.run_append]
    refine ⟨frame.trans frame', closed', commits'.trans ?_⟩
    rw [commits, Account.forced, Nat.add_assoc]

omit [Engine ε] in
theorem commitsAtEndBatch_noInterval {p : Processor ε} (now : Nat) :
    p.batchOpen = true → p.workset = none → p.interval = 0 →
      p.commitsAtEndBatch now = p.pending := by
  intro hb hw hi
  rw [commitsAtEndBatch, hb, hw, pendingDelay, hi]
  cases p.pending with
  | false => rfl
  | true => cases p.lastCommit <;> simp

/-- Without an interval the end of a batch commits what is pending, and then
nothing is. -/
theorem endBatch_commits {a : Account ε} (now : Nat) :
    a.processor.batchOpen = true → a.processor.workset = none → a.processor.interval = 0 →
      (a.call now .endBatch).commits = a.commits + (if a.processor.pending then 1 else 0)
        ∧ (a.call now .endBatch).processor.pending = false := by
  intro hb hw hi
  have due : a.processor.recorded.commitsAtEndBatch now = a.processor.pending :=
    commitsAtEndBatch_noInterval now hb hw hi
  have last := attempts_endBatch now a.processor.recorded
  rw [due] at last
  have marks : Instruction.endBatch.marks now a.processor
      = if a.processor.pending then [.attempted] else [] := last.marks now rfl
  constructor
  · rw [Account.commits, Account.call, marks, List.count_append]
    cases a.processor.pending <;> rfl
  · have marked := marked now (p := a.processor) .endBatch
    rw [marks] at marked
    show (Instruction.endBatch.act now a.processor).pending = false
    generalize hp : a.processor.pending = pending at marked
    cases pending with
    | false => cases marked with
      | quiet same => exact same.trans hp
    | true => cases marked with
      | attempted clear => exact clear

theorem interval_run (calls : List (Nat × Instruction)) (a : Account ε) :
    (a.run calls).processor.interval = a.processor.interval := by
  induction calls generalizing a with
  | nil => rfl
  | cons c rest ih => exact (ih (a.call c.1 c.2)).trans (fixed_act c.1 c.2 a.processor).interval

/-- **The law of commits.**  After any calls the bit says whether a work was done
since the last commit was attempted.  If the interval is zero and no workset is
open, a batch attempts one commit for each of its worksets that insists on it
and in which no work fails, and one more at its end exactly if a work was done
since the last attempt; and then nothing is pending. -/
theorem commit_law (index : IndexName) (engine : ε) (journal : Journal) (interval : Nat)
    (calls : List (Nat × Instruction)) :
    let a := (Account.start index engine journal interval).run calls
    (a.processor.pending = true ↔ Outstanding a.marks)
      ∧ (interval = 0 → a.processor.workset = none → ∀ visits opens ends,
        let begun := a.call opens .beginBatch
        let worked := begun.run (visits.flatMap Visit.calls)
        let done := worked.call ends .endBatch
        worked.commits = a.commits + begun.forced visits
          ∧ (Outstanding worked.marks → done.commits = worked.commits + 1)
          ∧ (¬ Outstanding worked.marks → done.commits = worked.commits)
          ∧ done.processor.pending = false) := by
  intro a
  have start : (Account.start index engine journal interval).Sound :=
    iff_of_false (by simp [Account.start]) not_outstanding_nil
  have sound : a.Sound := start.run calls
  refine ⟨sound, ?_⟩
  intro zero closed visits opens ends begun worked done
  have none : begun.commits = a.commits := by
    have uncounted := (attempts_beginBatch a.processor.recorded).marks opens
      (i := .beginBatch) rfl
    simp [begun, Account.commits, Account.call, uncounted]
  have opened : begun.processor.batchOpen = true ∧ begun.processor.workset = .none := by
    have hw : a.processor.workset = .none := closed
    show (beginBatch a.processor).2.batchOpen = true ∧ (beginBatch a.processor).2.workset = .none
    cases hb : a.processor.batchOpen <;> simp [beginBatch, refuse, hb, hw]
  obtain ⟨frame, workset, commits⟩ := visits_commits visits opened.2
  have noInterval : worked.processor.interval = 0 :=
    frame.interval.trans ((fixed_act opens .beginBatch a.processor).interval.trans
      ((interval_run calls _).trans zero))
  obtain ⟨last, clear⟩ :=
    endBatch_commits ends (frame.batchOpen.trans opened.1) workset noInterval
  have still : worked.Sound := (sound.call opens .beginBatch).run (visits.flatMap Visit.calls)
  refine ⟨commits.trans (by rw [none]), ?_, ?_, clear⟩
  · intro outstanding
    rw [last, if_pos (still.mpr outstanding)]
  · intro settled
    rw [last, if_neg (fun pending => settled (still.mp pending))]
    rfl

/-- A batch of three worksets.  The second one insists on its commit and gets it;
the third one does so too, but has a work that fails, so the work before that one
is committed at the end of the batch. -/
theorem commit_law_of_three_worksets :
    let engine : Engine.Memory := { faults := { documents := ["x"] } }
    let visit (ids : List String) (commit : Strategy) : Visit :=
      { strategies := { commit := commit }
        works := ids.map fun id => .change (.add ⟨id, []⟩)
        ended := 0 }
    let visits := [visit ["a", "b"] .none, visit ["c"] .force, visit ["d", "x", "e"] .force]
    let begun := (Account.start ⟨"books"⟩ engine { handling := .collecting } 0).call 0 .beginBatch
    let worked := begun.run (visits.flatMap Visit.calls)
    let done := worked.call 0 .endBatch
    worked.commits = 1 ∧ done.commits = 2 ∧ done.processor.pending = false := by
  intro engine visit visits begun worked done
  obtain ⟨-, law⟩ := commit_law ⟨"books"⟩ engine { handling := .collecting } 0 []
  obtain ⟨forced, last, -, clear⟩ := law rfl rfl visits 0 0
  have one : worked.commits = 1 := forced.trans (by decide +kernel)
  have outstanding : Outstanding worked.marks :=
    ⟨[.executed, .executed, .executed, .attempted], [], by decide +kernel, List.not_mem_nil⟩
  exact ⟨one, (last outstanding).trans (congrArg (· + 1) one), clear⟩

end WritePath.Processor
