import WritePath.Queue

/-!
# Runs of a queue

The queue as a step relation, with every step named.  A step is what one party
does without giving the others a turn: a submitter comes, gets in, is turned
away, goes away or stops listening; the worker takes a first job, runs a job,
crashes, looks for another job, ends a batch, commits when the time is up, or
comes to its end; time goes by; the queue is closed.

`Step` is wider than the schedule of one thread in three ways.  Any of the
submitters in front of the queue may be the one who gets in next; the worker may
stop waiting as soon as something is pending, due or not; and the credit may
change at any time, so that it keeps nobody back for good.  Whatever holds for
every `Run` therefore holds under every schedule, with one thread or with many.
-/

namespace WritePath

abbrev Submission := Nat × Job

/-- The submission that an entry stands for, whoever still listens. -/
def Entry.submission (e : Entry) : Submission :=
  (e.ticket, e.job)

@[simp] theorem Entry.submission_deafen (ticket : Nat) (e : Entry) :
    (e.deafen ticket).submission = e.submission := by
  unfold Entry.deafen
  split <;> rfl

/-- The step of a queue that was taken. -/
inductive Event where
  /-- A submission comes in front of the queue. -/
  | arrived (s : Submission)
  /-- It gets into the queue. -/
  | entered (s : Submission)
  /-- It is turned away. -/
  | refused (s : Submission)
  /-- Its submitter goes away before it has got in. -/
  | withdrew (s : Submission)
  /-- The submitter of one that has got in stops listening. -/
  | deafened (ticket : Nat)
  /-- The worker takes a first job and opens a batch for it. -/
  | received (s : Submission)
  /-- The worker takes a first job and cannot open a batch. -/
  | spurned (s : Submission)
  | ran (ticket : Nat) (w : Workset) (now : Nat)
  /-- The worker crashes in a job, with others in the queue behind it. -/
  | crashed (s : Submission) (behind : List Submission)
  /-- The processor does not open a workset for the job that would have
  crashed. -/
  | rejected (s : Submission)
  /-- The worker takes another job into its batch. -/
  | drew (s : Submission)
  /-- The worker takes no other job into its batch. -/
  | drained
  | ended (now : Nat)
  /-- The worker stops waiting for a job, to commit what is pending. -/
  | expired (now : Nat)
  /-- Time goes by. -/
  | passed
  | stopped
  /-- The worker comes to its end. -/
  | finished (now : Nat)

/-- What has happened to a queue, oldest first. -/
abbrev History := List Event

namespace Queue

variable {ε : Type} [Engine ε]

inductive Step : Queue ε → Event → Queue ε → Prop where
  | arrive {q : Queue ε} (job : Job) :
      q.closing = false →
      Step q (.arrived (q.nextTicket, job))
        { q with
          nextTicket := q.nextTicket + 1
          blocked := q.blocked ++ [{ ticket := q.nextTicket, job := job }] }
  | enter {q : Queue ε} {before after : List Entry} {e : Entry} :
      q.blocked = before ++ e :: after → q.refuses = false → q.entries.length < q.capacity →
      Step q (.entered e.submission)
        { q with entries := q.entries ++ [e], blocked := before ++ after }
  | refuse {q : Queue ε} {before after : List Entry} {e : Entry} :
      q.blocked = before ++ e :: after → q.refuses = true →
      Step q (.refused e.submission)
        ({ q with blocked := before ++ after }.tell [e] (.error (.closed q.index)))
  | withdraw {q : Queue ε} {before after : List Entry} {e : Entry} :
      q.blocked = before ++ e :: after →
      Step q (.withdrew e.submission) { q with blocked := before ++ after }
  | deafen {q : Queue ε} (ticket : Nat) :
      Step q (.deafened ticket)
        { q with
          entries := q.entries.map (Entry.deafen ticket)
          phase := q.phase.deafen ticket }
  | receive {q : Queue ε} {first : Entry} {rest : List Entry} :
      q.phase = .waiting → q.entries = first :: rest → q.processor.batchOpen = false →
      Step q (.received first.submission)
        { q with
          processor := { q.processor with batchOpen := true }
          entries := rest
          phase := .running first 0 }
  | spurn {q : Queue ε} {first : Entry} {rest : List Entry} :
      q.phase = .waiting → q.entries = first :: rest → q.processor.batchOpen = true →
      Step q (.spurned first.submission)
        (({ q with entries := rest }.note .error
            ("Unable to start a batch: " ++ (Misuse.batchIsOpen.failure q.index).message)).tell
          [first] (.error (Misuse.batchIsOpen.failure q.index)))
  | run {q : Queue ε} {e : Entry} {count : Nat} {w : Workset} :
      q.phase = .running e count → e.job = .workset w →
      Step q (.ran e.ticket w q.now) { q.runWorkset e w with phase := .drawing (count + 1) }
  | crash {q : Queue ε} {e : Entry} {count : Nat} :
      q.phase = .running e count → e.job = .crash → q.processor.workset = none →
      Step q (.crashed e.submission (q.entries.map Entry.submission)) (q.crash e)
  | reject {q : Queue ε} {e : Entry} {count : Nat} {o : OpenWorkset} :
      q.phase = .running e count → e.job = .crash → q.processor.workset = some o →
      Step q (.rejected e.submission)
        { (q.note .error
            ("Work set rejected by " ++ q.index.label ++ ": "
              ++ (Misuse.worksetIsOpen.failure q.index).message)).tell
            [e] (.error (dropped q.index)) with
          phase := .drawing (count + 1) }
  | draw {q : Queue ε} {next : Entry} {rest : List Entry} {count : Nat} :
      q.phase = .drawing count → q.entries = next :: rest → count < q.capacity →
      Step q (.drew next.submission) { q with entries := rest, phase := .running next count }
  | drain {q : Queue ε} {count : Nat} :
      q.phase = .drawing count → q.entries = [] ∨ q.capacity ≤ count →
      Step q .drained { q with phase := .ending count }
  | endBatch {q : Queue ε} {count : Nat} :
      q.phase = .ending count → Step q (.ended q.now) (q.endBatch count)
  | expire {q : Queue ε} :
      q.phase = .waiting → q.processor.pending = true → Step q (.expired q.now) q.expire
  | pass {q : Queue ε} (later credit : Nat) :
      q.now ≤ later → Step q .passed { q with now := later, credit := credit }
  | stop {q : Queue ε} : q.closing = false → Step q .stopped q.stop
  | finish {q : Queue ε} :
      q.closing = true → q.phase = .waiting → q.entries = [] → q.blocked = [] →
      Step q (.finished q.now) q.finish.2

inductive Run : Queue ε → History → Queue ε → Prop where
  | start (q : Queue ε) : Run q [] q
  | snoc {q q₁ q₂ : Queue ε} {h : History} {a : Event} :
      Run q h q₁ → Step q₁ a q₂ → Run q (h ++ [a]) q₂

theorem Run.single {q q' : Queue ε} {a : Event} (s : Step q a q') : Run q [a] q' :=
  Run.snoc (.start q) s

theorem Run.append {q q₁ q₂ : Queue ε} {h h' : History} (r : Run q h q₁)
    (r' : Run q₁ h' q₂) :
    Run q (h ++ h') q₂ := by
  induction r' with
  | start => simpa using r
  | snoc _ s ih =>
    rw [← List.append_assoc]
    exact Run.snoc ih s

/-- What holds in the beginning and is kept by every step holds after every
run. -/
theorem Run.invariant {P : History → Queue ε → Prop} {q q' : Queue ε}
    {h : History} (r : Run q h q') (start : P [] q)
    (step : ∀ {h : History} {a : Event} {q₁ q₂ : Queue ε},
      Run q h q₁ → P h q₁ → Step q₁ a q₂ → P (h ++ [a]) q₂) :
    P h q' := by
  induction r with
  | start => exact start
  | snoc r s ih => exact step r ih s

theorem Run.split {q q' : Queue ε} {l : History} (r : Run q l q') {h h' : History}
    (hl : l = h ++ h') : ∃ q₁, Run q h q₁ ∧ Run q₁ h' q' := by
  induction r generalizing h' with
  | start =>
    obtain ⟨rfl, rfl⟩ := List.append_eq_nil_iff.mp hl.symm
    exact ⟨_, .start _, .start _⟩
  | @snoc q₁ q₂ l a r s ih =>
    -- the cut is behind the last step or in what came before it
    rcases List.eq_nil_or_concat h' with rfl | ⟨rest, b, rfl⟩
    · rw [List.append_nil] at hl
      subst hl
      exact ⟨_, .snoc r s, .start _⟩
    · rw [List.concat_eq_append] at hl ⊢
      rw [← List.append_assoc] at hl
      obtain ⟨cut, hb⟩ := List.append_inj' hl rfl
      obtain rfl := List.singleton_inj.mp hb
      obtain ⟨q₁, before, after⟩ := ih cut
      exact ⟨q₁, before, .snoc after s⟩

/-! ## What a step leaves alone

Running a workset and ending a batch change the processor; besides that the
first tells one submitter, and the second puts the worker back to the top of its
loop. -/

def outcome (q : Queue ε) (e : Entry) (w : Workset) : Except Failure Output :=
  let settled := w.run q.now e.listening q.processor
  settled.told.getD (.error (dropped settled.processor.index))

/-- Everything but the processor and the answers is the same. -/
structure SameJobs (q q' : Queue ε) : Prop where
  size : q'.size = q.size
  entries : q'.entries = q.entries
  blocked : q'.blocked = q.blocked
  closing : q'.closing = q.closing
  nextTicket : q'.nextTicket = q.nextTicket

def concluded (q : Queue ε) (e : Entry) (settled : Settled ε Output) : Queue ε :=
  let q := { q with processor := settled.processor }.noteRejected settled.call
  q.tell [e] (settled.told.getD (.error (dropped q.index)))

section Concluded

omit [Engine ε]

variable (q : Queue ε) (e : Entry) (settled : Settled ε Output)

theorem sameJobs_concluded : SameJobs q (q.concluded e settled) := by
  simp only [concluded, noteRejected]
  split <;> exact ⟨rfl, rfl, rfl, rfl, rfl⟩

theorem told_concluded :
    (q.concluded e settled).told
      = q.told ++ [(e.ticket, settled.told.getD (.error (dropped settled.processor.index)))] := by
  simp only [concluded, noteRejected]
  split <;> rfl

end Concluded

theorem runWorkset_eq (q : Queue ε) (e : Entry) (w : Workset) :
    q.runWorkset e w = q.concluded e (w.run q.now e.listening q.processor) :=
  rfl

theorem sameJobs_runWorkset (q : Queue ε) (e : Entry) (w : Workset) :
    SameJobs q (q.runWorkset e w) := by
  rw [runWorkset_eq]
  exact sameJobs_concluded ..

theorem told_runWorkset (q : Queue ε) (e : Entry) (w : Workset) :
    (q.runWorkset e w).told = q.told ++ [(e.ticket, q.outcome e w)] := by
  rw [runWorkset_eq]
  exact told_concluded ..

theorem sameJobs_endBatch (q : Queue ε) (count : Nat) :
    SameJobs q (q.endBatch count) := by
  simp only [endBatch]
  split <;> exact ⟨rfl, rfl, rfl, rfl, rfl⟩

theorem told_endBatch (q : Queue ε) (count : Nat) :
    (q.endBatch count).told = q.told := by
  simp only [endBatch]
  split <;> rfl

theorem phase_endBatch (q : Queue ε) (count : Nat) :
    (q.endBatch count).phase = .waiting := by
  simp only [endBatch]
  split <;> rfl

theorem now_runWorkset (q : Queue ε) (e : Entry) (w : Workset) :
    (q.runWorkset e w).now = q.now := by
  simp only [runWorkset, noteRejected]
  split <;> rfl

theorem now_endBatch (q : Queue ε) (count : Nat) : (q.endBatch count).now = q.now := by
  simp only [endBatch]
  split <;> rfl

/-- The step that runs a workset, if it is known what comes of the workset. -/
theorem Step.settle {q : Queue ε} {e : Entry} {count : Nat} {w : Workset} {p : Processor ε}
    {answer : Except Failure Output} (hp : q.phase = .running e count) (hj : e.job = .workset w)
    (settled : w.run q.now e.listening q.processor = ⟨.ok (), some answer, p⟩) :
    Step q (.ran e.ticket w q.now)
      { q with
        processor := p
        phase := .drawing (count + 1)
        told := q.told ++ [(e.ticket, answer)] } := by
  have step : Step q _ _ := .run hp hj
  rw [runWorkset_eq, settled] at step
  exact step

theorem Step.now_le {q q' : Queue ε} {a : Event} (s : Step q a q') : q.now ≤ q'.now := by
  cases s with
  | pass later credit le => exact le
  | @run e count w hp hj => exact Nat.le_of_eq (now_runWorkset q e w).symm
  | @endBatch count hp => exact Nat.le_of_eq (now_endBatch q count).symm
  | _ => exact Nat.le_refl _

/-! ## The code of the worker

One equation for every piece of code with a branch in it: under the condition of
a step only one branch is left.  So what the worker does next is a step. -/

omit [Engine ε] in
theorem beginBatch_received {q : Queue ε} {first : Entry}
    (h : q.processor.batchOpen = false) :
    q.beginBatch first
      = { q with
          processor := { q.processor with batchOpen := true }
          phase := .running first 0 } := by
  simp [beginBatch, Processor.beginBatch, h]

omit [Engine ε] in
theorem beginBatch_spurned {q : Queue ε} {first : Entry}
    (h : q.processor.batchOpen = true) :
    q.beginBatch first
      = (q.note .error
          ("Unable to start a batch: " ++ (Misuse.batchIsOpen.failure q.index).message)).tell
        [first] (.error (Misuse.batchIsOpen.failure q.index)) := by
  simp [beginBatch, Processor.beginBatch, Processor.refuse, h, index]

theorem runEntry_workset {q : Queue ε} {e : Entry} {count : Nat} {w : Workset}
    (h : e.job = .workset w) :
    q.runEntry e count = { q.runWorkset e w with phase := .drawing (count + 1) } := by
  simp only [runEntry, h]

theorem runEntry_crash {q : Queue ε} {e : Entry} {count : Nat} (h : e.job = .crash)
    (hw : q.processor.workset = none) : q.runEntry e count = q.crash e := by
  simp only [runEntry, h, Processor.beforeWorkset, hw]

theorem runEntry_rejected {q : Queue ε} {e : Entry} {count : Nat} {o : OpenWorkset}
    (h : e.job = .crash) (hw : q.processor.workset = some o) :
    q.runEntry e count
      = { (q.note .error
            ("Work set rejected by " ++ q.index.label ++ ": "
              ++ (Misuse.worksetIsOpen.failure q.index).message)).tell
            [e] (.error (dropped q.index)) with
          phase := .drawing (count + 1) } := by
  simp only [runEntry, h, Processor.beforeWorkset, hw, Processor.refuse, noteRejected]
  rfl

omit [Engine ε] in
theorem draw_next {q : Queue ε} {next : Entry} {rest : List Entry} {count : Nat}
    (h : q.entries = next :: rest) (hc : count < q.capacity) :
    q.draw count = { q with entries := rest, phase := .running next count } := by
  simp only [draw, h, if_pos hc]

omit [Engine ε] in
theorem draw_nothing {q : Queue ε} {count : Nat}
    (h : q.entries = [] ∨ q.capacity ≤ count) :
    q.draw count = { q with phase := .ending count } := by
  rcases h with h | h
  · simp only [draw, h]
  · cases hq : q.entries with
    | nil => simp only [draw, hq]
    | cons next rest => simp only [draw, hq, if_neg (Nat.not_lt.mpr h)]

theorem step_of_step? {q q' : Queue ε} (h : q.step? = some q') :
    ∃ a, Step q a q' := by
  unfold step? at h
  split at h
  case h_1 hp =>
    split at h
    case h_1 first rest he =>
      obtain rfl := Option.some.inj h
      cases hb : q.processor.batchOpen with
      | false =>
        rw [beginBatch_received (q := { q with entries := rest }) hb]
        exact ⟨_, .receive hp he hb⟩
      | true =>
        rw [beginBatch_spurned (q := { q with entries := rest }) hb]
        exact ⟨_, .spurn hp he hb⟩
    case h_2 => cases h
  case h_2 next count hp =>
    obtain rfl := Option.some.inj h
    cases hj : next.job with
    | workset w =>
      rw [runEntry_workset hj]
      exact ⟨_, .run hp hj⟩
    | crash =>
      cases hw : q.processor.workset with
      | none =>
        rw [runEntry_crash hj hw]
        exact ⟨_, .crash hp hj hw⟩
      | some o =>
        rw [runEntry_rejected hj hw]
        exact ⟨_, .reject hp hj hw⟩
  case h_3 count hp =>
    obtain rfl := Option.some.inj h
    by_cases hc : q.entries = [] ∨ q.capacity ≤ count
    · rw [draw_nothing hc]
      exact ⟨_, .drain hp hc⟩
    · obtain ⟨some, fits⟩ := not_or.mp hc
      obtain ⟨next, rest, he⟩ := List.exists_cons_of_ne_nil some
      rw [draw_next he (Nat.not_le.mp fits)]
      exact ⟨_, .draw hp he (Nat.not_le.mp fits)⟩
  case h_4 count hp =>
    obtain rfl := Option.some.inj h
    exact ⟨_, .endBatch hp⟩
  case h_5 => cases h
  case h_6 => cases h

end Queue

end WritePath
