import WritePath.Proofs.Queue.Replay

/-!
# The ends of a worker

A worker that starts from an idle processor is `Tidy`: it never has a batch or a
workset open when it takes a first job, so it runs every job that it takes,
unless it crashes in one.

Then there are two ends.  A worker that comes to its end has run everything that
got in (`Run.runs_eq`); a worker that crashes leaves a `Wreck`.  Two lemmas say
all that steps have to do with the ends: which of them get there
(`Step.of_isOver`), and what they do afterwards (`Step.afterwards`).
-/

namespace WritePath

def Phase.inBatch : Phase → Bool
  | .waiting | .closed => false
  | .running _ _ | .drawing _ | .ending _ | .crashed => true

theorem Phase.inBatch_deafen (ticket : Nat) (phase : Phase) :
    (phase.deafen ticket).inBatch = phase.inBatch := by
  cases phase <;> rfl

namespace Queue

variable {ε : Type} [Engine ε]

/-- Between two steps no workset is open, and a batch is open inside a batch
only.  So nothing but a crash keeps the worker from running a job that got
in. -/
structure Tidy (h : History) (q : Queue ε) : Prop where
  workset : q.processor.workset = none
  batchOpen : q.processor.batchOpen = q.phase.inBatch
  runs : q.phase ≠ .crashed → h.settlements = h.runs

omit [Engine ε] in
theorem Tidy.start {p : Processor ε} (idle : p.Idle) (size : Nat) :
    Tidy [] (start p size) where
  workset := idle.workset
  batchOpen := idle.batchOpen
  runs _ := rfl

omit [Engine ε] in
/-- The end of a workset, whatever comes of it. -/
theorem Tidy.concluded {h : History} {q : Queue ε} {e : Entry} {count : Nat}
    {settled : Settled ε Output} (t : Tidy h q) (w : Workset) :
    q.phase = .running e count → Processor.Frame q.processor settled.processor →
      settled.processor.workset = none →
      Tidy (h ++ [.ran e.ticket w q.now])
        { q.concluded e settled with phase := .drawing (count + 1) } := by
  intro hp frame closed
  have alike := alike_concluded q e settled
  refine ⟨alike.workset.trans closed, ?_, fun _ => ?_⟩
  · exact alike.batchOpen.trans (frame.batchOpen.trans (by rw [t.batchOpen, hp]; rfl))
  · rw [History.settlements_snoc, History.runs_snoc, t.runs (by simp [hp])]
    rfl

theorem Tidy.step {h : History} {q q' : Queue ε} {a : Event} (t : Tidy h q)
    (s : Step q a q') :
    Tidy (h ++ [a]) q' := by
  have ⟨workset, batchOpen, runs⟩ := t
  have settled (na : a.settlements = a.runs) (hq : q.phase ≠ .crashed) :
      History.settlements (h ++ [a]) = History.runs (h ++ [a]) := by
    rw [History.settlements_snoc, History.runs_snoc, runs hq, na]
  cases s with
  | arrive | enter | refuse | withdraw | pass | stop =>
    exact ⟨workset, batchOpen, settled rfl⟩
  | deafen ticket =>
    refine ⟨workset, ?_, fun open' => settled rfl fun crashed => open' ?_⟩
    · show q.processor.batchOpen = (q.phase.deafen ticket).inBatch
      rw [Phase.inBatch_deafen, batchOpen]
    · simp only [crashed, Phase.deafen]
  | @receive first rest hp he hb =>
    exact ⟨workset, rfl, fun _ => settled rfl (by simp [hp])⟩
  | spurn hp he hb =>
    rw [batchOpen, hp] at hb
    cases hb
  | @run e count w hp hj =>
    obtain ⟨frame, closed, -⟩ := w.run_frame q.now e.listening workset
    exact t.concluded w hp frame closed
  | crash hp hj hw =>
    rw [hp] at batchOpen
    exact ⟨workset, batchOpen, fun open' => absurd rfl open'⟩
  | reject hp hj hw =>
    rw [workset] at hw
    cases hw
  | draw hp he hc =>
    rw [hp] at batchOpen
    exact ⟨workset, batchOpen, fun _ => settled rfl (by simp [hp])⟩
  | drain hp he =>
    rw [hp] at batchOpen
    exact ⟨workset, batchOpen, fun _ => settled rfl (by simp [hp])⟩
  | @endBatch count hp =>
    have alike := alike_endBatch q count
    have idle := Processor.endBatch_idle q.now (by rw [batchOpen, hp]; rfl) workset
    refine ⟨alike.workset.trans idle.workset, ?_, fun _ => settled rfl (by simp [hp])⟩
    rw [alike.batchOpen, idle.batchOpen, phase_endBatch]
    rfl
  | expire hp hd =>
    obtain ⟨frame, same⟩ := Processor.commitPending_frame q.now q.processor
    exact ⟨same.trans workset, frame.batchOpen.trans batchOpen, settled rfl⟩
  | finish hc hp he hb =>
    obtain ⟨frame, same⟩ := Processor.close_frame q.now
      (q.note .debug ("Write queue of " ++ q.index.label ++ " closed")).processor
    refine ⟨same.trans workset, (frame.batchOpen.trans batchOpen).trans ?_,
      fun _ => settled rfl ?_⟩
    · rw [hp]
      rfl
    · simp [hp]

theorem Tidy.of_run {p : Processor ε} (idle : p.Idle) {size : Nat} {h : History}
    {q : Queue ε} (r : Run (Queue.start p size) h q) : Tidy h q :=
  r.invariant (.start idle size) fun _ t s => t.step s

/-! ## What the steps have to do with the ends -/

/-- Nothing is left for the worker, and nobody will come. -/
structure Finished (q : Queue ε) : Prop where
  closing : q.closing = true
  entries : q.entries = []
  blocked : q.blocked = []

/-- What a step does when the worker takes no more jobs: nothing gets in, and
nothing is done with. -/
structure Afterwards (q : Queue ε) (a : Event) (q' : Queue ε) : Prop where
  phase : q'.phase = q.phase
  entries : a.entries = []
  settlements : a.settlements = []
  runs : a.runs = []
  act : ∀ p : Processor ε, a.act p = p
  finished : Finished q → Finished q'

theorem Step.afterwards {q q' : Queue ε} {a : Event} (s : Step q a q')
    (hq : q.phase.isOver = true) :
    Afterwards q a q' := by
  cases s with
  | arrive job hc =>
    refine ⟨rfl, rfl, rfl, rfl, fun _ => rfl, fun f => ?_⟩
    have := f.closing
    simp [hc] at this
  | enter _ hr _ => simp [refuses, hq] at hr
  | refuse hb _ | withdraw hb =>
    refine ⟨rfl, rfl, rfl, rfl, fun _ => rfl, fun f => ?_⟩
    have := f.blocked
    simp [hb] at this
  | deafen ticket =>
    refine ⟨?_, rfl, rfl, rfl, fun _ => rfl,
      fun f => ⟨f.closing, by simp [f.entries], f.blocked⟩⟩
    cases hp : q.phase <;> simp_all [Phase.deafen, Phase.isOver]
  | pass =>
    exact ⟨rfl, rfl, rfl, rfl, fun _ => rfl, fun f => ⟨f.closing, f.entries, f.blocked⟩⟩
  | stop => exact ⟨rfl, rfl, rfl, rfl, fun _ => rfl, fun f => ⟨rfl, f.entries, f.blocked⟩⟩
  | receive hp | spurn hp | run hp | crash hp | reject hp | draw hp | drain hp | endBatch hp
  | expire hp | finish _ hp => simp [hp, Phase.isOver] at hq

theorem Step.of_isOver {q q' : Queue ε} {a : Event} (s : Step q a q')
    (hq : q'.phase.isOver = true) :
    q.phase.isOver = true ∨ (q'.phase = .crashed ∧ ∃ s behind, a = .crashed s behind)
      ∨ (q'.phase = .closed ∧ (∃ now, a = .finished now) ∧ Finished q') := by
  cases s with
  | arrive | enter | refuse | withdraw | spurn | pass | stop | expire => exact .inl hq
  | deafen ticket =>
    have : (q.phase.deafen ticket).isOver = true := hq
    left
    cases hp : q.phase <;> simp_all [Phase.deafen, Phase.isOver]
  | receive | run | reject | draw | drain => cases hq
  | crash => exact .inr (.inl ⟨rfl, _, _, rfl⟩)
  | endBatch =>
    rw [phase_endBatch] at hq
    cases hq
  | finish hc hp he hb => exact .inr (.inr ⟨rfl, ⟨_, rfl⟩, hc, he, hb⟩)

section Run

variable {p : Processor ε} {size : Nat} {h : History} {q : Queue ε}

theorem Finished.of_run (r : Run (Queue.start p size) h q) :
    q.phase = .closed → Finished q := by
  refine r.invariant (P := fun _ q => q.phase = .closed → Finished q) nofun ?_
  intro h a q₁ q₂ _ ih s hq
  rcases s.of_isOver (by rw [hq]; rfl) with before | ⟨crashed, -⟩ | ⟨-, -, finished⟩
  · have after := s.afterwards before
    exact after.finished (ih (after.phase.symm.trans hq))
  · rw [hq] at crashed
    cases crashed
  · exact finished

/-- A worker is not as after a crash unless it has crashed. -/
theorem Run.exists_crash (r : Run (Queue.start p size) h q) :
    q.phase = .crashed → ∃ before s behind after, h = before ++ .crashed s behind :: after := by
  refine r.invariant (P := fun h q => q.phase = .crashed →
    ∃ before s behind after, h = before ++ .crashed s behind :: after) nofun ?_
  intro h a q₁ q₂ _ ih st hq
  rcases st.of_isOver (by rw [hq]; rfl) with before | ⟨-, s, behind, rfl⟩ | ⟨closed, -⟩
  · obtain ⟨before, s, behind, after, rfl⟩ :=
      ih ((st.afterwards before).phase.symm.trans hq)
    exact ⟨before, s, behind, after ++ [a], by simp⟩
  · exact ⟨h, s, behind, [], rfl⟩
  · rw [hq] at closed
    cases closed

/-- The processor of an idle worker runs every workset from one end to the
other, and answers to it. -/
theorem Run.answers (r : Run (Queue.start p size) h q) (idle : p.Idle)
    {before after : History} {ticket now : Nat} {w : Workset}
    (hh : h = before ++ .ran ticket w now :: after) :
    (w.run now true (before.act p)).told = some (w.verdict now (before.act p)) := by
  obtain ⟨q₁, r₁, -⟩ := r.split hh
  have closed : (before.act p).workset = none :=
    (r₁.alike (p := p) rfl).workset.trans (Tidy.of_run idle r₁).workset
  obtain ⟨answer, told⟩ := Option.isSome_iff_exists.mp (w.run_frame now true closed).2.2
  simp only [Workset.verdict, told, Option.getD_some]

/-- A worker that comes to its end has run everything that got in. -/
theorem Run.runs_eq (r : Run (Queue.start p size) h q) (idle : p.Idle)
    (hq : q.phase = .closed) :
    h.runs = h.entries := by
  have settled : h.settlements = h.entries := by
    rw [(Ledger.of_run r).order, hq, (Finished.of_run r hq).entries]
    simp [Phase.held]
  rw [← settled]
  exact ((Tidy.of_run idle r).runs (by simp [hq])).symm

end Run

/-! ## After a crash -/

/-- What a crash of the worker leaves behind: `before` is what had happened, the
worker crashed in `s`, and `behind` was in the queue. -/
structure Wreck (index : IndexName) (before : History) (s : Submission)
    (behind : List Submission) (h : History) (q : Queue ε) : Prop where
  phase : q.phase = .crashed
  /-- They are all that had got in and was not done with. -/
  left : before.entries = before.settlements ++ s :: behind
  entries : h.entries = before.entries
  settlements : h.settlements = before.settlements ++ s :: behind
  runs : h.runs = before.runs
  told : ∀ x ∈ s :: behind, (x.1, .error (dropped index)) ∈ q.told

theorem Wreck.step {index : IndexName} {before h : History} {s : Submission}
    {behind : List Submission} {q q' : Queue ε} {a : Event}
    (w : Wreck index before s behind h q) (st : Step q a q') :
    Wreck index before s behind (h ++ [a]) q' := by
  have after := st.afterwards (by rw [w.phase]; rfl)
  refine ⟨after.phase.trans w.phase, w.left, ?_, ?_, ?_,
    fun x hx => st.told_prefix.subset (w.told x hx)⟩
  · rw [History.entries_snoc, after.entries, List.append_nil, w.entries]
  · rw [History.settlements_snoc, after.settlements, List.append_nil, w.settlements]
  · rw [History.runs_snoc, after.runs, List.append_nil, w.runs]

theorem Step.wreck {q q' : Queue ε} {h : History} {s : Submission}
    {behind : List Submission} (st : Step q (.crashed s behind) q')
    (l : Ledger h q) :
    Wreck q.index h s behind (h ++ [.crashed s behind]) q' := by
  cases st with
  | @crash e count hp hj hw =>
    have order := l.order
    rw [hp] at order
    simp only [Phase.held, List.map_cons, List.map_nil, List.append_assoc,
      List.singleton_append] at order
    refine ⟨rfl, order, by simp [Event.entries], by simp [Event.settlements],
      by simp [Event.runs], ?_⟩
    intro x hx
    show (x.1, _) ∈ q.told ++ (e :: q.entries).map _
    have mem : x ∈ (e :: q.entries).map Entry.submission := hx
    obtain ⟨y, hy, rfl⟩ := List.mem_map.mp mem
    exact List.mem_append_right _ (List.mem_map.mpr ⟨y, hy, rfl⟩)

theorem snoc_eq_append_cons {α : Type} {l before after : List α} {a b : α}
    (h : l ++ [b] = before ++ a :: after) :
    (before = l ∧ a = b) ∨ ∃ rest, l = before ++ a :: rest := by
  rcases List.eq_nil_or_concat after with rfl | ⟨rest, c, rfl⟩
  · obtain ⟨rfl, hb⟩ := List.append_inj' h rfl
    exact .inl ⟨rfl, (List.singleton_inj.mp hb).symm⟩
  · rw [List.concat_eq_append, ← List.cons_append, ← List.append_assoc] at h
    exact .inr ⟨rest, (List.append_inj' h rfl).1⟩

theorem Run.wreck {p : Processor ε} {size : Nat} {h : History} {q : Queue ε}
    (r : Run (Queue.start p size) h q) (before : History) (s : Submission)
    (behind : List Submission) :
    ∀ after, h = before ++ .crashed s behind :: after →
      Wreck p.index before s behind h q := by
  refine r.invariant (P := fun h q => ∀ after, h = before ++ .crashed s behind :: after →
    Wreck p.index before s behind h q) (by simp) ?_
  intro h a q₁ q₂ r ih st after hh
  rcases snoc_eq_append_cons hh with ⟨rfl, rfl⟩ | ⟨rest, hl⟩
  · rw [← r.index]
    exact st.wreck (.of_run r)
  · exact (ih rest hl).step st

theorem close_crashed {q : Queue ε} (hq : q.phase = .crashed) :
    q.close.1 = .error (abnormal q.index) := by
  -- a crashed worker has no next step, so nothing settles
  have stuck : q.stop.settle = q.stop := by
    have stopped : q.stop.phase = .crashed := hq
    unfold settle
    cases q.stop.load <;> simp only [steps, step?, stopped]
  have joined : q.stop.join.phase = .crashed ∧ q.stop.join.index = q.index := by
    unfold join
    rw [stuck]
    split <;> exact ⟨hq, rfl⟩
  simp only [close, joined.1, joined.2]

end Queue

end WritePath
