import Mathlib.Data.List.Induction
import WritePath.Proofs.Queue.Conservation
import WritePath.Proofs.Workset.Sequel

/-!
# The schedule does not matter

Which jobs a batch runs, when a batch ends, and when what is pending gets
committed: all this depends on the size of the queue, on the interval between
commits, and on the clock.  Over an index in memory in which nothing but
documents can fail, none of it can be told from the outside
(`schedule_independence`).

The reason is that there is a third party which has no schedule: a library works
off the jobs in the order of the queue (`settleAll`), and every run agrees with
it all the time (`Agrees`).
-/

namespace WritePath

open Engine (Memory Faults)

/-- What a job answers and makes of a library.  The worker does not survive a
crash, so nothing comes of one. -/
def Job.settle (index : IndexName) (faults : Faults) (job : Job) (l : Library) :
    List (Except Failure Output) × Library :=
  match job with
  | .workset w => ([(w.settle index faults l).1], (w.settle index faults l).2)
  | .crash => ([], l)

namespace Library

def settleAll (index : IndexName) (faults : Faults) :
    List Job → Library → List (Except Failure Output) × Library
  | [], l => ([], l)
  | job :: rest, l =>
    let (answer, l) := job.settle index faults l
    let (answers, l) := settleAll index faults rest l
    (answer ++ answers, l)

theorem settleAll_append (index : IndexName) (faults : Faults)
    (jobs jobs' : List Job) (l : Library) :
    settleAll index faults (jobs ++ jobs') l
      = ((settleAll index faults jobs l).1
            ++ (settleAll index faults jobs' (settleAll index faults jobs l).2).1,
          (settleAll index faults jobs' (settleAll index faults jobs l).2).2) := by
  induction jobs generalizing l with
  | nil => rfl
  | cons job rest ih => simp only [List.cons_append, settleAll, ih, List.append_assoc]

end Library

/-- The results without their stamps. -/
def History.verdicts {ε : Type} [Engine ε] (h : History) (p : Processor ε) :
    List (Except Failure Output) :=
  (h.results p).map fun r => r.2.map Output.unstamped

namespace Queue

open Library

/-- A new processor over an empty index in which some documents are refused. -/
def opened (index : IndexName) (ids : List String) (interval : Nat) : Processor Memory where
  index := index
  engine := { faults := { documents := ids } }
  journal := { handling := .collecting }
  interval := interval

theorem reads_opened (index : IndexName) (ids : List String) (interval : Nat) :
    Workset.Reads index ids {} (opened index ids interval) :=
  ⟨rfl, rfl, rfl, rfl, rfl, rfl, rfl, rfl, rfl, fun _ => rfl⟩

variable {index : IndexName} {ids : List String}

/-- A step that is not the last one of the worker makes the same of a processor
and of a library. -/
theorem reads_act {l : Library} {p : Processor Memory}
    (r : Workset.Reads index ids l p) {a : Event} (ha : ∀ now, a ≠ .finished now) :
    Workset.Reads index ids
        (settleAll index { documents := ids } (a.runs.map Prod.snd) l).2 (a.act p)
      ∧ ((a.results p).map fun x => x.2.map Output.unstamped)
        = (settleAll index { documents := ids } (a.runs.map Prod.snd) l).1 := by
  cases a with
  | received s => exact ⟨r.beginBatch, rfl⟩
  | ran ticket w now =>
    obtain ⟨reads, told⟩ := r.run now true w
    refine ⟨reads, ?_⟩
    obtain ⟨answer, ran, same⟩ := Option.map_eq_some_iff.mp told
    show [(w.verdict now p).map Output.unstamped]
      = [(w.settle index { documents := ids } l).1]
    simp only [Workset.verdict, ran, Option.getD_some, same]
  | ended now => exact ⟨r.endBatch now, rfl⟩
  | expired now => exact ⟨r.commitPending now, rfl⟩
  | finished now => exact absurd rfl (ha now)
  | _ => exact ⟨r, rfl⟩

/-- A run agrees with the library that works off the same jobs. -/
structure Agrees (index : IndexName) (ids : List String) (p : Processor Memory) (h : History)
    (q : Queue Memory) : Prop where
  verdicts : h.verdicts p
    = (settleAll index { documents := ids } (h.runs.map Prod.snd) {}).1
  /-- Until the worker comes to its end, -/
  before : q.phase ≠ .closed →
    Workset.Reads index ids
      (settleAll index { documents := ids } (h.runs.map Prod.snd) {}).2 (h.act p)
  /-- and afterwards. -/
  after : q.phase = .closed →
    Workset.Concluded
      (settleAll index { documents := ids } (h.runs.map Prod.snd) {}).2 (h.act p)

theorem Agrees.start {p : Processor Memory} (r : Workset.Reads index ids {} p)
    (size : Nat) :
    Agrees index ids p [] (start p size) where
  verdicts := rfl
  before _ := r
  after hq := by cases hq

theorem Agrees.step {p : Processor Memory} {h : History} {q q' : Queue Memory}
    {a : Event} (g : Agrees index ids p h q) (s : Step q a q') :
    Agrees index ids p (h ++ [a]) q' := by
  have verdicts : History.verdicts (h ++ [a]) p
      = h.verdicts p ++ (a.results (h.act p)).map fun x => x.2.map Output.unstamped := by
    simp only [History.verdicts, History.results_snoc, List.map_append]
  by_cases hq : q.phase = .closed
  · -- nothing is left to do
    have still := s.afterwards (by rw [hq]; rfl)
    have none : a.results (h.act p) = [] := by
      have := History.results_tickets [a] (h.act p)
      simpa [History.results, History.runs, still.runs] using this
    refine ⟨?_, fun open' => absurd (still.phase.trans hq) open', fun _ => ?_⟩
    · rw [verdicts, none, History.runs_snoc, still.runs, List.append_nil]
      simpa using g.verdicts
    · rw [History.act_snoc, still.act, History.runs_snoc, still.runs, List.append_nil]
      exact g.after hq
  · have r := g.before hq
    by_cases last : ∃ now, a = .finished now
    · obtain ⟨now, rfl⟩ := last
      have closed : q'.phase = .closed := by
        cases s
        rfl
      refine ⟨?_, fun open' => absurd closed open', fun _ => ?_⟩
      · simpa [verdicts, Event.results, Event.runs] using g.verdicts
      · simpa [Event.runs, Event.act] using r.close now
    · obtain ⟨reads, told⟩ := reads_act r fun now ha => last ⟨now, ha⟩
      refine ⟨?_, fun _ => ?_, fun closed => ?_⟩
      · rw [verdicts, History.runs_snoc, List.map_append, settleAll_append, g.verdicts, told]
      · rw [History.act_snoc, History.runs_snoc, List.map_append, settleAll_append]
        exact reads
      · -- only the last step leads there
        rcases s.of_isOver (by rw [closed]; rfl) with before | ⟨crashed, -⟩ | ⟨-, finished, -⟩
        · exact absurd ((s.afterwards before).phase.symm.trans closed) hq
        · rw [closed] at crashed
          cases crashed
        · exact absurd finished last

theorem Agrees.of_run {p : Processor Memory}
    (reads : Workset.Reads index ids {} p) {size : Nat} {h : History}
    {q : Queue Memory} (r : Run (Queue.start p size) h q) :
    Agrees index ids p h q :=
  r.invariant (.start reads size) fun _ g s => g.step s

/-! ## What the submitters find out -/

theorem answer?_of_mem {ε : Type} {q : Queue ε}
    (once : (q.told.map Prod.fst).Nodup) {ticket : Nat}
    {answer : Except Failure Output} (h : (ticket, answer) ∈ q.told) :
    q.answer? ticket = some answer := by
  unfold answer?
  generalize q.told = l at once h
  induction l with
  | nil => cases h
  | cons x rest ih =>
    obtain ⟨new, once⟩ := List.nodup_cons.mp once
    rcases List.mem_cons.mp h with rfl | h
    · simp
    · have other : x.1 ≠ ticket := by
        rintro rfl
        exact new (List.mem_map.mpr ⟨_, h, rfl⟩)
      rw [List.find?_cons_of_neg (by simpa using other)]
      exact ih once h

/-- When the worker has come to its end, everyone who got in knows the result of
the replay. -/
theorem Run.answers_eq {ε : Type} [Engine ε] {p : Processor ε} (idle : p.Idle)
    {size : Nat} {h : History} {q : Queue ε} (r : Run (Queue.start p size) h q)
    (hq : q.phase = .closed) :
    h.entries.map (fun s => q.answer? s.1) = (h.results p).map fun x => some x.2 := by
  have tickets : h.entries.map Prod.fst = (h.results p).map Prod.fst := by
    rw [History.results_tickets, r.runs_eq idle hq]
  calc h.entries.map (fun s => q.answer? s.1)
      = (h.entries.map Prod.fst).map q.answer? := by rw [List.map_map]; rfl
    _ = ((h.results p).map Prod.fst).map q.answer? := by rw [tickets]
    _ = (h.results p).map (fun x => q.answer? x.1) := by rw [List.map_map]; rfl
    _ = (h.results p).map fun x => some x.2 :=
      List.map_congr_left fun x hx =>
        answer?_of_mem (Ledger.of_run r).nodup_told (r.results_told.subset hx)

/-- What everyone who got in was told, in the order of the queue, without the
stamps. -/
def outcomes (h : History) (q : Queue Memory) : List (Option (Except Failure Output)) :=
  h.entries.map fun s => (q.answer? s.1).map (Except.map Output.unstamped)

/-- A run that has come to its end is a library that has worked off the jobs in
the order of the queue. -/
theorem settled_of_run {interval size : Nat} {h : History} {q : Queue Memory}
    (r : Run (Queue.start (opened index ids interval) size) h q)
    (hq : q.phase = .closed) :
    outcomes h q
        = (settleAll index { documents := ids } (h.entries.map Prod.snd) {}).1.map some
      ∧ Workset.Concluded (settleAll index { documents := ids } (h.entries.map Prod.snd) {}).2
          q.processor := by
  have idle : (opened index ids interval).Idle := ⟨rfl, rfl⟩
  have agrees := Agrees.of_run (reads_opened index ids interval) r
  have runs := r.runs_eq idle hq
  have verdicts := agrees.verdicts
  have concluded := agrees.after hq
  rw [runs] at verdicts concluded
  refine ⟨?_, ?_⟩
  · have answers := congrArg (List.map (Option.map (Except.map Output.unstamped)))
      (r.answers_eq idle hq)
    rw [← verdicts]
    simpa [outcomes, History.verdicts, Function.comp_def] using answers
  · obtain ⟨log, same⟩ := (r.alike (p := opened index ids interval) rfl).exists_log
    rw [same]
    exact ⟨concluded.committed, concluded.visible, concluded.reports, concluded.exceptions⟩

/-- **Schedule independence.**  Two workers come to their ends over new indexes
in which the same documents are refused.  If the same jobs got in, in the same
order, then everyone was told the same but for stamps, the same reports were
handed over in the same order, there was no exception, and the same documents
are committed and shown. -/
theorem schedule_independence {interval interval' size size' : Nat}
    {h h' : History} {q q' : Queue Memory}
    (r : Run (Queue.start (opened index ids interval) size) h q)
    (r' : Run (Queue.start (opened index ids interval') size') h' q')
    (closed : q.phase = .closed) (closed' : q'.phase = .closed)
    (same : h.entries.map Prod.snd = h'.entries.map Prod.snd) :
    (∃ answers : List (Except Failure Output),
        outcomes h q = answers.map some ∧ outcomes h' q' = answers.map some)
      ∧ q.processor.journal.reports = q'.processor.journal.reports
      ∧ q.processor.journal.exceptions = [] ∧ q'.processor.journal.exceptions = []
      ∧ q.processor.engine.committed = q'.processor.engine.committed
      ∧ q.processor.engine.visible = q'.processor.engine.visible := by
  obtain ⟨outcomes, concluded⟩ := settled_of_run r closed
  obtain ⟨outcomes', concluded'⟩ := settled_of_run r' closed'
  rw [← same] at outcomes' concluded'
  exact ⟨⟨_, outcomes, outcomes'⟩, concluded.reports.trans concluded'.reports.symm,
    concluded.exceptions, concluded'.exceptions,
    concluded.committed.trans concluded'.committed.symm,
    concluded.visible.trans concluded'.visible.symm⟩

/-! ## There are such runs

Every list of worksets gets through: submitted one by one, each of them is run
in a batch of its own. -/

/-- The worker has nothing to do, and anyone may come. -/
structure AtRest {ε : Type} (q : Queue ε) : Prop where
  phase : q.phase = .waiting
  entries : q.entries = []
  blocked : q.blocked = []
  closing : q.closing = false

theorem AtRest.receive {ε : Type} [Engine ε] {q : Queue ε} (rest : AtRest q)
    (noBatch : q.processor.batchOpen = false) (w : Workset) :
    ∃ h q' e, Run q h q' ∧ h.entries.map Prod.snd = [.workset w] ∧ q'.phase = .running e 0
      ∧ e.job = .workset w ∧ q'.entries = [] ∧ q'.blocked = [] ∧ q'.closing = false := by
  let e : Entry := { ticket := q.nextTicket, job := .workset w }
  have arrived := Run.single (Step.arrive (.workset w) rest.closing)
  have alone : q.blocked ++ [e] = [] ++ e :: [] := by rw [rest.blocked]
  have room : q.entries.length < q.capacity := by
    rw [rest.entries]
    exact Nat.lt_of_lt_of_le Nat.one_pos (Nat.le_max_right _ _)
  have going : q.refuses = false := by simp [refuses, rest.phase, Phase.isOver]
  have entered := arrived.snoc (.enter alone going room)
  have first : q.entries ++ [e] = e :: [] := by rw [rest.entries, List.nil_append]
  have received := entered.snoc (.receive rest.phase first noBatch)
  exact ⟨_, _, e, received, rfl, rfl, rfl, rfl, rfl, rest.closing⟩

theorem exists_batch {ε : Type} [Engine ε] {q : Queue ε} {e : Entry} {w : Workset}
    (running : q.phase = .running e 0) (job : e.job = .workset w)
    (entries : q.entries = []) (blocked : q.blocked = [])
    (closing : q.closing = false) :
    ∃ h q', Run q h q' ∧ h.entries = [] ∧ AtRest q' := by
  have same := sameJobs_runWorkset q e w
  have ran := Run.single (Step.run running job)
  have drained := ran.snoc (.drain rfl (.inl (same.entries.trans entries)))
  have ended := drained.snoc (.endBatch rfl)
  have still := sameJobs_endBatch { q.runWorkset e w with phase := .ending 1 } 1
  exact ⟨_, _, ended, rfl, phase_endBatch _ _,
    still.entries.trans (same.entries.trans entries),
    still.blocked.trans (same.blocked.trans blocked),
    still.closing.trans (same.closing.trans closing)⟩

theorem exists_run_atRest {ε : Type} [Engine ε] {p : Processor ε} (idle : p.Idle)
    (size : Nat) (worksets : List Workset) :
    ∃ h q, Run (Queue.start p size) h q ∧ AtRest q
      ∧ h.entries.map Prod.snd = worksets.map Job.workset := by
  induction worksets using List.reverseRecOn with
  | nil => exact ⟨[], _, .start _, ⟨rfl, rfl, rfl, rfl⟩, rfl⟩
  | append_singleton before w ih =>
    obtain ⟨h, q, r, rest, jobs⟩ := ih
    have noBatch : q.processor.batchOpen = false := by
      rw [(Tidy.of_run idle r).batchOpen, rest.phase]
      rfl
    obtain ⟨h₁, q₁, e, r₁, job, running, mine, entries, blocked, closing⟩ :=
      rest.receive noBatch w
    obtain ⟨h₂, q₂, r₂, none, rest'⟩ := exists_batch running mine entries blocked closing
    refine ⟨_, q₂, (r.append r₁).append r₂, rest', ?_⟩
    simp only [History.entries, List.flatMap_append, List.map_append] at jobs job none ⊢
    rw [jobs, job, none]
    simp

theorem exists_run {ε : Type} [Engine ε] {p : Processor ε} (idle : p.Idle)
    (size : Nat) (worksets : List Workset) :
    ∃ h q, Run (Queue.start p size) h q ∧ q.phase = .closed
      ∧ h.entries.map Prod.snd = worksets.map Job.workset := by
  obtain ⟨h, q, r, rest, jobs⟩ := exists_run_atRest idle size worksets
  have stopped := r.snoc (.stop rest.closing)
  have finished := stopped.snoc (.finish rfl rest.phase rest.entries rest.blocked)
  refine ⟨_, _, finished, rfl, ?_⟩
  rw [History.entries_snoc, History.entries_snoc]
  simpa [Event.entries] using jobs

/-- Two documents, of which the second one is refused: committed at once, or in
the end. -/
theorem schedule_independence_of_two_documents :
    let add (id : String) : Workset := { content := .single (.change (.add ⟨id, []⟩)) }
    ∃ h h' q q', Run (start (opened ⟨"books"⟩ ["b"] 0) 1) h q
      ∧ Run (start (opened ⟨"books"⟩ ["b"] 60000) 16) h' q'
      ∧ h.entries.map Prod.snd = [.workset (add "a"), .workset (add "b")]
      ∧ q.processor.engine.committed = q'.processor.engine.committed := by
  intro add
  obtain ⟨h, q, r, closed, jobs⟩ :=
    exists_run (p := opened ⟨"books"⟩ ["b"] 0) ⟨rfl, rfl⟩ 1 [add "a", add "b"]
  obtain ⟨h', q', r', closed', jobs'⟩ :=
    exists_run (p := opened ⟨"books"⟩ ["b"] 60000) ⟨rfl, rfl⟩ 16 [add "a", add "b"]
  have same := schedule_independence r r' closed closed' (jobs.trans jobs'.symm)
  exact ⟨h, h', q, q', r, r', jobs, same.2.2.2.2.1⟩

end Queue

end WritePath
