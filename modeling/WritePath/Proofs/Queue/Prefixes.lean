import WritePath.Proofs.Engine.Staging
import WritePath.Proofs.Processor.Lasting
import WritePath.Proofs.Queue.Independence
import WritePath.Proofs.Queue.Meddling

/-!
# Commits never split a workset

The worker asks its engine for a commit or a refresh when no workset is open, or
at the end of a workset, when all its works are done.  So over an index in
memory what is committed is the effect of whole worksets: of those that came
first in the queue, each of them with all its works, or with the works before
the first one that failed (`commits_never_split`).  The same goes for what is
visible.

It does not matter when a commit fails, since the next one is about all that is
staged: what is staged is always the effect of all the worksets that were run,
and what is committed is what was staged after some of them (`Whole`).  A commit
moves the first cut to the end, a refresh moves the second cut to the first one,
and a workset that is run moves the end (`Whole.lasting`, `Whole.run`).
-/

namespace WritePath

open Engine (Memory Faults)

/-! ## Generations -/

/-- Two generations of documents: the first one is what some of the parts have
made, from the front, and the second one what no more of them have made. -/
def Cut (docs : Keyed Document) (parts : List (List Work))
    (committed visible : Keyed Document) : Prop :=
  ∃ n k, k ≤ n ∧ n ≤ parts.length
    ∧ committed = Work.effects (parts.take n).flatten docs
    ∧ visible = Work.effects (parts.take k).flatten docs

/-- An open index in memory, and what the works of the parts have made of the
documents that were in it. -/
structure Whole (docs : Keyed Document) (parts : List (List Work)) (m : Memory) : Prop where
  closed : m.closed = false
  staged : m.staged = Work.effects parts.flatten docs
  cut : Cut docs parts m.committed m.visible

/-- Works were staged, and that is all. -/
structure Stages (works : List Work) (m m' : Memory) : Prop where
  staged : m'.staged = Work.effects works m.staged
  committed : m'.committed = m.committed
  visible : m'.visible = m.visible
  closed : m'.closed = m.closed

theorem Stages.trans {works works' : List Work} {m m' m'' : Memory} :
    Stages works m m' → Stages works' m' m'' → Stages (works ++ works') m m'' := by
  intro s s'
  refine ⟨?_, s'.committed.trans s.committed, s'.visible.trans s.visible,
    s'.closed.trans s.closed⟩
  rw [Work.effects_append, ← s.staged]
  exact s'.staged

section Whole

variable {docs : Keyed Document} {parts : List (List Work)} {m m' : Memory}

theorem Whole.lasting : Processor.Lasting (Whole docs parts) where
  commit m h := by
    obtain ⟨closed, staged, n, k, hk, hn, committed, visible⟩ := h
    cases hf : m.faults.commits with
    | zero =>
      rw [Memory.commit_sound closed hf]
      refine ⟨closed, staged, parts.length, k, hk.trans hn, Nat.le_refl _, ?_, visible⟩
      rw [List.take_length]
      exact staged
    | succ left =>
      rw [Memory.commit_faulty closed hf]
      exact ⟨closed, staged, n, k, hk, hn, committed, visible⟩
  refresh m h := by
    obtain ⟨closed, staged, n, k, hk, hn, committed, visible⟩ := h
    show Whole docs parts (Memory.refresh m).2
    simp only [Memory.refresh, Memory.whileOpen, closed, Bool.false_eq_true, if_false]
    split
    · exact ⟨closed, staged, n, k, hk, hn, committed, visible⟩
    · exact ⟨rfl, staged, n, n, Nat.le_refl n, hn, committed, committed⟩

theorem Cut.snoc {committed visible : Keyed Document} (part : List Work) :
    Cut docs parts committed visible → Cut docs (parts ++ [part]) committed visible := by
  rintro ⟨n, k, hk, hn, committed, visible⟩
  refine ⟨n, k, hk, by simp only [List.length_append]; omega, ?_, ?_⟩
  · rw [List.take_append_of_le_length hn]
    exact committed
  · rw [List.take_append_of_le_length (hk.trans hn)]
    exact visible

theorem Whole.stage {works : List Work} :
    Whole docs parts m → Stages works m m' → Whole docs (parts ++ [works]) m' := by
  intro h s
  refine ⟨s.closed.trans h.closed, ?_, ?_⟩
  · rw [s.staged, h.staged, List.flatten_append, Work.effects_append]
    simp
  · rw [s.committed, s.visible]
    exact h.cut.snoc works

theorem Whole.fresh (closed : m.closed = false) (committed : m.committed = m.staged)
    (visible : m.visible = m.staged) : Whole m.staged [] m :=
  ⟨closed, rfl, 0, 0, Nat.le_refl 0, Nat.le_refl 0, committed, visible⟩

end Whole

/-! ## A workset -/

/-- What becomes of the works of a workset. -/
inductive Shape : List Work → List WorkOutcome → Prop where
  | nil : Shape [] []
  | executed {w : Work} {o : Output} {rest : List Work} {outcomes : List WorkOutcome} :
      Shape rest outcomes → Shape (w :: rest) (.executed o :: outcomes)
  | failed {w : Work} {rest : List Work} :
      Shape (w :: rest) (.failed :: List.replicate rest.length .skipped)

theorem Shape.cases {works : List Work} {outcomes : List WorkOutcome} :
    Shape works outcomes →
      ∃ outputs : List Output, outputs.length = (Passage.worked works outcomes).length
        ∧ ((outcomes = outputs.map .executed ∧ Passage.worked works outcomes = works)
          ∨ ∃ w rest, works = Passage.worked works outcomes ++ w :: rest
            ∧ outcomes
              = outputs.map .executed ++ .failed :: List.replicate rest.length .skipped) := by
  intro shape
  induction shape with
  | nil => exact ⟨[], rfl, .inl ⟨rfl, rfl⟩⟩
  | @failed w rest => exact ⟨[], rfl, .inr ⟨w, rest, rfl, rfl⟩⟩
  | @executed w o rest outcomes _ ih =>
    obtain ⟨outputs, length, ⟨all, done⟩ | ⟨x, rest', works, some⟩⟩ := ih
    · exact ⟨o :: outputs, congrArg (· + 1) length,
        .inl ⟨congrArg (List.cons _) all, congrArg (List.cons w) done⟩⟩
    · exact ⟨o :: outputs, congrArg (· + 1) length,
        .inr ⟨x, rest', congrArg (List.cons w) works, congrArg (List.cons _) some⟩⟩

namespace Workset

variable {p : Processor Memory}

theorem stages_meddled (agenda : List Faults) (p : Processor Memory) :
    Stages [] p.engine (p.meddled (agenda.map Memory.under).head?).engine := by
  cases agenda <;> exact ⟨rfl, rfl, rfl, rfl⟩

theorem submitUnder_skipped (works : List Work) (agenda : List Faults) {s : Strategies}
    {r : Report} :
    p.workset = some ⟨s, some r⟩ →
      ∃ p', submitUnder (agenda.map Memory.under) works p
          = (.ok (List.replicate works.length .skipped), p')
        ∧ Stages [] p.engine p'.engine := by
  intro hw
  induction works generalizing p agenda r with
  | nil => exact ⟨_, rfl, stages_meddled agenda p⟩
  | cons w rest ih =>
    have outside := stages_meddled agenda p
    have hw' := (p.meddled_frame (agenda.map Memory.under).head?).2.trans hw
    have first := Processor.submit_skipped hw' w
    obtain ⟨p', later, stages⟩ := ih agenda.tail
      (p := { p.meddled (agenda.map Memory.under).head? with
        workset := some ⟨s, some (r.markSkipped w.label)⟩ }) rfl
    refine ⟨p', ?_, outside.trans stages⟩
    rw [List.map_tail] at later
    simp only [submitUnder, Call.andThen, first, Call.map, later, Except.map]
    rfl

theorem submitUnder_stages (works : List Work) (agenda : List Faults) {s : Strategies} :
    p.workset = some ⟨s, none⟩ → p.engine.closed = false →
      ∃ outcomes p', submitUnder (agenda.map Memory.under) works p = (.ok outcomes, p')
        ∧ Shape works outcomes ∧ Stages (Passage.worked works outcomes) p.engine p'.engine := by
  intro hw hm
  induction works generalizing p agenda with
  | nil => exact ⟨_, _, rfl, .nil, stages_meddled agenda p⟩
  | cons w rest ih =>
    have outside := stages_meddled agenda p
    have hw' := (p.meddled_frame (agenda.map Memory.under).head?).2.trans hw
    have hm' := outside.closed.trans hm
    simp only [submitUnder, Call.andThen]
    -- from here on `p₀`, at whose engine others have got
    generalize p.meddled (agenda.map Memory.under).head? = p₀ at outside hw' hm' ⊢
    rw [← List.map_tail]
    cases hf : w.fault? p₀.engine.faults with
    | some e =>
      obtain ⟨log, failed⟩ := Processor.submit_failed hw' (Memory.work_refused hm' hf)
      obtain ⟨p', skipped, stages⟩ := submitUnder_skipped rest agenda.tail
        (congrArg (fun c => (Prod.snd c).workset) failed)
      rw [failed] at skipped stages ⊢
      simp only [Call.map, skipped, Except.map]
      exact ⟨_, p', rfl, .failed, outside.trans stages⟩
    | none =>
      obtain ⟨o, stamp, events, hr, -⟩ := Memory.work_taken hm' hf
      have done := Processor.submit_executed hw' hr
      obtain ⟨outcomes, p', later, shape, stages⟩ := ih agenda.tail
        (p := (Processor.submit w p₀).2) (by rw [done]; exact hw') (by rw [done]; exact hm')
      rw [done] at later stages ⊢
      simp only [Call.map, later, Except.map]
      refine ⟨_, p', rfl, .executed shape, ?_⟩
      have first : Stages [w] p₀.engine
          { p₀.engine with
            staged := w.effect p₀.engine.staged, stamp := stamp, events := events } :=
        ⟨rfl, rfl, rfl, rfl⟩
      exact outside.trans (first.trans stages)

/-- A workset that is run adds one part. -/
theorem whole_runUnder {docs : Keyed Document} {parts : List (List Work)} (now : Nat)
    (listening : Bool) (agenda : List Faults) (w : Workset) :
    p.workset = none → Whole docs parts p.engine →
      let outcomes := w.outcomesUnder (agenda.map Memory.under) p
      Shape w.works outcomes
        ∧ Whole docs (parts ++ [Passage.worked w.works outcomes])
          (w.runUnder now listening (agenda.map Memory.under) p).processor.engine := by
  intro hw whole
  obtain ⟨outcomes, p', worked, shape, stages⟩ :=
    submitUnder_stages w.works agenda
      (p := { p with workset := some ⟨w.strategies, none⟩ }) rfl whole.closed
  have attempt : attemptUnder (agenda.map Memory.under) w p = (.ok outcomes, p') := by
    simp only [attemptUnder, Call.andThen, Processor.beforeWorkset, hw, worked]
  simp only [outcomesUnder, runUnder, attempt]
  exact ⟨shape, Whole.lasting.afterWorkset now listening _ (whole.stage stages)⟩

end Workset

/-! ## Any run -/

namespace Queue

variable {q q' : Queue Memory} {i : Incident} {a : Event}

def parts (l : List Incident) : List (List Work) :=
  (passages l).map Passage.contribution

theorem parts_snoc (l : List Incident) (i : Incident) :
    parts (l ++ [i]) = parts l ++ i.passages.map Passage.contribution := by
  rw [parts, passages_snoc, List.map_append]
  rfl

/-- What is in the index all the time. -/
structure Prefixed (docs : Keyed Document) (l : List Incident) (q : Queue Memory) : Prop where
  whole : q.phase ≠ .closed → Whole docs (parts l) q.processor.engine
  cut : Cut docs (parts l) q.processor.engine.committed q.processor.engine.visible
  shapes : ∀ x ∈ passages l, Shape x.workset.works x.outcomes

theorem Step.of_open (s : Step q a q') :
    q'.phase ≠ .closed → q.phase ≠ .closed ∧ ∀ now, a ≠ .finished now := by
  intro open'
  refine ⟨fun closed => open' ?_, ?_⟩
  · exact (s.afterwards (by rw [closed]; rfl)).phase.trans closed
  · rintro now rfl
    cases s
    exact open' rfl

theorem whole_act {docs : Keyed Document} {parts : List (List Work)} {p : Processor Memory} :
    a.runs = [] → (∀ now, a ≠ .finished now) → Whole docs parts p.engine →
      Whole docs parts (a.act p).engine := by
  intro none going whole
  cases a with
  | received s =>
    show Whole docs parts (Processor.beginBatch p).2.engine
    unfold Processor.beginBatch
    split <;> exact whole
  | ran ticket w now => cases none
  | ended now => exact Whole.lasting.endBatch now whole
  | expired now => exact Whole.lasting.commitPending now whole
  | finished now => exact absurd rfl (going now)
  | _ => exact whole

theorem cut_close {docs : Keyed Document} {parts : List (List Work)} {p : Processor Memory}
    (now : Nat) :
    Whole docs parts p.engine →
      Cut docs parts (Processor.close now p).2.engine.committed
        (Processor.close now p).2.engine.visible := by
  intro whole
  have flushed := Whole.lasting.flush now whole
  obtain ⟨log, closed⟩ := Processor.close_eq now p
  obtain ⟨committed, visible⟩ := Memory.close_durable (Processor.flush now p).2.engine
  rw [closed]
  dsimp only
  rw [committed, visible]
  exact flushed.cut

theorem Prefixed.move {docs : Keyed Document} {l : List Incident} {h : History} :
    Prefixed docs l q → Tidy h q → Move q i q' → Prefixed docs (l ++ [i]) q' := by
  rintro ⟨whole, cut, shapes⟩ tidy move
  cases move with
  | @step _ a s none =>
    have same : parts (l ++ [.step a]) = parts l := by
      rw [parts_snoc]
      exact List.append_nil _
    have act := s.engine
    have whole' : q'.phase ≠ .closed → Whole docs (parts l) q'.processor.engine := by
      intro open'
      obtain ⟨before, going⟩ := s.of_open open'
      rw [act]
      exact whole_act none going (whole before)
    refine ⟨by rw [same]; exact whole', ?_, ?_⟩
    · rw [same]
      by_cases open' : q'.phase = .closed
      · by_cases before : q.phase = .closed
        · -- after the end nothing happens any more
          rw [act, (s.afterwards (by rw [before]; rfl)).act]
          exact cut
        · rcases s.of_isOver (by rw [open']; rfl) with ended | ⟨crashed, -⟩ | ⟨-, ⟨now, rfl⟩, -⟩
          · exact absurd ((s.afterwards ended).phase.symm.trans open') before
          · rw [open'] at crashed
            cases crashed
          · rw [act]
            exact cut_close now (whole before)
      · exact (whole' open').cut
    · rw [passages_snoc]
      simpa [Incident.passages] using shapes
  | @run e count w agenda hp hj =>
    -- one part more, and the end of the workset may move the cuts
    obtain ⟨shape, after⟩ := w.whole_runUnder q.now e.listening agenda tidy.workset
      (whole (by rw [hp]; nofun))
    have engine := (alike_concluded q e
      (w.runUnder q.now e.listening (agenda.map Memory.under) q.processor)).congr
      Processor.engine fun _ _ => rfl
    rw [← engine] at after
    refine ⟨fun _ => by rw [parts_snoc]; exact after, by rw [parts_snoc]; exact after.cut, ?_⟩
    intro x hx
    rw [passages_snoc] at hx
    rcases List.mem_append.mp hx with hx | hx
    · exact shapes x hx
    · obtain rfl := List.mem_singleton.mp hx
      exact shape
  | meddle faults =>
    have same : parts (l ++ [.meddled]) = parts l := by
      rw [parts_snoc]
      exact List.append_nil _
    refine ⟨fun open' => ?_, by rw [same]; exact cut, ?_⟩
    · obtain ⟨closed, staged, cut⟩ := whole open'
      rw [same]
      exact ⟨closed, staged, cut⟩
    · rw [passages_snoc]
      simpa [Incident.passages] using shapes

theorem Prefixed.start {p : Processor Memory} (size : Nat) (closed : p.engine.closed = false)
    (committed : p.engine.committed = p.engine.staged)
    (visible : p.engine.visible = p.engine.staged) :
    Prefixed p.engine.staged [] (Queue.start p size) :=
  ⟨fun _ => .fresh closed committed visible, (Whole.fresh closed committed visible).cut, nofun⟩

theorem runs_events {l : List Incident} (m : Moves q l q') :
    (events l).runs = (passages l).map Passage.submission := by
  refine m.invariant (P := fun l _ => (events l).runs = (passages l).map Passage.submission) rfl ?_
  intro l i q₁ q₂ _ same move
  rw [events_snoc, passages_snoc, History.runs_snoc, List.map_append, same]
  cases move with
  | @step _ a _ none =>
    rw [show (Incident.step a).event.runs = [] from none]
    rfl
  | run | meddle => rfl

/-- **Commits never split a workset.**  Between the steps no workset is open.
While the works of a workset are done, the engine is asked for changes of
documents only, and for a commit and a refresh when all of them are done, if at
all.  The worksets are run in the order of the queue.  Each of them does all its
works, or those before the first one that fails.  And what is committed is the
effect of the first so many of the worksets, and what is visible too. -/
theorem commits_never_split {p : Processor Memory} {size : Nat} {l : List Incident}
    {q : Queue Memory} :
    Moves (Queue.start p size) l q → p.Idle → p.engine.closed = false →
      p.engine.committed = p.engine.staged → p.engine.visible = p.engine.staged →
      (q.processor.workset = none
        ∧ ∀ (now : Nat) (listening : Bool) (agenda : List Faults) (w : Workset),
          let agenda' : List (Watched Memory → Watched Memory) :=
            agenda.map fun faults x => { x with engine := x.engine.under faults }
          let worked := (w.attemptUnder agenda' q.processor.watched).2
          let ended := (w.runUnder now listening agenda' q.processor.watched).processor
          ended.carried Watched.engine ⟨q.processor.journal.handling, [], [], []⟩
              = (w.runUnder now listening (agenda.map Memory.under) q.processor).processor
            ∧ (∀ r ∈ worked.engine.asked, r.isChange = true)
            ∧ ∃ last ∈ [[], [Request.commit], [.commit, .refresh]],
              ended.engine.asked = worked.engine.asked ++ last)
      ∧ (passages l).map Passage.submission <+: (events l).entries
      ∧ (∀ x ∈ passages l, ∃ outputs : List Output,
          outputs.length = x.contribution.length
          ∧ ((x.outcomes = outputs.map .executed ∧ x.contribution = x.workset.works)
            ∨ ∃ w rest, x.workset.works = x.contribution ++ w :: rest
              ∧ x.outcomes
                = outputs.map .executed ++ .failed :: List.replicate rest.length .skipped))
      ∧ ∃ n k, k ≤ n ∧ n ≤ (passages l).length
        ∧ q.processor.engine.committed
          = Work.effects (((passages l).take n).flatMap Passage.contribution) p.engine.staged
        ∧ q.processor.engine.visible
          = Work.effects (((passages l).take k).flatMap Passage.contribution) p.engine.staged := by
  intro m idle closed committed visible
  have prefixed : Prefixed p.engine.staged l q := by
    refine m.invariant (P := fun l q => Prefixed p.engine.staged l q)
      (.start size closed committed visible) ?_
    intro l i q₁ q₂ moves before move
    exact before.move (Tidy.of_moves idle moves) move
  refine ⟨⟨(Tidy.of_moves idle m).workset, ?asked⟩, ?order, ?shapes, ?cut⟩
  case asked =>
    intro now listening agenda w agenda' worked ended
    have quiet : ∀ g ∈ agenda', ∀ x : Watched Memory, (g x).asked = x.asked := by
      intro g hg x
      obtain ⟨faults, -, rfl⟩ := List.mem_map.mp hg
      rfl
    obtain ⟨⟨changes, asked, only⟩, last⟩ :=
      w.asked_runUnder now listening q.processor.watched quiet
    refine ⟨?_, fun r hr => only r ?_, last⟩
    · have same : w.runUnder now listening (agenda.map Memory.under)
            (q.processor.watched.carried Watched.engine _)
          = (w.runUnder now listening agenda' q.processor.watched).carried Watched.engine
            ⟨q.processor.journal.handling, [], [], []⟩ :=
        w.carried_runUnder Watched.faithful (fun _ _ => rfl) now listening agenda _
      rw [Processor.carried_watched] at same
      exact (congrArg Settled.processor same).symm
    have hr : r ∈ worked.engine.asked := hr
    rw [show worked.engine.asked = [] ++ changes from asked, List.nil_append] at hr
    exact hr
  case order =>
    rw [← runs_events m]
    exact m.runs_prefix idle
  case shapes =>
    intro x hx
    exact (prefixed.shapes x hx).cases
  case cut =>
    obtain ⟨n, k, hk, hn, committed, visible⟩ := prefixed.cut
    refine ⟨n, k, hk, by simpa [parts] using hn, ?_, ?_⟩
    · rw [committed, parts, ← List.map_take, List.flatMap_def]
    · rw [visible, parts, ← List.map_take, List.flatMap_def]

/-- Two worksets, the first of which insists on its commit and has a work that
fails. -/
theorem commits_never_split_of_two_worksets :
    let p := opened ⟨"books"⟩ ["b"] 0
    let add (id : String) : Change := .add ⟨id, []⟩
    let first : Workset :=
      { content := .changeset [add "a", add "b", add "c"], strategies := { commit := .force } }
    let second : Workset := { content := .single (.change (add "d")) }
    ∃ l q, Moves (Queue.start p 4) l q
      ∧ (passages l).map Passage.workset = [first, second]
      ∧ ∃ n k, k ≤ n ∧ n ≤ 2
        ∧ q.processor.engine.committed
          = Work.effects (((passages l).take n).flatMap Passage.contribution) []
        ∧ q.processor.engine.visible
          = Work.effects (((passages l).take k).flatMap Passage.contribution) [] := by
  intro p add first second
  have idle : p.Idle := ⟨rfl, rfl⟩
  obtain ⟨h, q, r, closed, jobs⟩ := exists_run idle 4 [first, second]
  obtain ⟨l, m, rfl⟩ := r.moves
  have submitted : (passages l).map Passage.submission = (events l).entries := by
    rw [← runs_events m]
    exact r.runs_eq idle closed
  have worksets : (passages l).map Passage.workset = [first, second] := by
    have same := (congrArg (List.map Prod.snd) submitted).trans jobs
    rw [List.map_map] at same
    refine List.map_injective_iff.mpr (fun _ _ => Job.workset.inj) ?_
    rw [List.map_map]
    exact same
  obtain ⟨-, -, -, n, k, hk, hn, committed, visible⟩ := commits_never_split m idle rfl rfl rfl
  have two : (passages l).length = 2 := by
    simpa using congrArg List.length worksets
  rw [two] at hn
  exact ⟨l, q, m, worksets, n, k, hk, hn, committed, visible⟩

end Queue

end WritePath
