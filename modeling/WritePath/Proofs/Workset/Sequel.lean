import WritePath.Proofs.Engine.Staging
import WritePath.Proofs.Workset.Containment

/-!
# Worksets without a processor

What a workset comes to over an index in memory whose commits, refreshes and
close do not fail, said without batches, commits, clocks or stamps: a `Library`
has the documents, what the readers see of them, and the reports so far, and
`Workset.settle` is what a workset makes of it and answers.

A processor agrees with a library (`Reads`) if it has the same documents staged,
the same documents shown and the same reports, and has committed all of it
unless something is pending.  Running a workset keeps the two in agreement, and
the submitter is told what the library says (`Reads.run`).  All the other calls,
which are about batches and commits, do not change what a processor agrees with:
so they may come at any time.
-/

namespace WritePath

open Engine (Memory Faults)

/-- An index without a writer. -/
structure Library where
  documents : Keyed Document := []
  /-- What the readers see. -/
  shown : Keyed Document := []
  reports : List Report := []

namespace Workset

/-- Does works until one of them fails: the documents afterwards, and the work
that failed with its failure and the works behind it. -/
def perform (faults : Faults) :
    List Work → Keyed Document → Keyed Document × Option (Work × Failure × List Work)
  | [], docs => (docs, none)
  | w :: rest, docs =>
    match w.fault? faults with
    | some e => (docs, some (w, e, rest))
    | none => perform faults rest (w.effect docs)

/-- The answer to a workset in which nothing has failed, without its stamp. -/
def output (w : Workset) : Output :=
  match w.content with
  | .single work => work.output
  | .changeset _ => .unit

/-- What a workset answers and makes of a library. -/
def settle (index : IndexName) (faults : Faults) (w : Workset) (l : Library) :
    Except Failure Output × Library :=
  match perform faults w.works l.documents with
  | (docs, some (failed, e, rest)) =>
    (.error e,
      { l with
        documents := docs
        reports := l.reports ++ [⟨index, [⟨failed.label, e⟩], rest.map Work.label, []⟩] })
  | (docs, none) =>
    (.ok w.output,
      { l with
        documents := docs
        shown := if w.strategies.refresh = .force then docs else l.shown })

/-! ## Works in memory, one after the other -/

/-- The same engine with other documents staged, whatever it has numbered and
noted since. -/
def StagedOver (m : Memory) (docs : Keyed Document) (m' : Memory) : Prop :=
  ∃ stamp events, m' = { m with staged := docs, stamp := stamp, events := events }

theorem perform_none {works : List Work} {m : Memory} (hm : m.closed = false)
    {docs : Keyed Document} (h : perform m.faults works m.staged = (docs, none)) :
    ∃ outputs m', Executes works m outputs m' ∧ StagedOver m docs m'
      ∧ outputs.map Output.unstamped = works.map Work.output := by
  induction works generalizing m with
  | nil =>
    cases h
    exact ⟨[], m, .nil m, ⟨m.stamp, m.events, rfl⟩, rfl⟩
  | cons w rest ih =>
    simp only [perform] at h
    split at h
    · cases h
    · next hw =>
      obtain ⟨o, stamp, events, hr, ho⟩ := Memory.work_taken hm hw
      obtain ⟨outputs, m', executed, ⟨stamp', events', rfl⟩, same⟩ := ih (m := { m with
        staged := w.effect m.staged
        stamp := stamp
        events := events }) hm h
      exact ⟨o :: outputs, _, .cons hr executed, ⟨stamp', events', rfl⟩, by simp [ho, same]⟩

theorem perform_some {works rest : List Work} {m : Memory} (hm : m.closed = false)
    {docs : Keyed Document} {w : Work} {e : Failure}
    (h : perform m.faults works m.staged = (docs, some (w, e, rest))) :
    ∃ before outputs m', works = before ++ w :: rest ∧ Executes before m outputs m'
      ∧ w.run m' = (.error e, m') ∧ StagedOver m docs m' := by
  induction works generalizing m with
  | nil => cases h
  | cons v later ih =>
    simp only [perform] at h
    split at h
    · next hv =>
      cases h
      exact ⟨[], [], m, rfl, .nil m, Memory.work_refused hm hv, ⟨m.stamp, m.events, rfl⟩⟩
    · next hv =>
      obtain ⟨o, stamp, events, hr, -⟩ := Memory.work_taken hm hv
      obtain ⟨before, outputs, m', rfl, executed, fails, ⟨stamp', events', rfl⟩⟩ :=
        ih (m := { m with
        staged := v.effect m.staged
        stamp := stamp
        events := events }) hm h
      exact ⟨v :: before, o :: outputs, _, rfl, .cons hr executed, fails,
        ⟨stamp', events', rfl⟩⟩

/-! ## Agreement -/

/-- The processor says what the library says. -/
structure Reads (index : IndexName) (ids : List String) (l : Library)
    (p : Processor Memory) : Prop where
  index : p.index = index
  handling : p.journal.handling = .collecting
  workset : p.workset = none
  faults : p.engine.faults = { documents := ids }
  closed : p.engine.closed = false
  staged : p.engine.staged = l.documents
  visible : p.engine.visible = l.shown
  reports : p.journal.reports = l.reports
  exceptions : p.journal.exceptions = []
  durable : p.pending = false → p.engine.committed = l.documents

/-- What is left of the agreement when the processor has been closed. -/
structure Concluded (l : Library) (p : Processor Memory) : Prop where
  committed : p.engine.committed = l.documents
  visible : p.engine.visible = l.shown
  reports : p.journal.reports = l.reports
  exceptions : p.journal.exceptions = []

variable {index : IndexName} {ids : List String} {l : Library} {p : Processor Memory}

theorem Reads.batch (r : Reads index ids l p) (b : Bool) :
    Reads index ids l { p with batchOpen := b } :=
  ⟨r.index, r.handling, r.workset, r.faults, r.closed, r.staged, r.visible, r.reports,
    r.exceptions, r.durable⟩

theorem Reads.commits (r : Reads index ids l p) (now : Nat) :
    ∃ stamp events log, Processor.commitNow now p
      = (.ok (),
          { p with
            engine := { p.engine with
              committed := p.engine.staged
              stamp := stamp
              events := events }
            pending := false
            lastCommit := some now
            journal := p.journal.record log }) := by
  have sound := Memory.commit_sound r.closed (by rw [r.faults])
  obtain ⟨log, h⟩ := Processor.commitNow_ok sound now
  exact ⟨_, _, log, h⟩

theorem Reads.commitPending (r : Reads index ids l p) (now : Nat) :
    Reads index ids l (p.commitPending now) := by
  unfold Processor.commitPending
  split
  · obtain ⟨stamp, events, log, h⟩ := r.commits now
    rw [h]
    exact ⟨r.index, r.handling, r.workset, r.faults, r.closed, r.staged, r.visible, r.reports,
      r.exceptions, fun _ => r.staged⟩
  · exact r

theorem Reads.beginBatch (r : Reads index ids l p) :
    Reads index ids l (Processor.beginBatch p).2 := by
  unfold Processor.beginBatch
  split
  · exact r
  · exact r.batch true

theorem Reads.endBatch (r : Reads index ids l p) (now : Nat) :
    Reads index ids l (Processor.endBatch now p).2 := by
  cases hb : p.batchOpen with
  | false =>
    simp only [Processor.endBatch, hb, Bool.false_eq_true, if_false]
    exact r
  | true =>
    rw [Processor.endBatch_open now hb r.workset]
    dsimp only
    split
    · exact (r.batch false).commitPending now
    · exact r.batch false

theorem Reads.close (r : Reads index ids l p) (now : Nat) :
    Concluded l (Processor.close now p).2 := by
  obtain ⟨log, h⟩ := Processor.close_eq now p
  have flushed : (Processor.flush now p).2.engine.committed = l.documents
      ∧ (Processor.flush now p).2.engine.visible = l.shown
      ∧ (Processor.flush now p).2.journal.reports = l.reports
      ∧ (Processor.flush now p).2.journal.exceptions = [] := by
    unfold Processor.flush
    split
    · obtain ⟨stamp, events, log, h⟩ := r.commits now
      rw [h]
      exact ⟨r.staged, r.visible, r.reports, r.exceptions⟩
    · next hp =>
      exact ⟨r.durable (Bool.not_eq_true _ ▸ hp), r.visible, r.reports, r.exceptions⟩
  obtain ⟨committed, visible, reports, exceptions⟩ := flushed
  obtain ⟨sameCommitted, sameVisible⟩ :=
    Memory.close_durable (Processor.flush now p).2.engine
  rw [h]
  exact ⟨sameCommitted.trans committed, sameVisible.trans visible, reports, exceptions⟩

/-! ## Running a workset -/

theorem run_of_shows {w : Workset} {now : Nat} {listening : Bool}
    {o : Observed Memory Output}
    (h : Shows p w.strategies w.works now listening (w.answer o.outcomes) o) :
    (w.run now listening p).told = some o.told
      ∧ (w.run now listening p).processor.engine = o.engine
      ∧ (w.run now listening p).processor.pending = o.pending
      ∧ (w.run now listening p).processor.journal.reports = p.journal.reports ++ o.reports
      ∧ (w.run now listening p).processor.journal.exceptions = p.journal.exceptions := by
  obtain ⟨p', attempted, -, ended, after, engine, pending, -, reports, exceptions⟩ := h
  have run : w.run now listening p = ⟨.ok (), some o.told, ended⟩ := by
    have attempted : Call.andThen (Processor.beforeWorkset w.strategies)
        (fun _ => submitAll w.works) p = (.ok o.outcomes, p') := attempted
    simp only [Workset.run, attempted, after]
  rw [run]
  exact ⟨rfl, engine, pending, reports, exceptions⟩

theorem answer_executed {w : Workset} {outputs : List Output}
    (h : outputs.map Output.unstamped = w.works.map Work.output) :
    ∃ v, w.answer (outputs.map .executed) = some v ∧ v.unstamped = w.output := by
  obtain ⟨content, strategies⟩ := w
  cases content with
  | single work =>
    obtain ⟨o, rest, rfl, ho, -⟩ := List.map_eq_cons_iff.mp h
    exact ⟨o, rfl, ho⟩
  | changeset changes => exact ⟨.unit, rfl, rfl⟩

theorem StagedOver.of_nil {m m' : Memory} {docs : Keyed Document}
    {outputs : List Output} (h : Executes [] m outputs m')
    (s : StagedOver m docs m') : docs = m.staged := by
  obtain ⟨stamp, events, rfl⟩ := s
  generalize hm : ({ m with staged := docs, stamp := stamp, events := events } : Memory)
    = m' at h
  cases h
  exact congrArg Memory.staged hm

/-- What has to be looked at after a workset: the rest is the same after every
workset. -/
theorem Reads.after (r : Reads index ids l p) (w : Workset) (now : Nat)
    (listening : Bool) {l' : Library} {m : Memory}
    (engine : (w.run now listening p).processor.engine = m)
    (faults : m.faults = { documents := ids }) (closed : m.closed = false)
    (staged : m.staged = l'.documents) (visible : m.visible = l'.shown)
    (reports : (w.run now listening p).processor.journal.reports = l'.reports)
    (exceptions : (w.run now listening p).processor.journal.exceptions = p.journal.exceptions)
    (durable : (w.run now listening p).processor.pending = false →
      m.committed = l'.documents) :
    Reads index ids l' (w.run now listening p).processor := by
  obtain ⟨frame, ended, -⟩ := w.run_frame now listening r.workset
  subst engine
  exact ⟨frame.index.trans r.index, frame.handling.trans r.handling, ended, faults,
    closed, staged, visible, reports, exceptions.trans r.exceptions, durable⟩

section Run

variable {w : Workset} {docs : Keyed Document} (now : Nat) (listening : Bool)

theorem Reads.run_executed (r : Reads index ids l p)
    (hp : perform { documents := ids } w.works l.documents = (docs, none))
    (hn : w.strategies.needsCommit = false) :
    Reads index ids { l with documents := docs } (w.run now listening p).processor
      ∧ (w.run now listening p).told.map (Except.map Output.unstamped)
        = some (.ok w.output) := by
  have all : perform p.engine.faults w.works p.engine.staged = (docs, none) := by
    rw [r.faults, r.staged, hp]
  obtain ⟨outputs, m, executed, ⟨stamp, events, rfl⟩, same⟩ := perform_none r.closed all
  obtain ⟨v, answer, unstamped⟩ := answer_executed same
  have shows := shows_executed r.workset executed hn now listening v
  rw [← answer] at shows
  obtain ⟨told, engine, pending, reports, exceptions⟩ := run_of_shows shows
  refine ⟨r.after w now listening engine r.faults r.closed rfl r.visible ?_ exceptions
    fun clear => ?_, ?_⟩
  · rw [reports, List.append_nil]
    exact r.reports
  · -- nothing is pending, so there was no work
    rw [pending, Bool.or_eq_false_iff, Bool.not_eq_false', List.isEmpty_iff] at clear
    rw [clear.2] at executed
    show p.engine.committed = docs
    rw [StagedOver.of_nil executed ⟨stamp, events, rfl⟩, r.staged]
    exact r.durable clear.1
  · rw [told]
    exact congrArg (fun o => some (Except.ok o)) unstamped

theorem Reads.run_committed (r : Reads index ids l p)
    (hp : perform { documents := ids } w.works l.documents = (docs, none))
    (hn : w.strategies.needsCommit = true) :
    Reads index ids
        { l with
          documents := docs
          shown := if w.strategies.refresh = .force then docs else l.shown }
        (w.run now listening p).processor
      ∧ (w.run now listening p).told.map (Except.map Output.unstamped)
        = some (.ok w.output) := by
  have all : perform p.engine.faults w.works p.engine.staged = (docs, none) := by
    rw [r.faults, r.staged, hp]
  obtain ⟨outputs, m, executed, ⟨stamp, events, rfl⟩, same⟩ := perform_none r.closed all
  obtain ⟨v, answer, unstamped⟩ := answer_executed same
  have sound := Memory.commit_sound (m := { p.engine with
    staged := docs
    stamp := stamp
    events := events }) r.closed (by show p.engine.faults.commits = 0; rw [r.faults])
  have shows := shows_committed r.workset executed hn sound now listening v
  rw [← answer] at shows
  obtain ⟨told, engine, -, reports, exceptions⟩ := run_of_shows shows
  have reports' : (w.run now listening p).processor.journal.reports = l.reports := by
    rw [reports, List.append_nil]
    exact r.reports
  refine ⟨?_, ?_⟩
  · by_cases force : w.strategies.refresh = .force
    · have refreshed := Memory.refresh_sound (m := { p.engine with
        staged := docs
        committed := docs
        stamp := stamp + 1
        events := events ++ [.commit] }) r.closed
          (by show p.engine.faults.refresh = false; rw [r.faults])
      simp only [Processor.shownIf, force, if_true, refreshed] at engine ⊢
      exact r.after w now listening engine r.faults r.closed rfl rfl reports' exceptions
        fun _ => rfl
    · simp only [Processor.shownIf, force, if_false] at engine ⊢
      exact r.after w now listening engine r.faults r.closed rfl r.visible reports' exceptions
        fun _ => rfl
  · rw [told]
    exact congrArg (fun o => some (Except.ok o)) unstamped

theorem Reads.run_failed (r : Reads index ids l p) {failed : Work} {e : Failure}
    {rest : List Work}
    (hp : perform { documents := ids } w.works l.documents = (docs, some (failed, e, rest))) :
    Reads index ids
        { l with
          documents := docs
          reports := l.reports ++ [⟨index, [⟨failed.label, e⟩], rest.map Work.label, []⟩] }
        (w.run now listening p).processor
      ∧ (w.run now listening p).told.map (Except.map Output.unstamped) = some (.error e) := by
  have some' : perform p.engine.faults w.works p.engine.staged
    = (docs, some (failed, e, rest)) := by
    rw [r.faults, r.staged, hp]
  obtain ⟨before, outputs, m, works, executed, fails, ⟨stamp, events, rfl⟩⟩ :=
    perform_some r.closed some'
  have shows : Shows p w.strategies (before ++ failed :: rest) now listening _ _ :=
    shows_failed r.workset r.handling executed fails now listening
      (w.answer (outputs.map .executed ++ .failed :: List.replicate rest.length .skipped))
  rw [← works] at shows
  obtain ⟨told, engine, pending, reports, exceptions⟩ := run_of_shows shows
  refine ⟨r.after w now listening engine r.faults r.closed rfl r.visible ?_ exceptions
    fun clear => ?_, ?_⟩
  · rw [reports, r.reports, failureReport, r.index]
  · -- nothing is pending, so the first work was the one that failed
    rw [pending, Bool.or_eq_false_iff, Bool.not_eq_false', List.isEmpty_iff] at clear
    rw [clear.2] at executed
    show p.engine.committed = docs
    rw [StagedOver.of_nil executed ⟨stamp, events, rfl⟩, r.staged]
    exact r.durable clear.1
  · rw [told]
    rfl

/-- A processor and a library stay in agreement when a workset is run, and say
the same to the submitter. -/
theorem Reads.run (r : Reads index ids l p) (w : Workset) :
    Reads index ids (w.settle index { documents := ids } l).2
        (w.run now listening p).processor
      ∧ (w.run now listening p).told.map (Except.map Output.unstamped)
        = some (w.settle index { documents := ids } l).1 := by
  rcases hp : perform { documents := ids } w.works l.documents with
    ⟨docs, _ | ⟨failed, e, rest⟩⟩
  · simp only [settle, hp]
    cases hn : w.strategies.needsCommit with
    | false =>
      have unshown : w.strategies.refresh ≠ .force := by
        intro force
        rw [Strategies.needsCommit_iff.mpr (.inr force)] at hn
        cases hn
      rw [if_neg unshown]
      exact r.run_executed now listening hp hn
    | true => exact r.run_committed now listening hp hn
  · simp only [settle, hp]
    exact r.run_failed now listening hp

end Run

end Workset

end WritePath
