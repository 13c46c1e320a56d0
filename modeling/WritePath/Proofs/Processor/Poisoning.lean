import WritePath.Proofs.Engine.Atomicity
import WritePath.Proofs.Processor.Turns

/-!
# A failed workset does no harm to the others

Two runs of a processor over an index in memory.  In one of them a workset has a
work that fails.  In the other this workset is another one: it insists on
nothing, and it holds the works before the failing one and no more.  All else is
the same in both, and whoever is not the submitter of that workset cannot tell
the two runs apart, but for the report on it (`no_poisoning`).  If the first work
of the workset fails, the other run may do without the workset altogether.

Three facts make the runs the same.

* A work that fails in memory changes nothing (`Memory.work_error`), and the
  works behind it are skipped.
* While a workset is open nobody looks at what is in it (`Ignores`).
* Nobody looks at what was told before (`Turn.act_recalling`).  So the runs
  cannot grow apart again after the workset has ended, although one of them has
  told more.
-/

namespace WritePath.Processor

open Engine (Memory Faults)

/-! ## Before the failure -/

theorem ignores_of_executed {p : Processor Memory} {now : Nat} {w : Work} {s s' : Strategies} :
    p.workset = some ⟨s, none⟩ → (submit w p).1 ≠ .ok .failed →
      Ignores (.call now (.submit w)) (some ⟨s', none⟩) p := by
  intro hw good
  rcases hr : w.run p.engine with ⟨e | o, m⟩
  · obtain ⟨log, h⟩ := submit_failed hw hr
    exact absurd (congrArg Prod.fst h) good
  · have done := submit_executed hw hr
    have done' := submit_executed (p := p.reopened (some ⟨s', none⟩)) rfl hr
    refine ⟨?_, ?_, congrArg (fun c => (Prod.snd c).workset) done⟩
    · show (submit w (p.reopened _)).2 = (submit w p).2.reopened _
      rw [done, done']
      rfl
    · show Answer.outcome (submit w (p.reopened _)).1 = .outcome (submit w p).1
      rw [done, done']

theorem early_reopened {early : List Turn} {p : Processor Memory} {s : Strategies}
    (s' : Strategies) :
    p.workset = some ⟨s, none⟩ →
      (∀ y ∈ transcript early p, y.1.ends = false ∧ y.2 ≠ .outcome (.ok .failed)) →
      acts early (p.reopened (some ⟨s', none⟩)) = (acts early p).reopened (some ⟨s', none⟩)
        ∧ transcript early (p.reopened (some ⟨s', none⟩)) = transcript early p
        ∧ (acts early p).workset = some ⟨s, none⟩ := by
  intro hw good
  have all := filter_reopened (fun _ => true) early (some ⟨s', none⟩)
    (I := fun q => q.workset = some ⟨s, none⟩) ?_ hw
  · rw [List.filter_eq_self.mpr fun _ _ => rfl, List.filter_eq_self.mpr fun _ _ => rfl] at all
    exact all
  · intro y hy q hq same
    have h : Ignores y.1 (some ⟨s', none⟩) q := by
      obtain ⟨going, unfailed⟩ := good y hy
      cases ht : y.1.work? with
      | none => exact ignores_of_open ht going hq
      | some w =>
        obtain ⟨now, ht⟩ := Turn.eq_submit ht
        rw [same, ht] at unfailed
        rw [ht]
        exact ignores_of_executed hq fun failed => unfailed (congrArg Answer.outcome failed)
    exact ⟨h.workset.trans hq, by rw [if_pos rfl]; exact h⟩

/-! ## After the failure -/

/-- Without the works. -/
def idle (late : List Turn) : List Turn :=
  late.filter fun t => t.work?.isNone

/-- Once a work has failed the later ones go into the report, and nothing else
does. -/
theorem late_workset {late : List Turn} {p : Processor Memory} {s : Strategies} {r : Report} :
    p.workset = some ⟨s, some r⟩ → (∀ t ∈ late, t.ends = false) →
      (acts late p).workset = some ⟨s, some { r with
        skipped := r.skipped ++ (late.filterMap Turn.work?).map Work.label }⟩ := by
  intro hw going
  induction late generalizing p r with
  | nil => simpa [acts] using hw
  | cons t rest ih =>
    have later : ∀ u ∈ rest, u.ends = false := fun u hu => going u (List.mem_cons_of_mem t hu)
    cases ht : t.work? with
    | none =>
      have h : Ignores t (some ⟨s, none⟩) p :=
        ignores_of_open ht (going t List.mem_cons_self) hw
      rw [acts_cons, ih (h.workset.trans hw) later]
      simp [ht]
    | some w =>
      obtain ⟨now, rfl⟩ := Turn.eq_submit ht
      have skipped : ((Turn.call now (.submit w)).act p).workset
          = some ⟨s, some (r.markSkipped w.label)⟩ :=
        congrArg (fun c => (Prod.snd c).workset) (submit_skipped hw w)
      rw [acts_cons, ih skipped later]
      simp [Report.markSkipped, ht]

theorem late_reopened {late : List Turn} {p : Processor Memory} {s : Strategies} {r : Report}
    (y : OpenWorkset) :
    p.workset = some ⟨s, some r⟩ → (∀ t ∈ late, t.ends = false) →
      acts (idle late) (p.reopened (some y)) = (acts late p).reopened (some y)
        ∧ transcript (idle late) (p.reopened (some y))
          = (transcript late p).filter (fun z => z.1.work?.isNone) := by
  intro hw going
  have kept := filter_reopened (fun t => t.work?.isNone) late (some y)
    (I := fun q => ∃ r, q.workset = some ⟨s, some r⟩) ?_ ⟨r, hw⟩
  · exact ⟨kept.1, kept.2.1⟩
  · rintro z hz q ⟨r, hq⟩ -
    cases ht : z.1.work? with
    | none =>
      have h : Ignores z.1 (some y) q := ignores_of_open ht (going z.1 (mem_transcript hz)) hq
      exact ⟨⟨r, h.workset.trans hq⟩, h⟩
    | some w =>
      obtain ⟨now, ht⟩ := Turn.eq_submit ht
      have skipped : z.1.act q = q.reopened (some ⟨s, some (r.markSkipped w.label)⟩) := by
        rw [ht]
        exact congrArg Prod.snd (submit_skipped hq w)
      rw [skipped]
      exact ⟨⟨_, rfl⟩, rfl⟩

/-! ## The workset -/

/-- A workset with a work that fails, and what else happens while it is open. -/
structure Spoilt where
  strategies : Strategies
  /-- The works before the one that fails, and whatever else happens before. -/
  early : List Turn
  work : Work
  /-- The works behind the one that fails, and whatever else happens then. -/
  late : List Turn
  listening : Bool
  value : Option Output
  opened : Nat
  failed : Nat
  ended : Nat

namespace Spoilt

variable (x : Spoilt)

def turns : List Turn :=
  .call x.opened (.beforeWorkset x.strategies) :: x.early
    ++ .call x.failed (.submit x.work) :: x.late
    ++ [.call x.ended (.afterWorkset x.listening x.value)]

/-- The workset without its last call. -/
def unended : List Turn :=
  .call x.opened (.beforeWorkset x.strategies) :: x.early
    ++ .call x.failed (.submit x.work) :: x.late

/-- In place of it, a workset that insists on nothing and has no works but those
before the one that fails. -/
def shortened (listening : Bool) (v : Output) : List Turn :=
  .call x.opened (.beforeWorkset {}) :: x.early ++ idle x.late
    ++ [.call x.ended (.afterWorkset listening (some v))]

/-- The processor when the works before the one that fails are done. -/
def worked (p : Processor Memory) : Processor Memory :=
  acts x.early (p.reopened (some ⟨x.strategies, none⟩))

def skipped : List Work :=
  x.late.filterMap Turn.work?

def report (index : IndexName) (e : Failure) : Report :=
  ⟨index, [⟨x.work.label, e⟩], x.skipped.map Work.label, []⟩

/-- The work is the first one that fails of a workset that is opened here. -/
structure Fails (p : Processor Memory) : Prop where
  free : p.workset = none
  early : ∀ y ∈ transcript x.early (p.reopened (some ⟨x.strategies, none⟩)),
    y.1.ends = false ∧ y.2 ≠ .outcome (.ok .failed)
  work : (submit x.work (x.worked p)).1 = .ok .failed
  late : ∀ t ∈ x.late, t.ends = false

end Spoilt

/-- The first processor has handed over the report, and the second one has not.
Else there may be differences between the two in the log, and nowhere. -/
structure Apart (r : Report) (p p' : Processor Memory) : Prop where
  index : p'.index = p.index
  engine : p'.engine = p.engine
  interval : p'.interval = p.interval
  lastCommit : p'.lastCommit = p.lastCommit
  pending : p'.pending = p.pending
  batchOpen : p'.batchOpen = p.batchOpen
  workset : p'.workset = p.workset
  handling : p'.journal.handling = p.journal.handling
  exceptions : p'.journal.exceptions = p.journal.exceptions
  reports : ∃ before after,
    p.journal.reports
        = before ++ (if p.journal.handling = .collecting then [r] else []) ++ after
      ∧ p'.journal.reports = before ++ after

theorem apart_recalling {r : Report} {past past' : Journal} (p : Processor Memory) :
    past'.exceptions = past.exceptions →
      past.reports
        = past'.reports ++ (if p.journal.handling = .collecting then [r] else []) →
      Apart r (p.recalling past) (p.recalling past') := by
  intro exceptions reports
  refine ⟨rfl, rfl, rfl, rfl, rfl, rfl, rfl, rfl, ?_, past'.reports, p.journal.reports, ?_, rfl⟩
  · show past'.exceptions ++ _ = past.exceptions ++ _
    rw [exceptions]
  · show past.reports ++ _ = _
    rw [reports]
    rfl

/-- The same, now and when the processor is closed. -/
structure Parted (r : Report) (p p' : Processor Memory) : Prop where
  apart : Apart r p p'
  answer : ∀ now, (close now p').1 = (close now p).1
  closed : ∀ now, Apart r (close now p).2 (close now p').2

/-- Whatever happens after the report, the processors stay as close as that. -/
theorem parted_recalling {r : Report} {past past' : Journal} (p : Processor Memory)
    (turns : List Turn) :
    past'.exceptions = past.exceptions →
      past.reports
        = past'.reports ++ (if p.journal.handling = .collecting then [r] else []) →
      Parted r (acts turns (p.recalling past)) (acts turns (p.recalling past')) := by
  intro exceptions reports
  have same := fixed_acts turns p
  rw [acts_recalling, acts_recalling]
  refine ⟨apart_recalling _ exceptions (by rw [same.handling]; exact reports), fun now => ?_,
    fun now => ?_⟩
  · rw [through_close .id now (acts turns p), through_close .id now (acts turns p)]
  · rw [through_close .id now (acts turns p), through_close .id now (acts turns p)]
    refine apart_recalling _ exceptions ?_
    rw [(close_frame now (acts turns p)).1.handling, same.handling]
    exact reports

theorem Apart.retold {r : Report} {p base : Processor Memory} {past past' : Journal} :
    Apart r p (base.recalling past) →
      past'.exceptions = past.exceptions → past'.reports = past.reports →
      Apart r p (base.recalling past') := by
  intro h exceptions reports
  have exceptions' : (base.recalling past').journal.exceptions
      = (base.recalling past).journal.exceptions :=
    congrArg (· ++ base.journal.exceptions) exceptions
  have reports' : (base.recalling past').journal.reports
      = (base.recalling past).journal.reports :=
    congrArg (· ++ base.journal.reports) reports
  exact ⟨h.index, h.engine, h.interval, h.lastCommit, h.pending, h.batchOpen, h.workset,
    h.handling, exceptions'.trans h.exceptions, by rw [reports']; exact h.reports⟩

/-- It does not matter where the past begins. -/
theorem Parted.retold {r : Report} {p base : Processor Memory} {past past' : Journal}
    {turns : List Turn} :
    Parted r p (acts turns (base.recalling past)) →
      past'.exceptions = past.exceptions → past'.reports = past.reports →
      Parted r p (acts turns (base.recalling past')) := by
  intro h exceptions reports
  obtain ⟨apart, answer, closed⟩ := h
  rw [acts_recalling] at apart answer closed ⊢
  refine ⟨apart.retold exceptions reports, fun now => ?_, fun now => ?_⟩
  · have same := answer now
    rw [through_close .id now (acts turns base)] at same ⊢
    exact same
  · have same := closed now
    rw [through_close .id now (acts turns base)] at same ⊢
    exact same.retold exceptions reports

theorem submit_unfailing {p : Processor Memory} {s : Strategies} {w : Work} :
    p.workset = some ⟨s, none⟩ → (submit w p).1 = .ok .failed →
      ∃ e log, submit w p = (.ok .failed,
        { p with
          journal := p.journal.record log
          workset := some ⟨s, some ⟨p.index, [⟨w.label, e⟩], [], []⟩⟩ }) := by
  intro hw failed
  rcases hr : w.run p.engine with ⟨e | o, m⟩
  · obtain ⟨log, h⟩ := submit_failed hw hr
    obtain rfl : m = p.engine := Memory.work_error hr
    exact ⟨e, log, h⟩
  · rw [submit_executed hw hr] at failed
    cases failed

theorem late_passes {late : List Turn} {p : Processor Memory} (s : Strategies) (r : Report)
    (log : List Log.Record) :
    (∀ t ∈ late, t.ends = false) →
      let q := { p with journal := p.journal.record log, workset := some ⟨s, some r⟩ }
      let o := p.reopened (some ⟨{}, none⟩)
      ∃ base : Processor Memory, base.workset = some ⟨{}, none⟩
        ∧ acts (idle late) o = base.recalling p.journal
        ∧ acts late q = (base.recalling (p.journal.record log)).reopened (some ⟨s, some { r with
          skipped := r.skipped ++ (late.filterMap Turn.work?).map Work.label }⟩)
        ∧ transcript (idle late) o = (transcript late q).filter (fun z => z.1.work?.isNone) := by
  intro going q o
  obtain ⟨acts', heard⟩ := late_reopened (p := q) ⟨{}, none⟩ rfl going
  have hw := late_workset (p := q) rfl going
  -- the longer log is a past, like the shorter one, and no call looks at it
  have start : o = o.forgetful.recalling p.journal := (recalling_forgetful o p.journal rfl).symm
  have start' : q.reopened (some ⟨{}, none⟩) = o.forgetful.recalling (p.journal.record log) :=
    (recalling_forgetful o (p.journal.record log) rfl).symm
  rw [start', acts_recalling] at acts'
  refine ⟨acts (idle late) o.forgetful, ?_, ?_, ?_, ?_⟩
  · exact congrArg Processor.workset acts'
  · rw [← acts_recalling, ← start]
  · rw [acts', ← hw]
    rfl
  · rw [start, transcript_recalling, ← heard, start', transcript_recalling]

theorem told_report {r : Report} (hr : r.isEmpty = false) (j : Journal) :
    (j.report r).exceptions = j.exceptions
      ∧ (j.report r).reports
        = j.reports ++ (if j.handling = .collecting then [r] else []) := by
  unfold Journal.report
  cases hj : j.handling <;> simp [hr]

theorem end_passes {base : Processor Memory} (past past' : Journal) (r : Report)
    {label : WorkLabel} {e : Failure} (s : Strategies) (now : Nat) (listening listening' : Bool)
    (value : Option Output) (v : Output) :
    base.workset = some ⟨{}, none⟩ → r.failed = [⟨label, e⟩] →
      past'.exceptions = past.exceptions → past'.reports = past.reports →
      let kept :=
        ((base.recalling past).reopened (some ⟨s, some r⟩)).afterWorkset now listening value
      let short := (base.recalling past').afterWorkset now listening' (some v)
      (kept.call = .ok () ∧ kept.told = some (.error e))
        ∧ (short.call = .ok () ∧ short.told = some (.ok v))
        ∧ ∃ (base : Processor Memory) (past past' : Journal),
          kept.processor = base.recalling past ∧ short.processor = base.recalling past'
            ∧ past'.exceptions = past.exceptions
            ∧ past.reports
              = past'.reports ++ (if base.journal.handling = .collecting then [r] else []) := by
  intro hw hr exceptions reports kept short
  have cause : r.firstCause = some e := by simp only [Report.firstCause, hr]
  obtain ⟨exceptions', reports'⟩ :=
    told_report (r := r) (by simp [Report.isEmpty, hr]) (past.after base.journal)
  obtain ⟨log, h⟩ : ∃ log, kept = _ :=
    afterWorkset_failed now listening (s := s) (r := r) rfl value
  obtain ⟨log', h'⟩ : ∃ log, short = _ :=
    afterWorkset_done now listening' (p := base.recalling past') hw
      (forcedSteps_none rfl now _) (some v)
  let closed : Processor Memory := { base with workset := none }
  have merge (j : Journal) (hj : j.handling = base.journal.handling) :
      ({ closed with journal := j } : Processor Memory) = closed.forgetful.recalling j :=
    (recalling_forgetful closed j hj).symm
  rw [h, h']
  refine ⟨⟨rfl, ?_⟩, ⟨rfl, rfl⟩, closed.forgetful,
    ((past.after base.journal).report r).record log, (past'.after base.journal).record log',
    ?_, ?_, ?_, ?_⟩
  · show some (Except.error (r.firstCause.getD _)) = _
    rw [cause]
    rfl
  · exact merge _ (handling_report _ r)
  · exact merge _ rfl
  · show past'.exceptions ++ base.journal.exceptions
      = ((past.after base.journal).report r).exceptions
    rw [exceptions', exceptions]
    rfl
  · show ((past.after base.journal).report r).reports = past'.reports ++ base.journal.reports ++ _
    rw [reports', reports]
    rfl

section Opened

variable {p : Processor Memory} (hw : p.workset = none) (now : Nat) (s : Strategies)
  (turns : List Turn)
include hw

theorem beforeWorkset_free : beforeWorkset s p = (.ok (), p.reopened (some ⟨s, none⟩)) := by
  simp only [beforeWorkset, hw]
  rfl

theorem acts_opened : acts (.call now (.beforeWorkset s) :: turns) p
    = acts turns (p.reopened (some ⟨s, none⟩)) := by
  simp only [acts_cons, Turn.act, Instruction.act, beforeWorkset_free hw]

theorem transcript_opened : transcript (.call now (.beforeWorkset s) :: turns) p
    = (.call now (.beforeWorkset s), .result (.ok ()))
      :: transcript turns (p.reopened (some ⟨s, none⟩)) := by
  simp only [transcript, Turn.act, Turn.answer, Instruction.act, Instruction.answer,
    beforeWorkset_free hw]

end Opened

/-- Up to the last call both runs go the same way, but one of them with a longer
log, and with the report in its open workset. -/
theorem Spoilt.Fails.unended {x : Spoilt} {p : Processor Memory} :
    x.Fails p → ∃ (base : Processor Memory) (e : Failure) (log : List Log.Record)
        (E L : List (Turn × Answer)),
      base.workset = some ⟨{}, none⟩
        ∧ acts x.unended p
          = (base.recalling ((x.worked p).journal.record log)).reopened
            (some ⟨x.strategies, some (x.report p.index e)⟩)
        ∧ acts (.call x.opened (.beforeWorkset {}) :: x.early ++ idle x.late) p
          = base.recalling (x.worked p).journal
        ∧ E.map Prod.fst = x.early ∧ L.map Prod.fst = x.late
        ∧ transcript x.unended p
          = (.call x.opened (.beforeWorkset x.strategies), .result (.ok ())) :: E
            ++ (.call x.failed (.submit x.work), .outcome (.ok .failed)) :: L
        ∧ transcript (x.early ++ idle x.late) (p.reopened (some ⟨{}, none⟩))
          = E ++ L.filter (fun z => z.1.work?.isNone) := by
  intro h
  have index : (x.worked p).index = p.index := (fixed_acts x.early _).index
  obtain ⟨early, heard, hw⟩ : acts x.early (p.reopened (some ⟨{}, none⟩))
        = (x.worked p).reopened (some ⟨{}, none⟩)
      ∧ transcript x.early (p.reopened (some ⟨{}, none⟩))
        = transcript x.early (p.reopened (some ⟨x.strategies, none⟩))
      ∧ (x.worked p).workset = some ⟨x.strategies, none⟩ :=
    early_reopened {} rfl h.early
  obtain ⟨e, log, failed⟩ := submit_unfailing hw h.work
  -- from the failing work on
  obtain ⟨base, closed, short, kept, heard'⟩ :=
    late_passes (p := x.worked p) x.strategies ⟨(x.worked p).index, [⟨x.work.label, e⟩], [], []⟩
      log h.late
  have middle : transcript (.call x.failed (.submit x.work) :: x.late) (x.worked p)
      = (.call x.failed (.submit x.work), .outcome (.ok .failed))
        :: transcript x.late (submit x.work (x.worked p)).2 := by
    simp only [transcript, Turn.act, Turn.answer, Instruction.act, Instruction.answer, failed]
  refine ⟨base, e, log, transcript x.early (p.reopened (some ⟨x.strategies, none⟩)),
    transcript x.late (submit x.work (x.worked p)).2, closed, ?_, ?_, transcript_turns _ _,
    transcript_turns _ _, ?_, ?_⟩
  · rw [Spoilt.unended, acts_append, acts_opened h.free, acts_cons, ← index]
    show acts x.late (submit x.work (x.worked p)).2 = _
    rw [failed]
    exact kept
  · rw [acts_append, acts_opened h.free, early]
    exact short
  · rw [Spoilt.unended, transcript_append, transcript_opened h.free, acts_opened h.free,
      show acts x.early _ = x.worked p from rfl, middle]
  · rw [transcript_append, heard, early, heard', failed]

/-- Both ways through the workset lead to the same place, but one has told more
on the way. -/
theorem Spoilt.Fails.passes {x : Spoilt} {p : Processor Memory} (listening : Bool)
    (v : Output) :
    x.Fails p → ∃ (base : Processor Memory) (past past' : Journal) (e : Failure),
      acts x.turns p = base.recalling past
        ∧ acts (x.shortened listening v) p = base.recalling past'
        ∧ past'.exceptions = past.exceptions
        ∧ past.reports = past'.reports
          ++ (if base.journal.handling = .collecting then [x.report p.index e] else [])
        ∧ ∃ E L, E.map Prod.fst = x.early ∧ L.map Prod.fst = x.late
          ∧ transcript x.turns p
            = (.call x.opened (.beforeWorkset x.strategies), .result (.ok ())) :: E
              ++ (.call x.failed (.submit x.work), .outcome (.ok .failed)) :: L
              ++ [(.call x.ended (.afterWorkset x.listening x.value),
                .settled (.ok ()) (some (.error e)))]
          ∧ transcript (x.shortened listening v) p
            = (.call x.opened (.beforeWorkset {}), .result (.ok ()))
              :: transcript (x.early ++ idle x.late) (p.reopened (some ⟨{}, none⟩))
              ++ [(.call x.ended (.afterWorkset listening (some v)),
                .settled (.ok ()) (some (.ok v)))]
          ∧ transcript (x.early ++ idle x.late) (p.reopened (some ⟨{}, none⟩))
            = E ++ L.filter (fun z => z.1.work?.isNone) := by
  intro h
  obtain ⟨base, e, log, E, L, open', kept, short, early, late, heard, heard'⟩ := h.unended
  obtain ⟨⟨call, told⟩, ⟨call', told'⟩, base', past, past', ended, ended', exceptions, reports⟩ :=
    end_passes ((x.worked p).journal.record log) (x.worked p).journal (x.report p.index e)
      x.strategies x.ended x.listening listening x.value v open' rfl rfl rfl
  have turns : x.turns
      = x.unended ++ [.call x.ended (.afterWorkset x.listening x.value)] := rfl
  refine ⟨base', past, past', e, ?_, ?_, exceptions, reports, E, L, early, late, ?_, ?_, heard'⟩
  · rw [turns, acts_append, kept]
    exact ended
  · rw [Spoilt.shortened, acts_append, short]
    exact ended'
  · rw [turns, transcript_append, heard, kept]
    simp only [transcript, Turn.answer, Instruction.answer, call, told]
  · rw [Spoilt.shortened, transcript_append, short, List.cons_append,
      transcript_opened h.free]
    simp only [transcript, Turn.answer, Instruction.answer, call', told']

theorem work?_of_minds {t : Turn} : t.minds = false → t.work? = none := by
  intro h
  cases ht : t.work? with
  | none => rfl
  | some w =>
    obtain ⟨now, rfl⟩ := Turn.eq_submit ht
    cases h

theorem filter_minds {α : Type} (turn : α → Turn) (l : List α) :
    (l.filter fun z => (turn z).work?.isNone).filter (fun z => !(turn z).minds)
      = l.filter fun z => !(turn z).minds := by
  rw [List.filter_filter]
  refine List.filter_congr fun z _ => ?_
  cases h : (turn z).minds with
  | true => rfl
  | false => simp [work?_of_minds h]

theorem Spoilt.Fails.going {x : Spoilt} {p : Processor Memory} :
    x.Fails p → ∀ t ∈ x.early, t.ends = false := by
  intro h t ht
  rw [← transcript_turns x.early (p.reopened (some ⟨x.strategies, none⟩))] at ht
  obtain ⟨y, hy, rfl⟩ := List.mem_map.mp ht
  exact (h.early y hy).1

/-- Without works before the failing one the workset may be missing. -/
theorem Spoilt.passes_without {x : Spoilt} {p : Processor Memory} (listening : Bool) (v : Output) :
    p.workset = none → (∀ t ∈ x.early, t.work? = none ∧ t.ends = false) →
      (∀ t ∈ x.late, t.ends = false) →
      ∃ (base : Processor Memory) (past past' : Journal),
        acts (x.shortened listening v) p = base.recalling past
          ∧ acts (free (x.early ++ idle x.late)) p = base.recalling past'
          ∧ past'.exceptions = past.exceptions ∧ past'.reports = past.reports
          ∧ transcript (free (x.early ++ idle x.late)) p
            = (transcript (x.early ++ idle x.late) (p.reopened (some ⟨{}, none⟩))).filter
              (fun z => !z.1.minds) := by
  intro hw early late
  have plain : ∀ t ∈ x.early ++ idle x.late, t.work? = none ∧ t.ends = false := by
    intro t ht
    rcases List.mem_append.mp ht with ht | ht
    · exact early t ht
    · obtain ⟨ht, idle⟩ := List.mem_filter.mp ht
      exact ⟨by simpa using idle, late t ht⟩
  obtain ⟨acts', heard, workset⟩ := free_reopened (p := p.reopened (some ⟨{}, none⟩)) rfl plain
  have shut : (p.reopened (some ⟨{}, none⟩)).reopened none = p := by
    rw [← hw]
    rfl
  rw [shut] at acts' heard
  obtain ⟨log, ended⟩ := afterWorkset_done x.ended listening workset
    (forcedSteps_none rfl x.ended _) (some v)
  generalize hq : acts (x.early ++ idle x.late) (p.reopened (some ⟨{}, none⟩)) = q at *
  have short : acts (x.shortened listening v) p
      = (q.afterWorkset x.ended listening (some v)).processor := by
    rw [Spoilt.shortened, acts_append, List.cons_append, acts_opened hw, hq]
    rfl
  refine ⟨(q.reopened none).forgetful, q.journal.record log, q.journal, ?_, ?_, rfl, rfl, heard⟩
  · rw [short, ended]
    exact (recalling_forgetful (q.reopened none) (q.journal.record log) rfl).symm
  · rw [acts']
    exact (recalling_forgetful (q.reopened none) q.journal rfl).symm

/-- **A failed workset does no harm to the others.**  A workset may be replaced by
one that insists on nothing and has only the works before the one that fails.
Everything else that happens is answered the same, before the workset has ended,
while it is open and afterwards, and the two processors are the same in the end
but for the one report.  If no work comes before the one that fails, the workset
may be missing altogether, with those calls that were refused because it was
open. -/
theorem no_poisoning (x : Spoilt) (p : Processor Memory) (rest : List Turn) (listening : Bool)
    (v : Output) :
    x.Fails p →
      ∃ E L R e,
        transcript (x.turns ++ rest) p
            = (.call x.opened (.beforeWorkset x.strategies), .result (.ok ())) :: E
              ++ (.call x.failed (.submit x.work), .outcome (.ok .failed)) :: L
              ++ (.call x.ended (.afterWorkset x.listening x.value),
                .settled (.ok ()) (some (.error e))) :: R
          ∧ E.map Prod.fst = x.early ∧ L.map Prod.fst = x.late ∧ R.map Prod.fst = rest
          ∧ transcript (x.shortened listening v ++ rest) p
            = (.call x.opened (.beforeWorkset {}), .result (.ok ())) :: E
              ++ L.filter (fun z => z.1.work?.isNone)
              ++ (.call x.ended (.afterWorkset listening (some v)),
                .settled (.ok ()) (some (.ok v))) :: R
          ∧ Parted (x.report p.index e)
              (acts (x.turns ++ rest) p) (acts (x.shortened listening v ++ rest) p)
          ∧ ((∀ t ∈ x.early, t.work? = none) →
            transcript (free (x.early ++ x.late) ++ rest) p
                = (E ++ L).filter (fun z => !z.1.minds) ++ R
              ∧ Parted (x.report p.index e)
                (acts (x.turns ++ rest) p) (acts (free (x.early ++ x.late) ++ rest) p)) := by
  intro h
  obtain ⟨base, past, past', e, kept, short, exceptions, reports, E, L, early, late, heard,
    heard', middle⟩ := h.passes listening v
  have parted : Parted (x.report p.index e)
      (acts (x.turns ++ rest) p) (acts (x.shortened listening v ++ rest) p) := by
    rw [acts_append, acts_append, kept, short]
    exact parted_recalling base rest exceptions reports
  refine ⟨E, L, transcript rest base, e, ?_, early, late, transcript_turns rest base, ?_,
    parted, ?_⟩
  · rw [transcript_append, kept, transcript_recalling, heard]
    simp
  · rw [transcript_append, short, transcript_recalling, heard', middle]
    simp
  · intro first
    obtain ⟨base₁, past₁, past₁', short₁, without, exceptions₁, reports₁, heard₁⟩ :=
      Spoilt.passes_without (x := x) listening v h.free
        (fun t ht => ⟨first t ht, h.going t ht⟩) h.late
    have same : free (x.early ++ x.late) = free (x.early ++ idle x.late) := by
      unfold free idle
      rw [List.filter_append, List.filter_append, filter_minds (fun t => t)]
    -- the run with the shorter workset ends in both of the places
    have meet : base.recalling past' = base₁.recalling past₁ := short.symm.trans short₁
    have later : transcript rest base₁ = transcript rest base := by
      rw [← transcript_recalling past₁ base₁, ← meet, transcript_recalling]
    rw [same]
    refine ⟨?_, ?_⟩
    · rw [transcript_append, without, transcript_recalling, later, heard₁, middle,
        List.filter_append, List.filter_append, filter_minds Prod.fst]
    · rw [acts_append (x.shortened listening v), short₁] at parted
      rw [acts_append (free _), without]
      exact parted.retold exceptions₁ reports₁

/-- The second of three documents is refused.  While the workset is open somebody
commits what is pending, and tries to end the batch; afterwards another workset
insists on its commit. -/
theorem no_poisoning_of_refused_document :
    let p : Processor Memory :=
      { index := ⟨"books"⟩
        engine := { faults := { documents := ["x"] } }
        journal := { handling := .collecting } }
    let add (id : String) : Work := .silent (.add ⟨id, []⟩)
    let x : Spoilt :=
      { strategies := { refresh := .force }
        early := [.call 1 (.submit (add "a")), .call 2 .commitPending]
        work := add "x"
        late := [.call 4 (.submit (add "b")), .call 5 .endBatch]
        listening := true
        value := some .unit
        opened := 0
        failed := 3
        ended := 6 }
    let rest : List Turn :=
      [.call 7 (.beforeWorkset { commit := .force }), .call 8 (.submit (add "c")),
        .call 9 (.afterWorkset true (some .unit))]
    x.Fails p ∧ ∃ e, Parted (x.report p.index e)
      (acts (x.turns ++ rest) p) (acts (x.shortened true .unit ++ rest) p) := by
  intro p add x rest
  have fails : x.Fails p := by
    refine ⟨rfl, ?_, rfl, by simp [x, Turn.ends]⟩
    have heard : transcript x.early (p.reopened (some ⟨x.strategies, none⟩))
        = [(.call 1 (.submit (add "a")), .outcome (.ok (.executed .unit))),
          (.call 2 .commitPending, .nothing)] := rfl
    rw [heard]
    simp [Turn.ends]
  obtain ⟨E, L, R, e, -, -, -, -, -, parted, -⟩ := no_poisoning x p rest true .unit fails
  exact ⟨fails, e, parted⟩

end WritePath.Processor
