import WritePath.Engine.Memory
import WritePath.Proofs.Processor.Calls

/-!
# Containment

What a workset does, whatever the engine does (`Workset.containment`).  Its
works are done one after the other until one of them fails.  The works behind
that one are skipped, the failure goes to the submitter and into one report, and
there is neither a commit nor a refresh.  If no work fails, the submitter gets
the value, unless the commit fails that the workset insists on.

`Executes` describes the works by themselves, without a processor: from which
engine they start, what they answer, and which engine they leave.  Either all
works execute, or there is a first one that fails (`Executes.or_fails`).

An engine may keep a list of the calls on it, and the theorem is about that
engine too.  So what is said about the engine here is said about the calls: if a
step leaves the engine as it is, it has not called it.
-/

namespace WritePath.Workset

variable {ε : Type} [Engine ε]

/-- All works go through, one after the other. -/
inductive Executes : List Work → ε → List Output → ε → Prop where
  | nil (m : ε) : Executes [] m [] m
  | cons {w : Work} {rest : List Work} {m m₁ m₂ : ε} {o : Output} {os : List Output} :
      w.run m = (.ok o, m₁) → Executes rest m₁ os m₂ → Executes (w :: rest) m (o :: os) m₂

theorem Executes.or_fails (works : List Work) (m : ε) :
    (∃ outputs m', Executes works m outputs m')
      ∨ ∃ before w rest outputs m₁ e m', works = before ++ w :: rest
        ∧ Executes before m outputs m₁
        ∧ w.run m₁ = (.error e, m') := by
  induction works generalizing m with
  | nil => exact .inl ⟨[], m, .nil m⟩
  | cons w rest ih =>
    rcases hr : w.run m with ⟨e | o, m₁⟩
    · exact .inr ⟨[], w, rest, [], m, e, m₁, rfl, .nil m, hr⟩
    · rcases ih m₁ with
        ⟨outputs, m', all⟩ | ⟨before, w', rest', outputs, m₂, e, m', rfl, some, fails⟩
      · exact .inl ⟨o :: outputs, m', .cons hr all⟩
      · exact .inr ⟨w :: before, w', rest', o :: outputs, m₂, e, m', rfl, .cons hr some, fails⟩

/-! ## The works of an open workset -/

theorem submitAll_append {before after : List Work} {p p₁ p₂ : Processor ε}
    {outcomes outcomes' : List WorkOutcome}
    (h : submitAll before p = (.ok outcomes, p₁))
    (h' : submitAll after p₁ = (.ok outcomes', p₂)) :
    submitAll (before ++ after) p = (.ok (outcomes ++ outcomes'), p₂) := by
  induction before generalizing p outcomes with
  | nil =>
    cases h
    exact h'
  | cons w rest ih =>
    simp only [List.cons_append, submitAll, Call.andThen, Call.map] at h ⊢
    rcases hs : Processor.submit w p with ⟨e | outcome, s⟩
    · simp [hs] at h
    · simp only [hs] at h ⊢
      rcases hr : submitAll rest s with ⟨e | rest', s'⟩
      · simp [hr, Except.map] at h
      · simp only [hr, Except.map, Prod.mk.injEq, Except.ok.injEq] at h
        obtain ⟨rfl, rfl⟩ := h
        rw [ih hr]
        rfl

/-- While no work has failed, every work reaches the engine. -/
theorem submitAll_executes {works : List Work} {m m' : ε} {outputs : List Output}
    (h : Executes works m outputs m') {p : Processor ε} {s : Strategies}
    (hw : p.workset = some ⟨s, none⟩) (hm : p.engine = m) :
    ∃ log, submitAll works p
      = (.ok (outputs.map .executed),
          { p with
            engine := m'
            journal := p.journal.record log
            pending := p.pending || !works.isEmpty }) := by
  induction h generalizing p with
  | nil m =>
    subst hm
    exact ⟨[], by simp [submitAll, Call.done, Journal.record]⟩
  | @cons w rest m m₁ m₂ o os hr _ ih =>
    subst hm
    have first := Processor.submit_executed hw hr
    obtain ⟨log, later⟩ := ih (p := { p with
      engine := m₁
      journal := p.journal.record (w.notice p.index)
      pending := true }) hw rfl
    refine ⟨w.notice p.index ++ log, ?_⟩
    simp only [submitAll, Call.andThen, first, Call.map, later, Except.map]
    simp [Journal.record]

/-- After a failure no work reaches the engine. -/
theorem submitAll_skipped (works : List Work) {p : Processor ε} {s : Strategies}
    {r : Report} (hw : p.workset = some ⟨s, some r⟩) :
    submitAll works p
      = (.ok (List.replicate works.length .skipped),
          { p with
            workset :=
              some ⟨s, some { r with skipped := r.skipped ++ works.map Work.label }⟩ }) := by
  induction works generalizing p r with
  | nil => simp [submitAll, Call.done, ← hw]
  | cons w rest ih =>
    have first := Processor.submit_skipped hw w
    have later :=
      ih (p := { p with workset := some ⟨s, some (r.markSkipped w.label)⟩ }) rfl
    simp only [submitAll, Call.andThen, first, Call.map, later, Except.map]
    simp [Report.markSkipped, List.replicate_succ]

def failureReport (index : IndexName) (w : Work) (e : Failure) (rest : List Work) : Report :=
  ⟨index, [⟨w.label, e⟩], rest.map Work.label, []⟩

theorem submitAll_fails {before rest : List Work} {w : Work} {m m₁ m' : ε}
    {outputs : List Output} {e : Failure} (h : Executes before m outputs m₁)
    (hr : w.run m₁ = (.error e, m')) {p : Processor ε} {s : Strategies}
    (hw : p.workset = some ⟨s, none⟩) (hm : p.engine = m) :
    ∃ log, submitAll (before ++ w :: rest) p
      = (.ok (outputs.map .executed ++ .failed :: List.replicate rest.length .skipped),
          { p with
            engine := m'
            journal := p.journal.record log
            pending := p.pending || !before.isEmpty
            workset := some ⟨s, some (failureReport p.index w e rest)⟩ }) := by
  obtain ⟨log, executed⟩ := submitAll_executes h hw hm
  obtain ⟨log', failed⟩ := Processor.submit_failed (p := { p with
    engine := m₁
    journal := p.journal.record log
    pending := p.pending || !before.isEmpty }) hw hr
  refine ⟨log ++ log', submitAll_append executed ?_⟩
  have skipped := submitAll_skipped rest (p := { p with
    engine := m'
    journal := (p.journal.record log).record log'
    pending := p.pending || !before.isEmpty
    workset := some ⟨s, some ⟨p.index, [⟨w.label, e⟩], [], []⟩⟩ }) rfl
  simp only [submitAll, Call.andThen, failed, Call.map, skipped, Except.map]
  simp [Journal.record, failureReport]

/-! ## From one end to the other -/

def attempt (s : Strategies) (works : List Work) : Call (Processor ε) (List WorkOutcome) :=
  Call.andThen (Processor.beforeWorkset s) fun _ => submitAll works

theorem attempt_eq {p : Processor ε} (hw : p.workset = none) (s : Strategies)
    (works : List Work) :
    attempt s works p = submitAll works { p with workset := some ⟨s, none⟩ } := by
  simp only [attempt, Call.andThen, Processor.beforeWorkset, hw]

/-- What is seen of a workset from outside. -/
structure Observed (ε α : Type) where
  outcomes : List WorkOutcome
  /-- The engine when the last work has been submitted. -/
  worked : ε
  /-- The engine when the workset has ended. -/
  engine : ε
  /-- The reports that were handed over. -/
  reports : List Report
  told : Except Failure α
  pending : Bool

/-- Working off a workset and ending it with a value, if there is one, looks
like this. -/
def Shows {α : Type} (p : Processor ε) (s : Strategies) (works : List Work) (now : Nat)
    (listening : Bool) (value : Option α) (o : Observed ε α) : Prop :=
  ∃ p', attempt s works p = (.ok o.outcomes, p') ∧ p'.engine = o.worked ∧
    ∃ ended, p'.afterWorkset now listening value = ⟨.ok (), some o.told, ended⟩
      ∧ ended.engine = o.engine ∧ ended.pending = o.pending ∧ ended.workset = none
      ∧ ended.journal.reports = p.journal.reports ++ o.reports
      ∧ ended.journal.exceptions = p.journal.exceptions

theorem report_collecting {j : Journal} (hj : j.handling = .collecting)
    {r : Report} (hr : r.isEmpty = false) :
    j.report r = { j with reports := j.reports ++ [r] } := by
  simp [Journal.report, hj, hr]

variable {α : Type} {p : Processor ε} {s : Strategies} {works : List Work}

theorem shows_failed (hw : p.workset = none)
    (hj : p.journal.handling = .collecting) {before rest : List Work} {w : Work}
    {outputs : List Output} {m m' : ε} {e : Failure}
    (h : Executes before p.engine outputs m) (hr : w.run m = (.error e, m'))
    (now : Nat) (listening : Bool) (value : Option α) :
    Shows p s (before ++ w :: rest) now listening value
      { outcomes := outputs.map .executed ++ .failed :: List.replicate rest.length .skipped
        worked := m'
        engine := m'
        reports := [failureReport p.index w e rest]
        told := .error e
        pending := p.pending || !before.isEmpty } := by
  have failing : ({ p with workset := some ⟨s, none⟩ } : Processor ε).workset
    = some ⟨s, none⟩ := rfl
  obtain ⟨log, done⟩ : ∃ log,
      submitAll (before ++ w :: rest) { p with workset := some ⟨s, none⟩ } = _ :=
    submitAll_fails h hr failing rfl
  refine ⟨_, (attempt_eq hw s _).trans done, rfl, ?_⟩
  obtain ⟨log', ended⟩ := Processor.afterWorkset_failed now listening (p := { p with
    engine := m'
    journal := p.journal.record log
    pending := p.pending || !before.isEmpty
    workset := some ⟨s, some (failureReport p.index w e rest)⟩ }) rfl value
  rw [report_collecting (j := p.journal.record log) hj rfl] at ended
  exact ⟨_, ended, rfl, rfl, rfl, rfl, rfl⟩

theorem shows_executed (hw : p.workset = none) {outputs : List Output} {m : ε}
    (h : Executes works p.engine outputs m) (hn : s.needsCommit = false) (now : Nat)
    (listening : Bool) (v : α) :
    Shows p s works now listening (some v)
      { outcomes := outputs.map .executed
        worked := m
        engine := m
        reports := []
        told := .ok v
        pending := p.pending || !works.isEmpty } := by
  obtain ⟨log, done⟩ :=
    submitAll_executes h (p := { p with workset := some ⟨s, none⟩ }) rfl rfl
  refine ⟨_, (attempt_eq hw s _).trans done, rfl, ?_⟩
  obtain ⟨log', ended⟩ := Processor.afterWorkset_done now listening (p := { p with
    engine := m
    journal := p.journal.record log
    pending := p.pending || !works.isEmpty
    workset := some ⟨s, none⟩ }) rfl (Processor.forcedSteps_none hn now _) (some v)
  exact ⟨_, ended, rfl, rfl, rfl, (List.append_nil _).symm, rfl⟩

theorem shows_committed (hw : p.workset = none) {outputs : List Output} {m m' : ε}
    {stamp : Stamp} (h : Executes works p.engine outputs m)
    (hn : s.needsCommit = true) (hc : Engine.commit m = (.ok stamp, m'))
    (now : Nat) (listening : Bool) (v : α) :
    Shows p s works now listening (some v)
      { outcomes := outputs.map .executed
        worked := m
        engine := Processor.shownIf s m'
        reports := []
        told := .ok v
        pending := false } := by
  obtain ⟨log, done⟩ :=
    submitAll_executes h (p := { p with workset := some ⟨s, none⟩ }) rfl rfl
  refine ⟨_, (attempt_eq hw s _).trans done, rfl, ?_⟩
  obtain ⟨log', committed⟩ := Processor.forcedSteps_ok hn (p := { p with
    engine := m
    journal := p.journal.record log
    pending := p.pending || !works.isEmpty
    workset := none }) hc now
  obtain ⟨log'', ended⟩ := Processor.afterWorkset_done now listening (p := { p with
    engine := m
    journal := p.journal.record log
    pending := p.pending || !works.isEmpty
    workset := some ⟨s, none⟩ }) rfl committed (some v)
  exact ⟨_, ended, rfl, rfl, rfl, (List.append_nil _).symm, rfl⟩

theorem shows_commitFailed (hw : p.workset = none)
    (hj : p.journal.handling = .collecting) {outputs : List Output} {m m' : ε}
    {e : Failure} (h : Executes works p.engine outputs m)
    (hn : s.needsCommit = true) (hc : Engine.commit m = (.error e, m'))
    (now : Nat) (listening : Bool) (v : α) :
    Shows p s works now listening (some v)
      { outcomes := outputs.map .executed
        worked := m
        engine := m'
        reports := [⟨p.index, [], [], [.commit p.index e]⟩]
        told := .error (.commit p.index e)
        pending := false } := by
  obtain ⟨log, done⟩ :=
    submitAll_executes h (p := { p with workset := some ⟨s, none⟩ }) rfl rfl
  refine ⟨_, (attempt_eq hw s _).trans done, rfl, ?_⟩
  obtain ⟨log', ended⟩ := Processor.afterWorkset_commitFailed now listening (p := { p with
    engine := m
    journal := p.journal.record log
    pending := p.pending || !works.isEmpty
    workset := some ⟨s, none⟩ }) rfl hn hc (some v)
  rw [report_collecting (j := p.journal.record log) hj rfl] at ended
  exact ⟨_, ended, rfl, rfl, rfl, rfl, rfl⟩

/-- **Containment.**  Whatever the engine does, a workset ends in one of four
ways: a first work fails, or all works go through and no commit is needed, or
the commit goes through, or the commit fails. -/
theorem containment (hw : p.workset = none)
    (hj : p.journal.handling = .collecting) (s : Strategies) (works : List Work)
    (now : Nat) (listening : Bool) (v : α) :
    ((∃ outputs m, Executes works p.engine outputs m)
      ∨ ∃ before w rest outputs m e m', works = before ++ w :: rest
        ∧ Executes before p.engine outputs m ∧ w.run m = (.error e, m'))
    ∧ (∀ before w rest outputs m e m', works = before ++ w :: rest →
      Executes before p.engine outputs m → w.run m = (.error e, m') →
      Shows p s works now listening (some v)
        { outcomes := outputs.map .executed ++ .failed :: List.replicate rest.length .skipped
          worked := m'
          engine := m'
          reports := [⟨p.index, [⟨w.label, e⟩], rest.map Work.label, []⟩]
          told := .error e
          pending := p.pending || !before.isEmpty })
    ∧ (∀ outputs m, Executes works p.engine outputs m → s.needsCommit = false →
      Shows p s works now listening (some v)
        { outcomes := outputs.map .executed
          worked := m
          engine := m
          reports := []
          told := .ok v
          pending := p.pending || !works.isEmpty })
    ∧ (∀ outputs m stamp m', Executes works p.engine outputs m → s.needsCommit = true →
      Engine.commit m = (.ok stamp, m') →
      Shows p s works now listening (some v)
        { outcomes := outputs.map .executed
          worked := m
          engine := if s.refresh = .force then (Engine.refresh m').2 else m'
          reports := []
          told := .ok v
          pending := false })
    ∧ (∀ outputs m e m', Executes works p.engine outputs m → s.needsCommit = true →
      Engine.commit m = (.error e, m') →
      Shows p s works now listening (some v)
        { outcomes := outputs.map .executed
          worked := m
          engine := m'
          reports := [⟨p.index, [], [], [.commit p.index e]⟩]
          told := .error (.commit p.index e)
          pending := false }) := by
  refine ⟨Executes.or_fails works p.engine, ?failed, ?executed, ?committed, ?commitFailed⟩
  case failed =>
    rintro before w rest outputs m e m' rfl h hr
    exact shows_failed hw hj h hr now listening (some v)
  case executed =>
    intro outputs m h hn
    exact shows_executed hw h hn now listening v
  case committed =>
    intro outputs m stamp m' h hn hc
    exact shows_committed hw h hn hc now listening v
  case commitFailed =>
    intro outputs m e m' h hn hc
    exact shows_commitFailed hw hj h hn hc now listening v

/-- The second of three documents is refused: the first one has been staged, the
third one never reaches the engine, and the commit that was insisted on does not
take place. -/
theorem containment_of_refused_document :
    let m : Engine.Memory := { faults := { documents := ["b"] } }
    let p : Processor Engine.Memory :=
      { index := ⟨"books"⟩, engine := m, journal := { handling := .collecting } }
    let add (id : String) : Work := .silent (.add ⟨id, []⟩)
    let staged : Engine.Memory :=
      { m with staged := [("a", ⟨"a", []⟩)], stamp := 1, events := [.add "a"] }
    Shows p { commit := .force } [add "a", add "b", add "c"] 0 true (some Output.unit)
      { outcomes := [.executed .unit, .failed, .skipped]
        worked := staged
        engine := staged
        reports :=
          [⟨p.index, [⟨(add "b").label, Engine.Memory.documentFault "b"⟩],
            [(add "c").label], []⟩]
        told := .error (Engine.Memory.documentFault "b")
        pending := true } :=
  (containment rfl rfl _ _ 0 true Output.unit).2.1 [_] _ [_] [.unit] _ _ _ rfl
    (.cons rfl (.nil _)) rfl

end WritePath.Workset
