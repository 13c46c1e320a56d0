import WritePath.Proofs.Engine.Generations
import WritePath.Proofs.Engine.Watched
import WritePath.Proofs.Processor.Delivery

/-!
# What strategies promise

A submitter who is told a value knows from the strategies of the workset what
has become of its changes (`Promises`): after a forced commit the committed
documents are the staged ones and nothing is pending, after a forced refresh
readers see them too, unless the refresh itself fails, and without either the
end of the workset has done nothing to the engine.

The processor refreshes at no other place.  `Traced` leads from one processor to
another by any calls, and between two of them anything may happen to the engine,
so that its calls can fail in every way.
-/

namespace WritePath

open Engine (Generations Memory Listing Lodged)

/-- Nothing has been told to the outside but what nobody has to look after. -/
def Journal.Quiet (j j' : Journal) : Prop :=
  ∃ log, j' = j.record log ∧ ∀ r ∈ log, r.level ≠ .error

namespace Journal.Quiet

theorem refl (j : Journal) : Quiet j j := ⟨[], by simp [Journal.record]⟩

theorem trans {j j' j'' : Journal} : Quiet j j' → Quiet j' j'' → Quiet j j'' := by
  rintro ⟨log, rfl, quiet⟩ ⟨log', rfl, quiet'⟩
  refine ⟨log ++ log', by simp [Journal.record], fun r hr => ?_⟩
  rcases List.mem_append.mp hr with hr | hr
  · exact quiet r hr
  · exact quiet' r hr

theorem note (j : Journal) {level : Log.Level} (text : String) :
    level ≠ .error → Quiet j (j.note level text) := by
  intro h
  exact ⟨[⟨level, text⟩], rfl, by simpa using h⟩

end Journal.Quiet

namespace Processor

variable {ε : Type} [Engine ε]

/-! ## What is told -/

section Told

variable (now : Nat) (listening : Bool) {p : Processor ε}

theorem quiet_commitNow {p' : Processor ε} :
    commitNow now p = (.ok (), p') → p.journal.Quiet p'.journal := by
  intro h
  unfold commitNow at h
  dsimp only at h
  split at h <;> cases h
  exact .note _ _ (by decide)

theorem quiet_refreshReaders (p : Processor ε) : p.journal.Quiet p.refreshReaders.journal := by
  unfold refreshReaders
  split
  · exact .refl _
  · exact .note _ _ (by decide)

theorem quiet_forcedSteps {s : Strategies} {p' : Processor ε} :
    forcedSteps now s p = (.ok (), p') → p.journal.Quiet p'.journal := by
  intro h
  unfold forcedSteps at h
  split at h
  · split at h
    · next p₁ hc =>
      have committed := quiet_commitNow now hc
      cases h
      split
      · exact committed.trans (quiet_refreshReaders p₁)
      · exact committed
    · cases h
  · cases h
    exact .refl _

omit [Engine ε] in
theorem quiet_tell {α : Type} (call : Except Failure Unit) (told : Except Failure α) :
    p.journal.Quiet (tell listening call told p).processor.journal := by
  cases listening with
  | true => exact .refl _
  | false => exact .note _ _ (by decide)

theorem told_ok {α : Type} {value : Option α} {v : α} :
    (p.afterWorkset now listening value).told = some (.ok v) ↔
      value = some v ∧ ∃ s, p.workset = some ⟨s, none⟩
        ∧ (s.needsCommit = true → ∃ stamp m, Engine.commit p.engine = (.ok stamp, m)) := by
  rcases hw : p.workset with _ | ⟨s, _ | r⟩
  · rw [afterWorkset_noWorkset now listening hw]
    simp
  · have done {p' : Processor ε} (h : forcedSteps now s { p with workset := none } = (.ok (), p')) :
        (p.afterWorkset now listening value).told = some (.ok v) ↔ value = some v := by
      obtain ⟨log, ended⟩ := afterWorkset_done now listening hw h value
      rw [ended]
      cases value <;> simp
    cases hn : s.needsCommit with
    | false =>
      rw [done (forcedSteps_none hn now _)]
      simp [hn]
    | true =>
      rcases hc : Engine.commit p.engine with ⟨e | stamp, m⟩
      · obtain ⟨log, ended⟩ := afterWorkset_commitFailed now listening hw hn hc value
        rw [ended]
        simp [hn]
      · obtain ⟨log, forced⟩ := forcedSteps_ok (p := { p with workset := none }) hn hc now
        rw [done forced]
        simp
  · obtain ⟨log, ended⟩ := afterWorkset_failed now listening hw value
    rw [ended]
    simp

theorem quiet_afterWorkset {α : Type} {value : Option α} {v : α} :
    (p.afterWorkset now listening value).told = some (.ok v) →
      p.journal.Quiet (p.afterWorkset now listening value).processor.journal := by
  intro told
  obtain ⟨rfl, s, hw, -⟩ := (told_ok now listening).mp told
  rcases hf : forcedSteps now s { p with workset := none } with ⟨e | _, p'⟩
  · simp [afterWorkset, hw, hf, tell] at told
  · have ended : (p.afterWorkset now listening (some v)) = tell listening (.ok ()) (.ok v) p' := by
      simp only [afterWorkset, hw, hf]
    rw [ended]
    exact (quiet_forcedSteps now hf).trans (quiet_tell listening _ _)

end Told

/-! ## What is asked of the engine -/

/-- The engine has been asked for some things, none of which is a refresh. -/
def Unshown (x x' : Watched ε) : Prop :=
  ∃ more, x'.asked = x.asked ++ more ∧ Request.refresh ∉ more

omit [Engine ε] in
theorem Unshown.refl (x : Watched ε) : Unshown x x := ⟨[], by simp⟩

omit [Engine ε] in
theorem Unshown.trans {x x' x'' : Watched ε} : Unshown x x' → Unshown x' x'' → Unshown x x'' := by
  rintro ⟨more, asked, none⟩ ⟨more', asked', none'⟩
  refine ⟨more ++ more', by rw [asked', asked, List.append_assoc], ?_⟩
  simp [none, none']

section Unshown

variable (now : Nat) (p : Processor (Watched ε))

theorem commit_watched {x : Watched ε} {result : Except Failure Stamp} {m : ε} :
    Engine.commit x.engine = (result, m) →
      Engine.commit x = (result, ⟨m, x.asked ++ [.commit]⟩) := by
  intro h
  rw [Watched.commit_eq, h]

theorem unshown_commitNow : Unshown p.engine (commitNow now p).2.engine := by
  rcases hc : Engine.commit p.engine.engine with ⟨e | stamp, m⟩
  · rw [commitNow_error (commit_watched hc)]
    exact ⟨[.commit], rfl, by simp⟩
  · obtain ⟨log, h⟩ := commitNow_ok (commit_watched hc) now
    rw [h]
    exact ⟨[.commit], rfl, by simp⟩

theorem unshown_commitPending : Unshown p.engine (p.commitPending now).engine := by
  have committed := unshown_commitNow now p
  unfold commitPending
  split
  · rcases hc : commitNow now p with ⟨e | _, p'⟩ <;> rw [hc] at committed <;> exact committed
  · exact .refl _

theorem unshown_endBatch : Unshown p.engine (endBatch now p).2.engine := by
  rcases endBatch_cases now p with h | h | h <;> rw [h]
  · exact .refl _
  · exact .refl _
  · exact unshown_commitPending now { p with batchOpen := false }

theorem unshown_submit (w : Work) : Unshown p.engine (submit w p).2.engine := by
  obtain ⟨changes, asked, only⟩ := changed_submit w p
  refine ⟨changes, asked, fun shown => ?_⟩
  cases only _ shown

theorem unshown_close : Unshown p.engine (close now p).2.engine := by
  obtain ⟨log, h⟩ := close_eq now p
  rw [h]
  have flushed : Unshown p.engine (flush now p).2.engine := by
    unfold flush
    split
    · exact unshown_commitNow now p
    · exact .refl _
  exact flushed.trans ⟨[.close], rfl, by simp⟩

/-- The end of a workset refreshes after the commit that the workset insists
on. -/
theorem shown_afterWorkset (listening : Bool) (value : Option Output) :
    Unshown p.engine (p.afterWorkset now listening value).processor.engine
      ∨ ∃ s stamp m, p.workset = some ⟨s, none⟩ ∧ s.refresh = .force
        ∧ Engine.commit p.engine.engine = (.ok stamp, m)
        ∧ (p.afterWorkset now listening value).processor.engine
          = ⟨(Engine.refresh m).2, p.engine.asked ++ [.commit, .refresh]⟩ := by
  rcases afterWorkset_cases now listening p value with
    ⟨-, h⟩ | ⟨s, r, journal, -, h⟩ | ⟨s, journal, hw, h⟩ <;> rw [h]
  · exact .inl (.refl _)
  · exact .inl (.refl _)
  · cases hn : s.needsCommit with
    | false =>
      rw [forcedSteps_none hn]
      exact .inl (.refl _)
    | true =>
      rcases hc : Engine.commit p.engine.engine with ⟨e | stamp, m⟩
      · rw [forcedSteps_error (p := { p with workset := none }) hn (commit_watched hc) now]
        exact .inl ⟨[.commit], rfl, by simp⟩
      · obtain ⟨log, forced⟩ :=
          forcedSteps_ok (p := { p with workset := none }) hn (commit_watched hc) now
        rw [forced]
        cases hr : s.refresh with
        | none =>
          refine .inl ⟨[.commit], ?_, by simp⟩
          simp [shownIf, hr]
        | force =>
          refine .inr ⟨s, stamp, m, hw, hr, rfl, ?_⟩
          simp only [shownIf, hr, if_true]
          show (⟨_, (p.engine.asked ++ [.commit]) ++ [.refresh]⟩ : Watched ε) = _
          rw [List.append_assoc]
          rfl

theorem shown_act (i : Instruction) :
    Unshown p.engine (i.act now p).engine
      ∨ ∃ listening value s stamp m, i = .afterWorkset listening value
        ∧ p.workset = some ⟨s, none⟩ ∧ s.refresh = .force
        ∧ Engine.commit p.engine.engine = (.ok stamp, m)
        ∧ (i.act now p).engine.asked = p.engine.asked ++ [.commit, .refresh] := by
  cases i with
  | beginBatch =>
    left
    cases hb : p.batchOpen <;> simp only [Instruction.act, beginBatch, hb] <;> exact .refl _
  | beforeWorkset s =>
    left
    cases hw : p.workset <;> simp only [Instruction.act, beforeWorkset, hw] <;> exact .refl _
  | submit w => exact .inl (unshown_submit p w)
  | afterWorkset listening value =>
    rcases shown_afterWorkset now p listening value with unshown | ⟨s, stamp, m, hw, hr, hc, asked⟩
    · exact .inl unshown
    · exact .inr ⟨listening, value, s, stamp, m, rfl, hw, hr, hc, congrArg Watched.asked asked⟩
  | endBatch => exact .inl (unshown_endBatch now p)
  | commitPending => exact .inl (unshown_commitPending now p)

end Unshown

/-! ## Runs -/

/-- From one processor to another by calls.  Between two calls the engine may
become any other one; what it has been asked is kept. -/
inductive Traced : Processor (Watched ε) → Processor (Watched ε) → Prop where
  | start (p : Processor (Watched ε)) : Traced p p
  | call {p p' : Processor (Watched ε)} (now : Nat) (i : Instruction) :
      Traced p p' → Traced p (i.act now p')
  | meddle {p p' : Processor (Watched ε)} (m : ε) :
      Traced p p' → Traced p { p' with engine := ⟨m, p'.engine.asked⟩ }
  | close {p p' : Processor (Watched ε)} (now : Nat) :
      Traced p p' → Traced p (Processor.close now p').2

/-- The call that has refreshed, with what was asked before: it ends a workset that
insists on a refresh and has no failure, and its commit has gone through just
before. -/
def Refreshes (p p' : Processor (Watched ε)) (before : List Request) : Prop :=
  ∃ (p₁ : Processor (Watched ε)) (now : Nat) (listening : Bool) (value : Option Output)
    (s : Strategies) (stamp : Stamp) (m : ε),
    Traced p p₁ ∧ p₁.workset = some ⟨s, none⟩ ∧ s.refresh = .force
      ∧ Engine.commit p₁.engine.engine = (.ok stamp, m)
      ∧ before = p₁.engine.asked ++ [.commit]
      ∧ Traced (p₁.afterWorkset now listening value).processor p'

theorem Refreshes.later {p p' p'' : Processor (Watched ε)} {before : List Request}
    (r : Refreshes p p' before) (later : ∀ {p₁}, Traced p₁ p' → Traced p₁ p'') :
    Refreshes p p'' before := by
  obtain ⟨p₁, now, listening, value, s, stamp, m, earlier, hw, hr, hc, asked, rest⟩ := r
  exact ⟨p₁, now, listening, value, s, stamp, m, earlier, hw, hr, hc, asked, later rest⟩

theorem append_eq_append_cons {α : Type} {l l' before after : List α} {a : α} :
    l ++ l' = before ++ a :: after →
      (∃ rest, l = before ++ a :: rest)
        ∨ ∃ first, before = l ++ first ∧ l' = first ++ a :: after := by
  intro h
  rcases List.append_eq_append_iff.mp h with ⟨first, hb, hl⟩ | ⟨rest, hl, hb⟩
  · exact .inr ⟨first, hb, hl⟩
  · cases rest with
    | nil => exact .inr ⟨[], by simpa using hl.symm, by simpa using hb.symm⟩
    | cons b rest =>
      obtain ⟨rfl, -⟩ := List.cons.inj hb
      exact .inl ⟨rest, hl⟩

theorem Traced.refreshes {p p' : Processor (Watched ε)} (t : Traced p p')
    (new : p.engine.asked = []) {before : List Request} :
    ∀ after, p'.engine.asked = before ++ .refresh :: after → Refreshes p p' before := by
  induction t with
  | start =>
    intro after h
    simp [new] at h
  | meddle m _ ih =>
    intro after h
    exact (ih after h).later (.meddle m)
  | @close p' now _ ih =>
    intro after h
    obtain ⟨more, asked, unshown⟩ := unshown_close now p'
    rw [asked] at h
    rcases append_eq_append_cons h with ⟨rest, earlier⟩ | ⟨first, -, rfl⟩
    · exact (ih rest earlier).later (.close now)
    · simp at unshown
  | @call p' now i t ih =>
    intro after h
    rcases shown_act now p' i with
      ⟨more, asked, unshown⟩ | ⟨listening, value, s, stamp, m, rfl, hw, hf, hc, asked⟩ <;>
      rw [asked] at h <;>
      rcases append_eq_append_cons h with ⟨rest, earlier⟩ | ⟨first, hb, hn⟩
    · exact (ih rest earlier).later (.call now i)
    · simp [hn] at unshown
    · exact (ih rest earlier).later (.call now _)
    · refine ⟨p', now, listening, value, s, stamp, m, t, hw, hf, hc, ?_, .start _⟩
      -- of the two things that this call has asked for the second one is the refresh
      rcases first with _ | ⟨r, _ | ⟨r', rest⟩⟩
      · cases hn
      · obtain ⟨rfl, -⟩ := List.cons.inj hn
        exact hb
      · simp at hn

/-! ## The promises -/

/-- A workset without failure ends, and its submitter is told a value. -/
structure Resolves (p : Processor (Watched ε)) (s : Strategies) (now : Nat) (listening : Bool)
    (v : Output) (p' : Processor (Watched ε)) : Prop where
  workset : p.workset = some ⟨s, none⟩
  told : (p.afterWorkset now listening (some v)).told = some (.ok v)
  processor : (p.afterWorkset now listening (some v)).processor = p'

/-- What submitters know who are told a value. -/
structure Promises {γ : Type} (g : Generations ε γ) : Prop where
  /-- They are told one if no work has failed, there is one, and the commit goes
  through if one was insisted on.  Nothing depends on the refresh. -/
  told : ∀ (p : Processor (Watched ε)) (now : Nat) (listening : Bool) (value : Option Output)
    (v : Output),
    (p.afterWorkset now listening value).told = some (.ok v) ↔
      value = some v ∧ ∃ s, p.workset = some ⟨s, none⟩
        ∧ (s.needsCommit = true → ∃ stamp m, Engine.commit p.engine.engine = (.ok stamp, m))
  /-- There is neither a report nor an exception. -/
  quiet : ∀ {p p' : Processor (Watched ε)} {s now listening v}, Resolves p s now listening v p' →
    p.journal.Quiet p'.journal
  committed : ∀ {p p' : Processor (Watched ε)} {s now listening v},
    Resolves p s now listening v p' → s.commit = .force ∨ s.refresh = .force →
      g.committed p'.engine.engine = g.staged p'.engine.engine
        ∧ g.staged p'.engine.engine = g.staged p.engine.engine ∧ p'.pending = false
  /-- Readers see what was committed, or what they saw before if the refresh has
  failed. -/
  visible : ∀ {p p' : Processor (Watched ε)} {s now listening v},
    Resolves p s now listening v p' → s.refresh = .force →
      ∃ stamp m, Engine.commit p.engine.engine = (.ok stamp, m)
        ∧ p'.engine = ⟨(Engine.refresh m).2, p.engine.asked ++ [.commit, .refresh]⟩
        ∧ ((Engine.refresh m).1 = .ok () →
          g.visible p'.engine.engine = g.staged p'.engine.engine)
        ∧ ∀ e, (Engine.refresh m).1 = .error e →
          g.visible p'.engine.engine = g.visible p.engine.engine
  /-- Nothing is asked of the engine. -/
  left : ∀ {p p' : Processor (Watched ε)} {s now listening v},
    Resolves p s now listening v p' → s.commit = .none → s.refresh = .none →
      p'.engine = p.engine ∧ p'.pending = p.pending
        ∧ g.committed p'.engine.engine = g.committed p.engine.engine
        ∧ g.visible p'.engine.engine = g.visible p.engine.engine
  /-- There are no other refreshes. -/
  refreshes : ∀ {p p' : Processor (Watched ε)}, Traced p p' → p.engine.asked = [] →
    ∀ before after, p'.engine.asked = before ++ .refresh :: after → Refreshes p p' before

theorem Resolves.forced {p p' : Processor (Watched ε)} {s : Strategies} {now : Nat}
    {listening : Bool} {v : Output} (r : Resolves p s now listening v p') :
    s.needsCommit = true →
      ∃ stamp m, Engine.commit p.engine.engine = (.ok stamp, m)
        ∧ p'.engine = shownIf s ⟨m, p.engine.asked ++ [.commit]⟩ ∧ p'.pending = false := by
  intro hn
  obtain ⟨-, s', hw, hc⟩ := (told_ok now listening).mp r.told
  obtain rfl : s = s' := by
    have same := r.workset.symm.trans hw
    cases same
    rfl
  obtain ⟨stamp, x, hx⟩ := hc hn
  rcases hm : Engine.commit p.engine.engine with ⟨e | stamp, m⟩
  · rw [commit_watched hm] at hx
    cases hx
  · obtain ⟨log, forced⟩ := forcedSteps_ok (p := { p with workset := none }) hn
      (commit_watched hm) now
    obtain ⟨log', ended⟩ := afterWorkset_done now listening hw forced (some v)
    rw [← r.processor, ended]
    exact ⟨stamp, m, rfl, rfl, rfl⟩

theorem Resolves.unforced {p p' : Processor (Watched ε)} {s : Strategies} {now : Nat}
    {listening : Bool} {v : Output} (r : Resolves p s now listening v p') :
    s.needsCommit = false → p'.engine = p.engine ∧ p'.pending = p.pending := by
  intro hn
  obtain ⟨log, ended⟩ := afterWorkset_done now listening r.workset (forcedSteps_none hn now _)
    (some v)
  rw [← r.processor, ended]
  exact ⟨rfl, rfl⟩

theorem promises {γ : Type} (g : Generations ε γ) : Promises g := by
  refine ⟨?told, ?quiet, ?committed, ?visible, ?left, fun t new _ => t.refreshes new⟩
  case told =>
    intro p now listening value v
    rw [told_ok now listening]
    have same : (∃ stamp m, Engine.commit p.engine = (.ok stamp, m)) ↔
        ∃ stamp m, Engine.commit p.engine.engine = (.ok stamp, m) := by
      constructor
      · rintro ⟨stamp, x, hx⟩
        rw [Watched.commit_eq, Prod.mk.injEq] at hx
        exact ⟨stamp, _, Prod.ext hx.1 rfl⟩
      · rintro ⟨stamp, m, hm⟩
        exact ⟨stamp, _, commit_watched hm⟩
    simp only [same]
  case quiet =>
    intro p p' s now listening v r
    rw [← r.processor]
    exact quiet_afterWorkset now listening r.told
  case committed =>
    intro p p' s now listening v r forced
    obtain ⟨stamp, m, hc, engine, pending⟩ := r.forced (Strategies.needsCommit_iff.mpr forced)
    obtain ⟨staged, committed, -⟩ := g.commit_ok hc
    have kept : g.staged p'.engine.engine = g.staged m
        ∧ g.committed p'.engine.engine = g.committed m := by
      rw [engine, shownIf]
      split
      · show g.staged (Engine.refresh m).2 = _ ∧ g.committed (Engine.refresh m).2 = _
        rcases hr : Engine.refresh m with ⟨e | _, m'⟩
        · obtain ⟨staged, committed, -⟩ := g.refresh_error hc hr
          exact ⟨staged, committed⟩
        · obtain ⟨staged, committed, -⟩ := g.refresh_ok hc hr
          exact ⟨staged, committed⟩
      · exact ⟨rfl, rfl⟩
    exact ⟨by rw [kept.1, kept.2, staged, committed], kept.1.trans staged, pending⟩
  case visible =>
    intro p p' s now listening v r hf
    obtain ⟨stamp, m, hc, engine, -⟩ := r.forced (Strategies.needsCommit_iff.mpr (.inr hf))
    have engine : p'.engine = ⟨(Engine.refresh m).2, p.engine.asked ++ [.commit, .refresh]⟩ := by
      rw [engine, shownIf, if_pos hf]
      show (⟨_, (p.engine.asked ++ [.commit]) ++ [.refresh]⟩ : Watched ε) = _
      rw [List.append_assoc]
      rfl
    refine ⟨stamp, m, hc, engine, fun taken => ?_, fun e refused => ?_⟩ <;> rw [engine]
    · have hr : Engine.refresh m = (.ok (), (Engine.refresh m).2) := Prod.ext taken rfl
      obtain ⟨staged, committed, visible⟩ := g.refresh_ok hc hr
      obtain ⟨staged', committed', -⟩ := g.commit_ok hc
      show g.visible (Engine.refresh m).2 = g.staged (Engine.refresh m).2
      rw [visible, staged, staged', committed']
    · have hr : Engine.refresh m = (.error e, (Engine.refresh m).2) := Prod.ext refused rfl
      obtain ⟨-, -, visible⟩ := g.refresh_error hc hr
      show g.visible (Engine.refresh m).2 = _
      rw [visible, (g.commit_ok hc).2.2]
  case left =>
    intro p p' s now listening v r commit refresh
    obtain ⟨engine, pending⟩ := r.unforced (by simp [Strategies.needsCommit, commit, refresh])
    exact ⟨engine, pending, by rw [engine], by rw [engine]⟩

/-- **What strategies promise**, over the engine in memory, the engine of lists and
the engine in its lodging, whatever their calls come to. -/
theorem strategies_keep_promises :
    Promises Memory.generations ∧ Promises Listing.generations ∧ Promises Lodged.generations :=
  ⟨promises _, promises _, promises _⟩

end Processor

end WritePath
