import WritePath.Proofs.Processor.Naturality

/-!
# The log is written and never read

Two processors that differ in their log alone (`Alike`) answer every call in the
same way and are alike afterwards.  Whether the submitter of a workset still
listens changes the log alone, so it changes nothing else, now or later:
`run_alike` has one submitter listen and the other not.

`Heedless` says it of a call.  No call looks back at what was told before it,
and a log is a past in which nothing else was told (`recalling_muted`).
-/

namespace WritePath.Processor

variable {ε : Type}

/-- The processor with nothing in its log. -/
def muted (p : Processor ε) : Processor ε :=
  { p with journal.log := [] }

/-- The processors differ in their log alone. -/
def Alike (p p' : Processor ε) : Prop :=
  p.muted = p'.muted

theorem Alike.symm {p p' : Processor ε} (h : Alike p p') : Alike p' p := Eq.symm h

theorem Alike.trans {p p' p'' : Processor ε} (h : Alike p p') (h' : Alike p' p'') :
    Alike p p'' :=
  Eq.trans h h'

theorem alike_note (p : Processor ε) (level : Log.Level) (text : String) :
    Alike (p.note level text) p :=
  rfl

/-- What it takes to turn one of two processors that are alike into the
other. -/
theorem Alike.exists_log {p p' : Processor ε} (h : Alike p p') :
    ∃ log, p' = { p with journal.log := log } := by
  obtain ⟨index, engine, ⟨handling, reports, exceptions, log⟩, interval, lastCommit, pending,
    batchOpen, workset⟩ := p
  obtain ⟨index', engine', ⟨handling', reports', exceptions', log'⟩, interval', lastCommit',
    pending', batchOpen', workset'⟩ := p'
  simp only [Alike, muted, Processor.mk.injEq, Journal.mk.injEq, and_true] at h
  obtain ⟨rfl, rfl, ⟨rfl, rfl, rfl⟩, rfl, rfl, rfl, rfl, rfl⟩ := h
  exact ⟨log', rfl⟩

theorem Alike.congr {α : Type} {p p' : Processor ε} (h : Alike p p')
    (view : Processor ε → α)
    (blind : ∀ (p : Processor ε) log, view { p with journal.log := log } = view p) :
    view p = view p' := by
  obtain ⟨log, rfl⟩ := h.exists_log
  exact (blind p log).symm

theorem Alike.index {p p' : Processor ε} (h : Alike p p') : p.index = p'.index :=
  h.congr Processor.index fun _ _ => rfl

theorem Alike.workset {p p' : Processor ε} (h : Alike p p') :
    p.workset = p'.workset :=
  h.congr Processor.workset fun _ _ => rfl

theorem Alike.engine {p p' : Processor ε} (h : Alike p p') :
    p.engine = p'.engine :=
  h.congr Processor.engine fun _ _ => rfl

theorem Alike.batchOpen {p p' : Processor ε} (h : Alike p p') :
    p.batchOpen = p'.batchOpen :=
  h.congr Processor.batchOpen fun _ _ => rfl

/-- The call answers processors that are alike in the same way, and leaves them
alike. -/
def Heedless {α : Type} (f : Call (Processor ε) α) : Prop :=
  ∀ p p' : Processor ε, Alike p p' → (f p).1 = (f p').1 ∧ Alike (f p).2 (f p').2

/-- The log is a past in which nothing else was told. -/
theorem recalling_muted (p : Processor ε) :
    p.muted.recalling ⟨p.journal.handling, [], [], p.journal.log⟩ = p := by
  simp [carried, muted, Journal.after, Journal.append]

theorem muted_recalling (p : Processor ε) (handling : Handling) (log : List Log.Record) :
    (p.recalling ⟨handling, [], [], log⟩).muted = p.muted := by
  simp [carried, muted, Journal.after, Journal.append]

/-- A call that does the same with any past does not look at the log. -/
theorem heedless_of_through {α : Type} {f : Call (Processor ε) α}
    (h : ∀ past, Through (recalling past) f f) : Heedless f := by
  intro p p' alike
  have first := h ⟨p.journal.handling, [], [], p.journal.log⟩ p.muted
  have second := h ⟨p'.journal.handling, [], [], p'.journal.log⟩ p'.muted
  rw [recalling_muted] at first second
  rw [first, second, show p.muted = p'.muted from alike]
  refine ⟨rfl, ?_⟩
  unfold Alike
  rw [muted_recalling, muted_recalling]

theorem Heedless.beginBatch :
    Heedless (Processor.beginBatch : Call (Processor ε) Unit) :=
  heedless_of_through fun _ => through_beginBatch

variable [Engine ε]

theorem Heedless.endBatch (now : Nat) :
    Heedless (Processor.endBatch now : Call (Processor ε) Unit) :=
  heedless_of_through fun _ => through_endBatch .id now

theorem Heedless.close (now : Nat) :
    Heedless (Processor.close now : Call (Processor ε) Unit) :=
  heedless_of_through fun _ => through_close .id now

theorem Alike.commitPending {p p' : Processor ε} (h : Alike p p') (now : Nat) :
    Alike (p.commitPending now) (p'.commitPending now) := by
  have heedless : Heedless fun p : Processor ε => (Except.ok (), p.commitPending now) :=
    heedless_of_through fun _ p => congrArg (Prod.mk _) (carried_commitPending .id now p)
  exact (heedless p p' h).2

/-! ## Worksets -/

/-- The ends of a workset on two processors that are alike. -/
structure SettledAlike {α : Type} (a b : Settled ε α) : Prop where
  call : a.call = b.call
  told : a.told = b.told
  processor : Alike a.processor b.processor

section Listening

variable {α : Type} (listening listening' : Bool)

omit [Engine ε] in
theorem tell_alike (call : Except Failure Unit) (told : Except Failure α) (p : Processor ε) :
    SettledAlike (tell listening call told p) (tell listening' call told p) := by
  refine ⟨rfl, rfl, ?_⟩
  cases listening <;> cases listening' <;> rfl

theorem afterWorkset_alike (now : Nat) (value : Option α) (p : Processor ε) :
    SettledAlike (p.afterWorkset now listening value) (p.afterWorkset now listening' value) := by
  unfold afterWorkset
  rcases p.workset with _ | ⟨s, _ | r⟩
  · exact ⟨rfl, rfl, rfl⟩
  · dsimp only
    rcases forcedSteps now s { p with workset := none } with ⟨e | _, p'⟩
    · exact tell_alike ..
    · cases value <;> exact tell_alike ..
  · exact tell_alike ..

theorem run_listening (now : Nat) (w : Workset) (p : Processor ε) :
    SettledAlike (w.run now listening p) (w.run now listening' p) := by
  unfold Workset.run
  split
  · exact afterWorkset_alike ..
  · exact ⟨rfl, rfl, rfl⟩

end Listening

/-- A workset comes out the same, whoever listens and whatever is in the log. -/
theorem run_alike {p p' : Processor ε} (h : Alike p p') (now : Nat)
    (listening listening' : Bool) (w : Workset) :
    SettledAlike (w.run now listening p) (w.run now listening' p') := by
  have past (listening : Bool) (p : Processor ε) :
      SettledAlike (w.run now listening p) (w.run now listening p.muted) := by
    have same : w.run now listening (p.muted.recalling ⟨p.journal.handling, [], [], p.journal.log⟩)
        = _ := carried_run .id now listening w p.muted
    rw [recalling_muted] at same
    rw [same]
    exact ⟨rfl, rfl, muted_recalling ..⟩
  have first := past listening p
  have second := past listening' p'
  have between := run_listening listening listening' now w p.muted
  rw [← show p.muted = p'.muted from h] at second
  exact ⟨first.call.trans (between.call.trans second.call.symm),
    first.told.trans (between.told.trans second.told.symm),
    first.processor.trans (between.processor.trans second.processor.symm)⟩

end WritePath.Processor
