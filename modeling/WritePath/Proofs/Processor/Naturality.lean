import WritePath.Manager
import WritePath.Proofs.Processor.Calls

/-!
# A processor cannot tell the difference

An engine may be replaced by another one that answers as it does, and what was
told before a call may be put in front of what the call tells.  A processor
behaves the same: it knows its engine by the answers alone, and it never looks
back at what it has told.

`Through f` says of two calls that the second does what the first does, seen
through `f`.  `Faithful f` says it of all calls on two engines.  From this
follows the same of all calls on processors that are `carried` from one engine
to the other, with a past.  But for the works, nothing more is needed than that
it holds of commits and refreshes (`Consistent f`); works may be looked at one by
one (`through_submit_of`).
-/

namespace WritePath

/-! ## Calls seen through a map -/

/-- The second call does what the first one does, seen through `f`. -/
def Through {σ τ α : Type} (f : σ → τ) (call : Call σ α) (call' : Call τ α) : Prop :=
  ∀ s, call' (f s) = ((call s).1, f (call s).2)

namespace Through

variable {σ τ α β : Type} {f : σ → τ}

theorem done (a : α) : Through f (Call.done a) (Call.done a) := fun _ => rfl

theorem map {call : Call σ α} {call' : Call τ α} (h : Through f call call') (g : α → β) :
    Through f (Call.map g call) (Call.map g call') := by
  intro s
  simp only [Call.map, h s]

theorem andThen {first : Call σ α} {first' : Call τ α} (h : Through f first first')
    {second : α → Call σ β} {second' : α → Call τ β}
    (h' : ∀ a, Through f (second a) (second' a)) :
    Through f (Call.andThen first second) (Call.andThen first' second') := by
  intro s
  simp only [Call.andThen, h s]
  rcases first s with ⟨e | a, s₁⟩
  · rfl
  · exact h' a s₁

end Through

/-- Whatever is asked of the one engine, the other answers the same. -/
structure Faithful {δ ε : Type} [Engine δ] [Engine ε] (f : δ → ε) : Prop where
  add : ∀ d, Through f (Engine.add d) (Engine.add d)
  delete : ∀ id, Through f (Engine.delete id) (Engine.delete id)
  deleteAll : Through f Engine.deleteAll Engine.deleteAll
  commit : Through f Engine.commit Engine.commit
  refresh : Through f Engine.refresh Engine.refresh
  close : Through f Engine.close Engine.close

/-- Commits and refreshes are answered in the same way. -/
structure Consistent {δ ε : Type} [Engine δ] [Engine ε] (f : δ → ε) : Prop where
  commit : Through f Engine.commit Engine.commit
  refresh : Through f Engine.refresh Engine.refresh

theorem Faithful.consistent {δ ε : Type} [Engine δ] [Engine ε] {f : δ → ε} (hf : Faithful f) :
    Consistent f :=
  ⟨hf.commit, hf.refresh⟩

theorem Faithful.id {ε : Type} [Engine ε] : Faithful (fun m : ε => m) :=
  ⟨fun _ _ => rfl, fun _ _ => rfl, fun _ => rfl, fun _ => rfl, fun _ => rfl, fun _ => rfl⟩

theorem Consistent.id {ε : Type} [Engine ε] : Consistent (fun m : ε => m) :=
  Faithful.id.consistent

/-! ## A past -/

namespace Journal

/-- What a journal tells, with what `past` has told before it. -/
def after (past j : Journal) : Journal :=
  { past.append j with handling := j.handling }

theorem after_record (past j : Journal) (records : List Log.Record) :
    (past.after j).record records = past.after (j.record records) := by
  simp [after, append, record]

theorem after_report (past j : Journal) (r : Report) :
    (past.after j).report r = past.after (j.report r) := by
  unfold report
  split
  · rfl
  · cases hj : j.handling <;> simp [after, append, record, hj]

theorem after_exception (past j : Journal) (message : String) (e : Failure) :
    (past.after j).exception message e = past.after (j.exception message e) := by
  unfold exception
  cases hj : j.handling <;> simp [after, append, note, record, hj]

theorem nothing_after (handling : Handling) (j : Journal) : after ⟨handling, [], [], []⟩ j = j := by
  simp [after, append]

end Journal

namespace Processor

variable {δ ε : Type} (f : δ → ε) (past : Journal)

/-- The processor over the other engine, with a past. -/
def carried (p : Processor δ) : Processor ε where
  index := p.index
  engine := f p.engine
  journal := past.after p.journal
  interval := p.interval
  lastCommit := p.lastCommit
  pending := p.pending
  batchOpen := p.batchOpen
  workset := p.workset

variable (p : Processor δ)

@[simp] theorem index_carried : (p.carried f past).index = p.index := rfl

@[simp] theorem engine_carried : (p.carried f past).engine = f p.engine := rfl

@[simp] theorem journal_carried : (p.carried f past).journal = past.after p.journal := rfl

@[simp] theorem pending_carried : (p.carried f past).pending = p.pending := rfl

@[simp] theorem batchOpen_carried : (p.carried f past).batchOpen = p.batchOpen := rfl

@[simp] theorem workset_carried : (p.carried f past).workset = p.workset := rfl

@[simp] theorem pendingDelay_carried (now : Nat) :
    (p.carried f past).pendingDelay now = p.pendingDelay now := rfl

abbrev recalling (p : Processor ε) : Processor ε :=
  p.carried (fun m => m) past

end Processor

def Settled.carried {δ ε α : Type} (f : δ → ε) (past : Journal) (s : Settled δ α) :
    Settled ε α where
  call := s.call
  told := s.told
  processor := s.processor.carried f past

namespace Processor

variable {δ ε : Type} {f : δ → ε} {past : Journal}

/-! ## The calls -/

theorem through_beginBatch : Through (carried f past) beginBatch beginBatch := by
  intro p
  cases hb : p.batchOpen <;> simp only [beginBatch, batchOpen_carried, hb] <;> rfl

theorem through_beforeWorkset (s : Strategies) :
    Through (carried f past) (beforeWorkset s) (beforeWorkset s) := by
  intro p
  simp only [beforeWorkset, workset_carried]
  cases p.workset <;> rfl

variable [Engine δ] [Engine ε]

section Works

variable (delete : ∀ id, Through f (Engine.delete id) (Engine.delete id))
include delete

theorem through_change_of {c : Change}
    (add : ∀ d, c.document? = some d → Through f (Engine.add d) (Engine.add d)) :
    Through f c.run c.run := by
  cases c with
  | add d => exact add d rfl
  | update d => exact (delete d.id).andThen fun _ => add d rfl
  | delete id => exact delete id

theorem through_work_of {w : Work}
    (add : ∀ d, w.document? = some d → Through f (Engine.add d) (Engine.add d))
    (deleteAll : Through f Engine.deleteAll Engine.deleteAll) : Through f w.run w.run := by
  cases w with
  | change c => exact (through_change_of delete add).map _
  | silent c => exact (through_change_of delete add).map _
  | purge => exact deleteAll.map _
  | flush | refresh => exact Through.done _

end Works

theorem through_work (hf : Faithful f) (w : Work) : Through f w.run w.run :=
  through_work_of hf.delete (fun d _ => hf.add d) hf.deleteAll

theorem through_submit_of {w : Work} (h : Through f w.run w.run) :
    Through (carried f past) (submit w) (submit w) := by
  intro p
  simp only [submit, workset_carried]
  rcases p.workset with _ | ⟨s, _ | r⟩
  · rfl
  · simp only [engine_carried, h p.engine]
    rcases w.run p.engine with ⟨e | o, m⟩
    · simp [carried, Journal.note, Journal.after_record]
    · simp [carried, Journal.after_record]
  · rfl

theorem through_submit (hf : Faithful f) (w : Work) :
    Through (carried f past) (submit w) (submit w) :=
  through_submit_of (through_work hf w)

section Commits

variable (hf : Consistent f)
include hf

theorem through_commitNow (now : Nat) :
    Through (carried f past) (commitNow now) (commitNow now) := by
  intro p
  simp only [commitNow, engine_carried, hf.commit p.engine]
  rcases Engine.commit p.engine with ⟨e | stamp, m⟩
  · rfl
  · simp [carried, Journal.note, Journal.after_record]

theorem carried_refreshReaders (p : Processor δ) :
    (p.carried f past).refreshReaders = p.refreshReaders.carried f past := by
  simp only [refreshReaders, engine_carried, hf.refresh p.engine]
  rcases Engine.refresh p.engine with ⟨e | _, m⟩
  · simp [carried, note, Journal.note, Journal.after_record]
  · rfl

theorem through_forcedSteps (now : Nat) (s : Strategies) :
    Through (carried f past) (forcedSteps now s) (forcedSteps now s) := by
  intro p
  simp only [forcedSteps, through_commitNow hf now p]
  cases s.needsCommit with
  | false => rfl
  | true =>
    rcases commitNow now p with ⟨e | _, p'⟩
    · rfl
    · simp only [if_true, carried_refreshReaders hf]
      split <;> rfl

omit hf [Engine δ] [Engine ε] in
theorem carried_tell {α : Type} (listening : Bool) (call : Except Failure Unit)
    (told : Except Failure α) (p : Processor δ) :
    tell listening call told (p.carried f past) = (tell listening call told p).carried f past := by
  cases listening with
  | true => rfl
  | false => simp [tell, Settled.carried, carried, note, Journal.note, Journal.after_record]

theorem carried_afterWorkset {α : Type} (now : Nat) (listening : Bool) (value : Option α)
    (p : Processor δ) :
    (p.carried f past).afterWorkset now listening value
      = (p.afterWorkset now listening value).carried f past := by
  simp only [afterWorkset, workset_carried]
  rcases p.workset with _ | ⟨s, _ | r⟩
  · rfl
  · have forced : forcedSteps now s (carried f past { p with workset := none }) = _ :=
      through_forcedSteps hf now s { p with workset := none }
    rw [carried] at forced
    simp only [carried, forced]
    rcases forcedSteps now s { p with workset := none } with ⟨e | _, p'⟩
    · simp only [← carried_tell, carried, Journal.after_report]
    · cases value with
      | some v => exact carried_tell ..
      | none => exact carried_tell ..
  · simp only [← carried_tell, carried, Journal.after_report]

theorem carried_commitPending (now : Nat) (p : Processor δ) :
    (p.carried f past).commitPending now = (p.commitPending now).carried f past := by
  simp only [commitPending, pending_carried, through_commitNow hf now p]
  split
  · rcases commitNow now p with ⟨e | _, p'⟩
    · simp only [carried, Journal.after_exception]
    · rfl
  · rfl

theorem through_endBatch (now : Nat) :
    Through (carried f past) (endBatch now) (endBatch now) := by
  intro p
  cases hb : p.batchOpen with
  | false =>
    simp only [endBatch, batchOpen_carried, hb]
    rfl
  | true =>
    cases hw : p.workset with
    | some o =>
      simp only [endBatch, batchOpen_carried, workset_carried, hb, hw, if_true]
      rfl
    | none =>
      -- `carried` goes under the change of the field
      have ended : (carried f past { p with batchOpen := false }).commitPending now = _ :=
        carried_commitPending hf now { p with batchOpen := false }
      rw [endBatch_open now hb hw, endBatch_open now (by simp [hb]) (by simp [hw]),
        pendingDelay_carried]
      dsimp only
      split
      · exact congrArg (Prod.mk _) ended
      · rfl

end Commits

section Close

variable (hf : Faithful f)
include hf

theorem through_closeEngine : Through (carried f past) closeEngine closeEngine := by
  intro p
  simp only [closeEngine, engine_carried, hf.close p.engine]
  rfl

omit hf [Engine δ] [Engine ε] in
theorem carried_push {step : Call (Processor δ) Unit} {step' : Call (Processor ε) Unit}
    (h : Through (carried f past) step step') (closer : Closer) (p : Processor δ) :
    closer.push note step' (p.carried f past)
      = ((closer.push note step p).1, (closer.push note step p).2.carried f past) := by
  refine Closer.push_map (fun p level text => ?_) h closer p
  simp [carried, note, Journal.note, Journal.after_record]

omit hf [Engine δ] [Engine ε] in
theorem carried_note_if (b : Prop) [Decidable b] (level : Log.Level) (text : String)
    (p : Processor δ) :
    (if b then (p.carried f past).note level text else p.carried f past)
      = (if b then p.note level text else p).carried f past := by
  split
  · simp [carried, note, Journal.note, Journal.after_record]
  · rfl

theorem through_close (now : Nat) : Through (carried f past) (close now) (close now) := by
  intro p
  simp only [close]
  rw [workset_carried, index_carried, carried_note_if]
  generalize (if p.workset.isSome = true then p.note _ _ else p) = s
  have first : (if (s.carried f past).pending then
          Closer.push note (commitNow now) {} (s.carried f past)
        else ({}, s.carried f past))
      = ((if s.pending then Closer.push note (commitNow now) {} s else ({}, s)).1,
        (if s.pending then Closer.push note (commitNow now) {} s else ({}, s)).2.carried f past) := by
    rw [pending_carried]
    split
    · exact carried_push (through_commitNow hf.consistent now) {} s
    · rfl
  rw [first]
  generalize (if s.pending = true then Closer.push note (commitNow now) {} s else ({}, s)) = flushed
  rw [carried_push (through_closeEngine hf)]
  generalize flushed.1.push note closeEngine flushed.2 = released
  simp only [carried_note_if, index_carried]

theorem through_submitAll (works : List Work) :
    Through (carried f past) (Workset.submitAll works) (Workset.submitAll works) := by
  induction works with
  | nil => exact Through.done []
  | cons w rest ih => exact (through_submit hf w).andThen fun outcome => ih.map (outcome :: ·)

theorem carried_run (now : Nat) (listening : Bool) (w : Workset) (p : Processor δ) :
    w.run now listening (p.carried f past) = (w.run now listening p).carried f past := by
  have worked : Through (carried f past)
      (Call.andThen (beforeWorkset w.strategies) fun _ => Workset.submitAll w.works)
      (Call.andThen (beforeWorkset w.strategies) fun _ => Workset.submitAll w.works) :=
    (through_beforeWorkset w.strategies).andThen fun _ => through_submitAll hf w.works
  simp only [Workset.run, worked p]
  rcases Call.andThen (beforeWorkset w.strategies) (fun _ => Workset.submitAll w.works) p with
    ⟨e | outcomes, p'⟩
  · rfl
  · exact carried_afterWorkset hf.consistent now listening _ p'

end Close

end Processor

end WritePath
