import WritePath.Proofs.Processor.Delivery

/-!
# What outlasts commits and refreshes

Of an engine the processor changes documents by works only; the rest of what it
asks are commits and refreshes.  So what a commit and a refresh keep is kept by
every call that submits no work (`Lasting`), and by all of them if the works keep
it too (`Lasting.act`).
-/

namespace WritePath

namespace Processor

variable {ε : Type} [Engine ε]

/-- Neither a commit nor a refresh puts an end to it. -/
structure Lasting (I : ε → Prop) : Prop where
  commit : ∀ m, I m → I (Engine.commit m).2
  refresh : ∀ m, I m → I (Engine.refresh m).2

variable {I : ε → Prop} (h : Lasting I) (now : Nat) {p : Processor ε}
include h

theorem Lasting.commitNow : I p.engine → I (Processor.commitNow now p).2.engine := by
  intro hp
  have committed := h.commit p.engine hp
  rcases hc : Engine.commit p.engine with ⟨e | stamp, m⟩
  · rw [commitNow_error hc now]
    rw [hc] at committed
    exact committed
  · obtain ⟨log, done⟩ := commitNow_ok hc now
    rw [hc] at committed
    rw [done]
    exact committed

theorem Lasting.commitPending : I p.engine → I (p.commitPending now).engine := by
  intro hp
  have committed := h.commitNow now hp
  unfold Processor.commitPending
  split
  · rcases hc : Processor.commitNow now p with ⟨e | _, p'⟩ <;> rw [hc] at committed <;>
      exact committed
  · exact hp

theorem Lasting.endBatch : I p.engine → I (Processor.endBatch now p).2.engine := by
  intro hp
  rcases endBatch_cases now p with same | same | same <;> rw [same]
  · exact hp
  · exact hp
  · exact h.commitPending now hp

theorem Lasting.flush : I p.engine → I (Processor.flush now p).2.engine := by
  intro hp
  unfold Processor.flush
  split
  · exact h.commitNow now hp
  · exact hp

theorem Lasting.forcedSteps (s : Strategies) :
    I p.engine → I (Processor.forcedSteps now s p).2.engine := by
  intro hp
  have committed := h.commit p.engine hp
  cases hn : s.needsCommit with
  | false =>
    rw [forcedSteps_none hn]
    exact hp
  | true =>
    rcases hc : Engine.commit p.engine with ⟨e | stamp, m⟩
    · rw [forcedSteps_error hn hc now]
      rw [hc] at committed
      exact committed
    · obtain ⟨log, done⟩ := forcedSteps_ok hn hc now
      rw [hc] at committed
      rw [done]
      dsimp only [shownIf]
      split
      · exact h.refresh m committed
      · exact committed

theorem Lasting.afterWorkset {α : Type} (listening : Bool) (value : Option α) :
    I p.engine → I (p.afterWorkset now listening value).processor.engine := by
  intro hp
  rcases afterWorkset_cases now listening p value with
    ⟨-, same⟩ | ⟨s, r, journal, -, same⟩ | ⟨s, journal, -, same⟩ <;> rw [same]
  · exact hp
  · exact hp
  · exact h.forcedSteps now s hp

omit h in
theorem submit_keeps {w : Work} (hw : ∀ m, I m → I (w.run m).2) :
    I p.engine → I (Processor.submit w p).2.engine := by
  intro hp
  rcases ho : p.workset with _ | ⟨s, _ | r⟩
  · rw [submit_noWorkset ho]
    exact hp
  · have worked := hw p.engine hp
    rcases hr : w.run p.engine with ⟨e | o, m⟩
    · obtain ⟨log, done⟩ := submit_failed ho hr
      rw [hr] at worked
      rw [done]
      exact worked
    · rw [hr] at worked
      rw [submit_executed ho hr]
      exact worked
  · rw [submit_skipped ho]
    exact hp

theorem Lasting.act {i : Instruction} (hw : ∀ w, i = .submit w → ∀ m, I m → I (w.run m).2) :
    I p.engine → I (i.act now p).engine := by
  intro hp
  cases i with
  | beginBatch =>
    cases hb : p.batchOpen <;> simp only [Instruction.act, beginBatch, hb] <;> exact hp
  | beforeWorkset s =>
    cases ho : p.workset <;> simp only [Instruction.act, beforeWorkset, ho] <;> exact hp
  | submit w => exact submit_keeps (hw w rfl) hp
  | afterWorkset listening value => exact h.afterWorkset now listening value hp
  | endBatch => exact h.endBatch now hp
  | commitPending => exact h.commitPending now hp

end Processor

end WritePath
