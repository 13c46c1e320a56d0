import WritePath.Proofs.Engine.Editions
import WritePath.Proofs.Processor.Lasting
import WritePath.Proofs.Queue.Replay

/-!
# New editions

The processor commits once at most in whatever it does between two jobs, and
refreshes only right after a commit that succeeded.  So when a step of the worker
is over, readers see what they have seen before or what is committed now, and
nothing in between (`Moves`).
-/

namespace WritePath

open Engine (Editions Views)

namespace Engine.Views

variable {ε : Type} [Engine ε] {v : Views ε} {e e' e'' : ε} {docs : List Document}

/-- After some works a commit succeeds, and what was staged by then are these
documents. -/
def Commits (v : Views ε) (e : ε) (docs : List Document) : Prop :=
  ∃ e₁ e₂ stamp, v.Keeps e e₁ ∧ Engine.commit e₁ = (.ok stamp, e₂) ∧ docs = v.staged e₁

/-- There may be a new edition, and readers may have got to see it. -/
structure Moves (v : Views ε) (e e' : ε) : Prop where
  sound : v.sound e → v.sound e'
  committed : v.committed e' = v.committed e ∨ v.Commits e (v.committed e')
  visible : v.sound e → v.visible e' = v.visible e ∨ v.visible e' = v.committed e'

theorem Keeps.commits (k : v.Keeps e e') : v.Commits e' docs → v.Commits e docs := by
  rintro ⟨e₁, e₂, stamp, worked, committed, staged⟩
  exact ⟨e₁, e₂, stamp, k.trans worked, committed, staged⟩

theorem Keeps.moves (k : v.Keeps e e') : v.Moves e e' :=
  ⟨k.sound, .inl k.committed, fun _ => .inl k.visible⟩

theorem Moves.refl (e : ε) : v.Moves e e := (Keeps.refl e).moves

theorem Keeps.trans_moves (k : v.Keeps e e') (m : v.Moves e' e'') : v.Moves e e'' := by
  refine ⟨m.sound ∘ k.sound, ?_, fun sound => ?_⟩
  · exact m.committed.imp (fun same => same.trans k.committed) k.commits
  · exact (m.visible (k.sound sound)).imp_left fun same => same.trans k.visible

theorem Moves.trans_keeps (m : v.Moves e e') (k : v.Keeps e' e'') : v.Moves e e'' := by
  refine ⟨k.sound ∘ m.sound, ?_, fun sound => ?_⟩
  · rw [k.committed]
    exact m.committed
  · rw [k.visible, k.committed]
    exact m.visible sound

end Engine.Views

variable {ε : Type} [Searchable ε] (L : Editions ε)

namespace Engine.Editions

theorem moves_commit (e : ε) : L.Moves e (Engine.commit e).2 := by
  rcases hc : Engine.commit e with ⟨f | stamp, e'⟩
  · exact (L.commit_error hc).moves
  · obtain ⟨sound, committed, visible⟩ := L.commit_ok hc
    exact ⟨fun _ => sound, .inr ⟨e, e', stamp, .refl e, hc, committed⟩, fun _ => .inl visible⟩

theorem moves_shownIf {s : Strategies} {e e' : ε} {stamp : Stamp} :
    Engine.commit e = (.ok stamp, e') → L.Moves e (Processor.shownIf s e') := by
  intro hc
  obtain ⟨sound, committed, visible⟩ := L.commit_ok hc
  have edition {docs : List Document} (same : docs = L.committed e') : L.Commits e docs :=
    ⟨e, e', stamp, .refl e, hc, same.trans committed⟩
  unfold Processor.shownIf
  split
  · rcases hr : Engine.refresh e' with ⟨f | _, e''⟩
    · have kept := L.refresh_error hr
      exact ⟨fun _ => kept.sound sound, .inr (edition kept.committed),
        fun _ => .inl (kept.visible.trans visible)⟩
    · obtain ⟨same, sees⟩ := L.refresh_ok hr
      obtain ⟨sound', shown⟩ := sees sound
      exact ⟨fun _ => sound', .inr (edition same), fun _ => .inr shown⟩
  · exact ⟨fun _ => sound, .inr (edition rfl), fun _ => .inl visible⟩

end Engine.Editions

namespace Processor

variable (now : Nat) (p : Processor ε)

theorem moves_commitNow : L.Moves p.engine (commitNow now p).2.engine := by
  have moves := L.moves_commit p.engine
  rcases hc : Engine.commit p.engine with ⟨e | stamp, m⟩
  · rw [commitNow_error hc now]
    rw [hc] at moves
    exact moves
  · obtain ⟨log, done⟩ := commitNow_ok hc now
    rw [hc] at moves
    rw [done]
    exact moves

theorem moves_commitPending : L.Moves p.engine (p.commitPending now).engine := by
  have moves := moves_commitNow L now p
  unfold commitPending
  split
  · rcases hc : commitNow now p with ⟨e | _, p'⟩ <;> rw [hc] at moves <;> exact moves
  · exact .refl p.engine

theorem moves_endBatch : L.Moves p.engine (endBatch now p).2.engine := by
  rcases endBatch_cases now p with same | same | same <;> rw [same]
  · exact .refl p.engine
  · exact .refl p.engine
  · exact moves_commitPending L now { p with batchOpen := false }

theorem moves_forcedSteps (s : Strategies) :
    L.Moves p.engine (forcedSteps now s p).2.engine := by
  cases hn : s.needsCommit with
  | false =>
    rw [forcedSteps_none hn]
    exact .refl p.engine
  | true =>
    rcases hc : Engine.commit p.engine with ⟨e | stamp, m⟩
    · rw [forcedSteps_error hn hc now]
      exact (L.commit_error hc).moves
    · obtain ⟨log, done⟩ := forcedSteps_ok hn hc now
      rw [done]
      exact L.moves_shownIf hc

theorem moves_afterWorkset {α : Type} (listening : Bool) (value : Option α) :
    L.Moves p.engine (p.afterWorkset now listening value).processor.engine := by
  rcases afterWorkset_cases now listening p value with
    ⟨-, same⟩ | ⟨s, r, journal, -, same⟩ | ⟨s, journal, -, same⟩ <;> rw [same]
  · exact .refl p.engine
  · exact .refl p.engine
  · exact moves_forcedSteps L now { p with workset := none } s

theorem keeps_submit (w : Work) : L.Keeps p.engine (submit w p).2.engine :=
  submit_keeps (fun m k => k.trans (L.keeps_work w m)) (Views.Keeps.refl p.engine)

theorem moves_close : L.Moves p.engine (close now p).2.engine := by
  obtain ⟨log, closed⟩ := close_eq now p
  have flushed : L.Moves p.engine (flush now p).2.engine := by
    unfold flush
    split
    · exact moves_commitNow L now p
    · exact .refl p.engine
  rw [closed]
  exact flushed.trans_keeps (L.close _)

end Processor

namespace Workset

variable (now : Nat) (listening : Bool) (p : Processor ε)

theorem keeps_submitAll (works : List Work) :
    L.Keeps p.engine (submitAll works p).2.engine := by
  induction works generalizing p with
  | nil => exact .refl p.engine
  | cons w rest ih =>
    have first := Processor.keeps_submit L p w
    rcases hs : Processor.submit w p with ⟨e | outcome, p'⟩ <;> rw [hs] at first
    · simp only [submitAll, Call.andThen, hs]
      exact first
    · simp only [submitAll, Call.andThen, hs, Call.map]
      exact first.trans (ih p')

theorem moves_run (w : Workset) : L.Moves p.engine (w.run now listening p).processor.engine := by
  cases hw : p.workset with
  | some o =>
    simp only [run, Call.andThen, Processor.beforeWorkset, hw, Processor.refuse]
    exact .refl p.engine
  | none =>
    have worked := keeps_submitAll L { p with workset := some ⟨w.strategies, none⟩ } w.works
    simp only [run, Call.andThen, Processor.beforeWorkset, hw]
    rcases hs : submitAll w.works { p with workset := some ⟨w.strategies, none⟩ }
      with ⟨e | outcomes, p'⟩ <;> rw [hs] at worked
    · exact worked.moves
    · exact worked.trans_moves (Processor.moves_afterWorkset L now p' listening _)

end Workset

theorem Event.moves_act (a : Event) (p : Processor ε) : L.Moves p.engine (a.act p).engine := by
  cases a with
  | received s =>
    show L.Moves p.engine (Processor.beginBatch p).2.engine
    unfold Processor.beginBatch
    split <;> exact .refl p.engine
  | ran ticket w now => exact w.moves_run L now true p
  | ended now => exact Processor.moves_endBatch L now p
  | expired now => exact Processor.moves_commitPending L now p
  | finished now => exact Processor.moves_close L now p
  | _ => exact .refl p.engine

theorem Queue.Step.moves {q q' : Queue ε} {a : Event} (s : Queue.Step q a q') :
    L.Moves q.processor.engine q'.processor.engine := by
  rw [s.engine]
  exact a.moves_act L q.processor

end WritePath
