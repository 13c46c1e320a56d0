import WritePath.Proofs.Processor.Naturality

/-!
# An engine that lists what it is asked

A `Watched` engine does what the engine inside it does, and lists every call on
it, whatever comes of the call.  A call on `p.watched` so shows what the same
call on `p` asks of the engine, and in which order.

While the works of a workset are submitted, the engine is asked for changes of
documents only.  Commits and refreshes are asked for when the workset ends.
-/

namespace WritePath

inductive Request where
  | add (d : Document)
  | delete (id : String)
  | deleteAll
  | commit
  | refresh
  | close

def Request.isChange : Request → Bool
  | .add _ | .delete _ | .deleteAll => true
  | .commit | .refresh | .close => false

/-- An engine with the calls on it, oldest first. -/
structure Watched (ε : Type) where
  engine : ε
  asked : List Request := []

namespace Watched

variable {ε : Type}

def listed {α : Type} (r : Request) (call : Call ε α) : Call (Watched ε) α := fun x =>
  let (result, m) := call x.engine
  (result, ⟨m, x.asked ++ [r]⟩)

variable [Engine ε]

instance : Engine (Watched ε) where
  add d := listed (.add d) (Engine.add d)
  delete id := listed (.delete id) (Engine.delete id)
  deleteAll := listed .deleteAll Engine.deleteAll
  commit := listed .commit Engine.commit
  refresh := listed .refresh Engine.refresh
  close := listed .close Engine.close

theorem faithful : Faithful (Watched.engine : Watched ε → ε) :=
  ⟨fun _ _ => rfl, fun _ _ => rfl, fun _ => rfl, fun _ => rfl, fun _ => rfl, fun _ => rfl⟩

/-- The engine has been asked for nothing but changes of documents. -/
def Changed (x x' : Watched ε) : Prop :=
  ∃ changes, x'.asked = x.asked ++ changes ∧ ∀ r ∈ changes, r.isChange = true

omit [Engine ε] in
theorem Changed.refl (x : Watched ε) : Changed x x := ⟨[], by simp⟩

omit [Engine ε] in
theorem Changed.trans {x x' x'' : Watched ε} : Changed x x' → Changed x' x'' → Changed x x'' := by
  rintro ⟨first, asked, changes⟩ ⟨second, asked', changes'⟩
  refine ⟨first ++ second, by rw [asked', asked, List.append_assoc], fun r hr => ?_⟩
  rcases List.mem_append.mp hr with hr | hr
  · exact changes r hr
  · exact changes' r hr

omit [Engine ε] in
theorem changed_listed {α : Type} {r : Request} (hr : r.isChange = true) (call : Call ε α)
    (x : Watched ε) : Changed x (listed r call x).2 :=
  ⟨[r], rfl, by simpa using hr⟩

theorem changed_change (c : Change) (x : Watched ε) : Changed x (c.run x).2 := by
  cases c with
  | add d => exact changed_listed rfl (Engine.add d) x
  | delete id => exact changed_listed rfl (Engine.delete id) x
  | update d =>
    have deleted : Changed x (Engine.delete d.id x).2 := changed_listed rfl (Engine.delete d.id) x
    simp only [Change.run, Call.andThen]
    rcases hd : Engine.delete d.id x with ⟨e | stamp, x'⟩
    · rw [hd] at deleted
      exact deleted
    · rw [hd] at deleted
      exact deleted.trans (changed_listed rfl (Engine.add d) x')

theorem changed_work (w : Work) (x : Watched ε) : Changed x (w.run x).2 := by
  cases w with
  | change c | silent c => exact changed_change c x
  | purge => exact changed_listed rfl Engine.deleteAll x
  | flush | refresh => exact .refl x

theorem commit_eq (x : Watched ε) :
    Engine.commit x
      = ((Engine.commit x.engine).1, ⟨(Engine.commit x.engine).2, x.asked ++ [.commit]⟩) :=
  rfl

end Watched

namespace Processor

variable {ε : Type}

/-- The same processor over the engine that lists its calls. -/
def watched (p : Processor ε) : Processor (Watched ε) where
  index := p.index
  engine := ⟨p.engine, []⟩
  journal := p.journal
  interval := p.interval
  lastCommit := p.lastCommit
  pending := p.pending
  batchOpen := p.batchOpen
  workset := p.workset

theorem carried_watched (p : Processor ε) :
    p.watched.carried Watched.engine ⟨p.journal.handling, [], [], []⟩ = p := by
  simp only [carried, watched, Journal.nothing_after]

variable [Engine ε]

theorem changed_submit (w : Work) (p : Processor (Watched ε)) :
    p.engine.Changed (submit w p).2.engine := by
  rcases hw : p.workset with _ | ⟨s, _ | r⟩
  · rw [submit_noWorkset hw]
    exact .refl _
  · have changed := Watched.changed_work w p.engine
    rcases hr : w.run p.engine with ⟨e | o, m⟩
    · obtain ⟨log, h⟩ := submit_failed hw hr
      rw [hr] at changed
      rw [h]
      exact changed
    · rw [hr] at changed
      rw [submit_executed hw hr]
      exact changed
  · rw [submit_skipped hw]
    exact .refl _

theorem asked_forcedSteps (now : Nat) (s : Strategies) (p : Processor (Watched ε)) :
    ∃ last ∈ [[], [Request.commit], [.commit, .refresh]],
      (forcedSteps now s p).2.engine.asked = p.engine.asked ++ last := by
  cases hn : s.needsCommit with
  | false =>
    rw [forcedSteps_none hn]
    exact ⟨[], by simp, by simp⟩
  | true =>
    have asked := Watched.commit_eq p.engine
    rcases hc : Engine.commit p.engine with ⟨e | stamp, x⟩
    · rw [forcedSteps_error hn hc now]
      rw [hc, Prod.mk.injEq] at asked
      exact ⟨[.commit], by simp, by rw [asked.2]⟩
    · obtain ⟨log, h⟩ := forcedSteps_ok hn hc now
      rw [hc, Prod.mk.injEq] at asked
      rw [h]
      dsimp only [shownIf]
      split
      · refine ⟨[.commit, .refresh], by simp, ?_⟩
        show x.asked ++ [.refresh] = _
        rw [asked.2, List.append_assoc]
        rfl
      · exact ⟨[.commit], by simp, by rw [asked.2]⟩

/-- The end of a workset asks for a commit and then for a refresh, or for the
first of them, or for nothing. -/
theorem asked_afterWorkset {α : Type} (now : Nat) (listening : Bool) (value : Option α)
    (p : Processor (Watched ε)) :
    ∃ last ∈ [[], [Request.commit], [.commit, .refresh]],
      (p.afterWorkset now listening value).processor.engine.asked = p.engine.asked ++ last := by
  rcases afterWorkset_cases now listening p value with
    ⟨-, h⟩ | ⟨s, r, journal, -, h⟩ | ⟨s, journal, -, h⟩ <;> rw [h]
  · exact ⟨[], by simp, by simp⟩
  · exact ⟨[], by simp, by simp⟩
  · exact asked_forcedSteps now s { p with workset := none }

end Processor

end WritePath
