import WritePath.Engine.Lodged
import WritePath.Manager
import WritePath.Proofs.Engine.Staging

/-!
# What a failed work leaves behind

A work that fails ought to change nothing.  In memory it does not, whatever is
told to fail: an update is a delete and an add of one document, so the two fail
together, and the delete comes first.

In the engine of lists a delete never fails, and an add fails when the document
is refused.  So an update of a document that is refused has removed the
documents it was to replace, and has put nothing in their place.  This is all
that a failed work can do there, and it is done unless no document is found
(`staged_after_failure`).  Nothing is pending because of it, but the next commit
makes it durable, whoever asks for that commit.
-/

namespace WritePath

namespace Call

variable {σ α β : Type} {s s' : σ} {e : Failure}

theorem map_error {f : α → β} {call : Call σ α} :
    Call.map f call s = (.error e, s') → call s = (.error e, s') := by
  intro h
  rcases hc : call s with ⟨e₁ | a, s₁⟩
  · simp only [Call.map, hc, Except.map, Prod.mk.injEq, Except.error.injEq] at h
    obtain ⟨rfl, rfl⟩ := h
    rfl
  · simp [Call.map, hc, Except.map] at h

theorem andThen_error {first : Call σ α} {second : α → Call σ β} :
    Call.andThen first second s = (.error e, s') →
      first s = (.error e, s') ∨ ∃ a s₁, first s = (.ok a, s₁) ∧ second a s₁ = (.error e, s') := by
  intro h
  rcases hc : first s with ⟨e₁ | a, s₁⟩
  · simp only [Call.andThen, hc, Prod.mk.injEq, Except.error.injEq] at h
    obtain ⟨rfl, rfl⟩ := h
    exact .inl rfl
  · simp only [Call.andThen, hc] at h
    exact .inr ⟨a, s₁, rfl, h⟩

end Call

namespace Work

/-- The document that a work puts in the place of others. -/
def replacement? : Work → Option Document
  | .change (.update d) | .silent (.update d) => some d
  | .change (.add _) | .silent (.add _) | .change (.delete _) | .silent (.delete _) | .purge
  | .flush | .refresh => none

end Work

namespace Engine

/-! ## In memory -/

namespace Memory

variable {m m' : Memory} {e : Failure}

theorem change_closed (hm : m.closed = true) (c : Change) :
    c.run m = (.error closedFault, m) := by
  have add (d : Document) : Engine.add d m = (.error closedFault, m) :=
    show Memory.add d m = _ from whileOpen_closed hm _
  have delete (id : String) : Engine.delete id m = (.error closedFault, m) :=
    show Memory.delete id m = _ from whileOpen_closed hm _
  cases c with
  | add d => exact add d
  | update d => simp only [Change.run, Call.andThen, delete d.id]
  | delete id => exact delete id

theorem change_error {c : Change} : c.run m = (.error e, m') → m' = m := by
  intro h
  cases hm : m.closed with
  | true =>
    rw [change_closed hm] at h
    cases h
    rfl
  | false =>
    cases hc : m.faults.documents.contains c.id with
    | true =>
      rw [change_refused hm hc] at h
      cases h
      rfl
    | false =>
      obtain ⟨stamp, events, taken⟩ := change_taken hm hc
      rw [taken] at h
      cases h

/-- A work that fails leaves the whole engine as it is. -/
theorem work_error {w : Work} : w.run m = (.error e, m') → m' = m := by
  intro h
  cases w with
  | change c | silent c => exact change_error (Call.map_error h)
  | purge =>
    have h : Memory.deleteAll m = (.error e, m') := Call.map_error h
    simp only [Memory.deleteAll, whileOpen, stamped] at h
    split at h <;> cases h
    rfl
  | flush | refresh => cases h

end Memory

/-! ## In lists -/

namespace Listing

variable {l l' : Listing} {e : Failure}

theorem add_error {d : Document} :
    Engine.add d l = (.error e, l') ↔
      l.rules.receives d ≠ .taken ∧ e = refused d ∧ l' = l := by
  show Listing.add d l = _ ↔ _
  cases hr : l.rules.receives d with
  | taken => simp [Listing.add, hr, stamped]
  | refused | fatal =>
    simp only [Listing.add, hr, Prod.mk.injEq, Except.error.injEq, ne_eq, reduceCtorEq,
      not_false_eq_true, true_and]
    exact ⟨fun h => ⟨h.1.symm, h.2.symm⟩, fun h => ⟨h.1.symm, h.2.symm⟩⟩

/-- The index when the documents with an identifier have been deleted. -/
def deleted (l : Listing) (id : String) : Listing :=
  { l with staged := without l.rules.finds id l.staged, stamp := l.stamp + 1 }

theorem delete_eq (id : String) (l : Listing) :
    Engine.delete id l = (.ok (l.stamp + 1), l.deleted id) := rfl

theorem change_error {c : Change} :
    c.run l = (.error e, l') →
      (∃ d, c = .add d ∧ l.rules.receives d ≠ .taken ∧ l' = l)
        ∨ ∃ d, c = .update d ∧ l.rules.receives d ≠ .taken ∧ l' = l.deleted d.id := by
  intro h
  cases c with
  | add d =>
    obtain ⟨refused, -, rfl⟩ := add_error.mp h
    exact .inl ⟨d, rfl, refused, rfl⟩
  | update d =>
    have h : Call.andThen (Engine.delete d.id) (fun _ => Engine.add d) l = (.error e, l') := h
    rcases Call.andThen_error h with first | ⟨stamp, l₁, first, second⟩
    · rw [delete_eq] at first
      cases first
    · rw [delete_eq] at first
      cases first
      obtain ⟨refused, -, rfl⟩ := add_error.mp second
      exact .inr ⟨d, rfl, refused, rfl⟩
  | delete id =>
    have h : Engine.delete id l = (.error e, l') := h
    rw [delete_eq] at h
    cases h

theorem work_error {w : Work} :
    w.run l = (.error e, l') →
      (∃ d, w.document? = some d ∧ l.rules.receives d ≠ .taken)
        ∧ l' = (match w.replacement? with
          | some d => l.deleted d.id
          | none => l) := by
  intro h
  cases w with
  | change c | silent c =>
    rcases change_error (Call.map_error h) with ⟨d, rfl, refused, rfl⟩ | ⟨d, rfl, refused, rfl⟩
    · exact ⟨⟨d, rfl, refused⟩, rfl⟩
    · exact ⟨⟨d, rfl, refused⟩, rfl⟩
  | purge =>
    have h : Listing.deleteAll l = (.error e, l') := Call.map_error h
    cases h
  | flush | refresh => cases h

theorem work_refused {w : Work} {d : Document} (hw : w.document? = some d)
    (hd : l.rules.receives d ≠ .taken) : ∃ l', w.run l = (.error (refused d), l') := by
  have add (l : Listing) (hd : l.rules.receives d ≠ .taken) :
      Engine.add d l = (.error (refused d), l) := add_error.mpr ⟨hd, rfl, rfl⟩
  have change {c : Change} (hc : c = .add d ∨ c = .update d) :
      ∃ l', c.run l = (.error (refused d), l') := by
    rcases hc with rfl | rfl
    · exact ⟨l, add l hd⟩
    · refine ⟨l.deleted d.id, ?_⟩
      simp only [Change.run, Call.andThen, delete_eq]
      exact add (l.deleted d.id) hd
  cases w with
  | change c | silent c =>
    have hc : c = .add d ∨ c = .update d := by
      cases c <;> simp_all [Work.document?, Change.document?]
    obtain ⟨l', failed⟩ := change hc
    refine ⟨l', ?_⟩
    simp only [Work.run, Call.map, failed, Except.map]
  | purge | flush | refresh => cases hw

theorem staged_deleted {id : String} :
    (l.deleted id).staged = l.staged ↔ ∀ k ∈ l.staged, l.rules.finds id k.document = false := by
  show without l.rules.finds id l.staged = l.staged ↔ _
  simp [without, List.filter_eq_self]

end Listing

/-! ## In a lodging -/

namespace Lodged

variable {x x' : Lodged} {e : Failure}

theorem add_error {d : Document} :
    Engine.add d x = (.error e, x') → Engine.add d x.lists = (.error e, x'.lists) := by
  intro h
  have h : Lodged.add d x = (.error e, x') := h
  show Listing.add d x.lists = _
  cases hr : x.lists.rules.receives d with
  | taken =>
    -- then nothing fails, wherever the document goes
    exfalso
    unfold Lodged.add at h
    rw [hr] at h
    cases hg : x.lodging with
    | none => simp [hg, onLists, Listing.add, hr, Listing.stamped] at h
    | some g =>
      simp only [hg] at h
      split at h <;> simp [onLists, Listing.add, hr, Listing.stamped] at h
  | refused | fatal =>
    have alone : Lodged.add d x = onLists (Listing.add d) x := by
      cases hg : x.lodging <;> simp only [Lodged.add, hr, hg]
    rw [alone] at h
    simp only [onLists, Listing.add, hr] at h ⊢
    cases h
    rfl

/-- An engine in its lodging fails where its lists do, and leaves the same lists. -/
theorem work_error {w : Work} :
    w.run x = (.error e, x') → w.run x.lists = (.error e, x'.lists) := by
  intro h
  have change {c : Change} (h : c.run x = (.error e, x')) :
      c.run x.lists = (.error e, x'.lists) := by
    cases c with
    | add d => exact add_error h
    | update d =>
      have h : Call.andThen (Engine.delete d.id) (fun _ => Engine.add d) x = (.error e, x') := h
      rcases Call.andThen_error h with first | ⟨stamp, x₁, first, second⟩
      · cases first
      · cases first
        exact add_error second
    | delete id => cases h
  cases w with
  | change c | silent c =>
    have failed := change (Call.map_error h)
    simp only [Work.run, Call.map, failed, Except.map]
  | purge =>
    have h : Lodged.deleteAll x = (.error e, x') := Call.map_error h
    cases h
  | flush | refresh => cases h

end Lodged

/-- **What a failed work leaves staged.**  In memory, everything as it was.  In
the engine of lists a work fails exactly if it brings a document that is
refused; then everything is as it was, unless the work is an update and there
are documents that it was to replace: those are gone. -/
theorem staged_after_failure (w : Work) :
    (∀ (m m' : Memory) (e : Failure), w.run m = (.error e, m') → m' = m)
    ∧ (∀ l : Listing,
      ((∃ e l', w.run l = (.error e, l')) ↔
        ∃ d, w.document? = some d ∧ l.rules.receives d ≠ .taken)
      ∧ ∀ e l', w.run l = (.error e, l') →
        l'.committed = l.committed ∧ l'.visible = l.visible
        ∧ (l'.staged = match w.replacement? with
          | some d => Listing.without l.rules.finds d.id l.staged
          | none => l.staged)
        ∧ (l'.staged = l.staged ↔ ∀ d, w.replacement? = some d →
          ∀ k ∈ l.staged, l.rules.finds d.id k.document = false))
    ∧ ∀ (x x' : Lodged) (e : Failure),
      w.run x = (.error e, x') → w.run x.lists = (.error e, x'.lists) := by
  refine ⟨fun m m' e => Memory.work_error, fun l => ⟨⟨?fails, ?refused⟩, ?left⟩,
    fun x x' e => Lodged.work_error⟩
  case fails =>
    rintro ⟨e, l', h⟩
    exact (Listing.work_error h).1
  case refused =>
    rintro ⟨d, hw, hd⟩
    obtain ⟨l', h⟩ := Listing.work_refused hw hd
    exact ⟨_, l', h⟩
  case left =>
    intro e l' h
    obtain ⟨-, rfl⟩ := Listing.work_error h
    cases hr : w.replacement? with
    | none => simp
    | some d =>
      refine ⟨rfl, rfl, rfl, ?_⟩
      constructor
      · rintro same d' ⟨⟩
        exact Listing.staged_deleted.mp same
      · intro none
        exact Listing.staged_deleted.mpr (none d rfl)

/-- A document is to replace one that is committed, and is refused.  The commit
of a workset that comes later, with no work but a marker, makes it durable that
the document is gone. -/
theorem refused_update_erases :
    let old : Document := ⟨"keep", [("title", .string "old")]⟩
    let new : Document := ⟨"keep", [("x", .nested 126)]⟩
    let l : Listing := { staged := [⟨old, {}⟩], committed := [⟨old, {}⟩] }
    let failed := Work.run (.change (.update new)) l
    let p : Processor Listing :=
      { index := ⟨"books"⟩, engine := failed.2, journal := { handling := .collecting } }
    let flushed := Workset.run 0 true ⟨.single .flush, { commit := .force }⟩ p
    failed.1 = .error (Listing.refused new)
      ∧ l.staged.map Kept.document = [old] ∧ failed.2.staged.map Kept.document = []
      ∧ flushed.processor.engine.committed.map Kept.document = [] := by
  intro old new l failed p flushed
  have tooDeep : l.rules.receives new ≠ .taken := by decide +kernel
  obtain ⟨l', h⟩ := Listing.work_refused (w := .change (.update new)) rfl tooDeep
  exact ⟨congrArg Prod.fst h, rfl, by decide +kernel, by decide +kernel⟩

end Engine

end WritePath
