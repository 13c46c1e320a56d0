import WritePath.Engine.Memory
import WritePath.Work

/-!
# Works in memory

What a work does to an index in memory that is open: it fails and changes
nothing, or it stages its `effect`.  Which of the two depends on the identifier
of the document alone, and the answer of a work that goes through on the work
alone, but for its stamp.

An update that fails has no effect here, although it is a delete followed by an
add: both are about the same document, so the delete is refused first.
-/

namespace WritePath

open Engine (Memory Faults)

namespace Call

variable {σ α β : Type} {s s' : σ} {call : Call σ α}

theorem map_of_ok {a : α} (f : α → β) :
    call s = (.ok a, s') → Call.map f call s = (.ok (f a), s') := by
  intro h
  simp only [Call.map, h, Except.map]

theorem map_of_error {e : Failure} (f : α → β) :
    call s = (.error e, s') → Call.map f call s = (.error e, s') := by
  intro h
  simp only [Call.map, h, Except.map]

end Call

def Change.id : Change → String
  | .add d => d.id
  | .update d => d.id
  | .delete id => id

/-- What a change makes of the documents of an index. -/
def Change.effect : Change → Keyed Document → Keyed Document
  | .add d, docs => Keyed.insert d.id d docs
  | .update d, docs => Keyed.insert d.id d (Keyed.erase d.id docs)
  | .delete id, docs => Keyed.erase id docs

/-- What an output says without its stamp. -/
def Output.unstamped : Output → Output
  | .stamp _ => .stamp 0
  | .unit => .unit

namespace Work

/-- What a work makes of the documents of an index. -/
def effect : Work → Keyed Document → Keyed Document
  | .change c, docs => c.effect docs
  | .silent c, docs => c.effect docs
  | .purge, _ => []
  | .flush, docs => docs
  | .refresh, docs => docs

def effects (works : List Work) (docs : Keyed Document) : Keyed Document :=
  works.foldl (fun docs w => w.effect docs) docs

theorem effects_append (works works' : List Work) (docs : Keyed Document) :
    effects (works ++ works') docs = effects works' (effects works docs) :=
  List.foldl_append

def fault? (faults : Faults) : Work → Option Failure
  | .change c | .silent c =>
    if faults.documents.contains c.id then some (Memory.documentFault c.id) else none
  | .purge | .flush | .refresh => none

/-- What a work answers when it goes through, without its stamp. -/
def output : Work → Output
  | .change _ | .purge => .stamp 0
  | .silent _ | .flush | .refresh => .unit

end Work

namespace Engine.Memory

variable {m : Memory}

theorem whileOpen_closed {α : Type} (hm : m.closed = true) (call : Call Memory α) :
    whileOpen call m = (.error closedFault, m) := by
  simp only [whileOpen, hm, if_true]

theorem add_refused (hm : m.closed = false) {d : Document}
    (hd : m.faults.documents.contains d.id = true) :
    Engine.add d m = (.error (documentFault d.id), m) := by
  show Memory.add d m = _
  simp only [Memory.add, whileOpen, hm, hd, Bool.false_eq_true, if_false, if_true]

theorem add_taken (hm : m.closed = false) {d : Document}
    (hd : m.faults.documents.contains d.id = false) :
    Engine.add d m
      = (.ok (m.stamp + 1),
          { m with
            staged := Keyed.insert d.id d m.staged
            stamp := m.stamp + 1
            events := m.events ++ [.add d.id] }) := by
  show Memory.add d m = _
  simp only [Memory.add, whileOpen, hm, hd, Bool.false_eq_true, if_false, stamped]

theorem delete_refused (hm : m.closed = false) {id : String}
    (hd : m.faults.documents.contains id = true) :
    Engine.delete id m = (.error (documentFault id), m) := by
  show Memory.delete id m = _
  simp only [Memory.delete, whileOpen, hm, hd, Bool.false_eq_true, if_false, if_true]

theorem delete_taken (hm : m.closed = false) {id : String}
    (hd : m.faults.documents.contains id = false) :
    Engine.delete id m
      = (.ok (m.stamp + 1),
          { m with
            staged := Keyed.erase id m.staged
            stamp := m.stamp + 1
            events := m.events ++ [.delete id] }) := by
  show Memory.delete id m = _
  simp only [Memory.delete, whileOpen, hm, hd, Bool.false_eq_true, if_false, stamped]

theorem deleteAll_taken (hm : m.closed = false) :
    Engine.deleteAll m
      = (.ok (m.stamp + 1),
          { m with staged := [], stamp := m.stamp + 1, events := m.events ++ [.deleteAll] }) := by
  show Memory.deleteAll m = _
  simp only [Memory.deleteAll, whileOpen, hm, Bool.false_eq_true, if_false, stamped]

theorem change_refused (hm : m.closed = false) {c : Change}
    (hc : m.faults.documents.contains c.id = true) :
    c.run m = (.error (documentFault c.id), m) := by
  cases c with
  | add d => exact add_refused hm hc
  | update d =>
    have refused : Engine.delete d.id m = (.error (documentFault d.id), m) :=
      delete_refused hm hc
    simp only [Change.run, Call.andThen, refused]
    rfl
  | delete id => exact delete_refused hm hc

theorem change_taken (hm : m.closed = false) {c : Change}
    (hc : m.faults.documents.contains c.id = false) :
    ∃ stamp events, c.run m
      = (.ok stamp,
        { m with staged := c.effect m.staged, stamp := stamp, events := events }) := by
  cases c with
  | add d => exact ⟨_, _, add_taken hm hc⟩
  | update d =>
    have erased :=
      delete_taken (m := m) hm (show m.faults.documents.contains d.id = false from hc)
    have added := add_taken (m := { m with
      staged := Keyed.erase d.id m.staged
      stamp := m.stamp + 1
      events := m.events ++ [.delete d.id] }) hm hc
    refine ⟨m.stamp + 1 + 1, m.events ++ [.delete d.id] ++ [.add d.id], ?_⟩
    simp only [Change.run, Call.andThen, erased]
    exact added
  | delete id => exact ⟨_, _, delete_taken hm hc⟩

/-- A work that fails changes nothing. -/
theorem work_refused (hm : m.closed = false) {w : Work} {e : Failure}
    (hw : w.fault? m.faults = some e) :
    w.run m = (.error e, m) := by
  cases w with
  | change c | silent c =>
    simp only [Work.fault?] at hw
    split at hw
    · next hc =>
      obtain rfl := Option.some.inj hw
      exact Call.map_of_error _ (change_refused hm hc)
    · cases hw
  | _ => cases hw

theorem work_taken (hm : m.closed = false) {w : Work}
    (hw : w.fault? m.faults = none) :
    ∃ output stamp events, w.run m
        = (.ok output,
          { m with staged := w.effect m.staged, stamp := stamp, events := events })
      ∧ output.unstamped = w.output := by
  have unfaulted {c : Change} (h : (if m.faults.documents.contains c.id then
      some (documentFault c.id) else none) = none) :
      m.faults.documents.contains c.id = false := by
    split at h
    · cases h
    · next hc => exact Bool.not_eq_true _ ▸ hc
  cases w with
  | change c =>
    obtain ⟨stamp, events, taken⟩ := change_taken hm (unfaulted hw)
    exact ⟨.stamp stamp, stamp, events, Call.map_of_ok _ taken, rfl⟩
  | silent c =>
    obtain ⟨stamp, events, taken⟩ := change_taken hm (unfaulted hw)
    exact ⟨.unit, stamp, events, Call.map_of_ok _ taken, rfl⟩
  | purge =>
    exact ⟨_, _, _, Call.map_of_ok _ (deleteAll_taken hm), rfl⟩
  | flush | refresh => exact ⟨_, m.stamp, m.events, rfl, rfl⟩

/-! ## Commits, refreshes and the close -/

theorem commit_faulty (hm : m.closed = false) {n : Nat}
    (hn : m.faults.commits = n + 1) :
    Engine.commit m
      = (.error (injected "commit failure"), { m with faults.commits := n }) := by
  show Memory.commit m = _
  simp only [Memory.commit, whileOpen, hm, hn, Bool.false_eq_true, if_false]

theorem commit_sound (hm : m.closed = false) (hn : m.faults.commits = 0) :
    Engine.commit m
      = (.ok (m.stamp + 1),
          { m with
            committed := m.staged
            stamp := m.stamp + 1
            events := m.events ++ [.commit] }) := by
  show Memory.commit m = _
  simp only [Memory.commit, whileOpen, hm, hn, Bool.false_eq_true, if_false, stamped]

/-- A commit stages nothing, and makes all that is staged durable unless it
fails. -/
theorem commit_cases (hm : m.closed = false) :
    (∃ stamp m', Engine.commit m = (.ok stamp, m') ∧ m'.committed = m.staged
        ∧ m'.staged = m.staged ∧ m'.closed = false)
      ∨ ∃ e m', Engine.commit m = (.error e, m') ∧ m'.staged = m.staged
        ∧ m'.closed = false := by
  cases hn : m.faults.commits with
  | zero => exact .inl ⟨_, _, commit_sound hm hn, rfl, rfl, hm⟩
  | succ n => exact .inr ⟨_, _, commit_faulty hm hn, rfl, hm⟩

theorem refresh_sound (hm : m.closed = false) (hr : m.faults.refresh = false) :
    Engine.refresh m
      = (.ok (),
        { m with visible := m.committed, events := m.events ++ [.refresh] }) := by
  show Memory.refresh m = _
  simp only [Memory.refresh, whileOpen, hm, hr, Bool.false_eq_true, if_false]

/-- A refresh has no part in what is staged and committed, whether it fails or
not. -/
theorem refresh_durable (m : Memory) :
    (Engine.refresh m).2.staged = m.staged ∧ (Engine.refresh m).2.committed = m.committed
      ∧ (Engine.refresh m).2.closed = m.closed := by
  show (Memory.refresh m).2.staged = _ ∧ (Memory.refresh m).2.committed = _
    ∧ (Memory.refresh m).2.closed = _
  simp only [Memory.refresh, whileOpen]
  split
  · exact ⟨rfl, rfl, rfl⟩
  · split <;> exact ⟨rfl, rfl, rfl⟩

theorem close_cases (hm : m.closed = false) :
    (∃ e, Engine.close m = (.error e, { m with closed := true }))
      ∨ Engine.close m
        = (.ok (),
          { m with closed := true, staged := m.committed, events := m.events ++ [.close] }) := by
  show (∃ e, Memory.close m = _) ∨ Memory.close m = _
  simp only [Memory.close, whileOpen, hm, Bool.false_eq_true, if_false]
  split
  · exact .inl ⟨_, rfl⟩
  · exact .inr rfl

/-- A close neither commits nor takes back what is committed. -/
theorem close_durable (m : Memory) :
    (Engine.close m).2.committed = m.committed
      ∧ (Engine.close m).2.visible = m.visible := by
  show (Memory.close m).2.committed = _ ∧ (Memory.close m).2.visible = _
  simp only [Memory.close, whileOpen]
  split
  · exact ⟨rfl, rfl⟩
  · split <;> exact ⟨rfl, rfl⟩

end Engine.Memory

end WritePath
