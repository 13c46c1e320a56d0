import WritePath.Proofs.Queue.Endings
import WritePath.Proofs.Workset.Conclusion

/-!
# The order of the calls

The worker makes the calls of the processor in their order
(`never_out_of_order`).  That follows from `Tidy`, which says for every place of
the worker what is open there: each of the three steps that make calls has its
own lemma, with the step that is left when nothing is refused.

The second half is about the time.  `Since` says what has happened since the
worker has last committed because of it: something is pending only if there has
been a batch, with a workset in it.
-/

namespace WritePath.Queue

variable {ε : Type} [Engine ε]

/-! ## What the worker calls -/

section Tidy

variable {h : History} {q : Queue ε}

omit [Engine ε] in
theorem Tidy.idle (t : Tidy h q) : q.phase = .waiting → q.processor.Idle := by
  intro hp
  exact ⟨by rw [t.batchOpen, hp]; rfl, t.workset⟩

theorem Tidy.begins (t : Tidy h q) {first : Entry} {rest : List Entry} :
    q.phase = .waiting → q.entries = first :: rest →
      q.step?
        = some { q with
            processor := { q.processor with batchOpen := true }
            entries := rest
            phase := .running first 0 } := by
  intro hp he
  simp only [step?, hp, he]
  exact congrArg some
    (beginBatch_received (q := { q with entries := rest, phase := .waiting })
      (t.idle hp).batchOpen)

/-- The worker runs a workset: the processor takes all its calls, and there is a
value for the submitter unless a work has failed. -/
theorem Tidy.taken (t : Tidy h q) {e : Entry} {count : Nat} {w : Workset} :
    q.phase = .running e count → e.job = .workset w →
      ∃ outcomes p o told ended,
        Workset.attempt w.strategies w.works q.processor = (.ok outcomes, p)
          ∧ Workset.Submitted w outcomes p o
          ∧ p.afterWorkset q.now e.listening (w.answer outcomes) = ⟨.ok (), some told, ended⟩
          ∧ q.step?
            = some
              ({ q with processor := ended, phase := .drawing (count + 1) }.tell [e] told) := by
  intro hp hj
  obtain ⟨outcomes, p, o, attempted, submitted⟩ := Workset.exists_submitted w t.workset
  have run := Workset.run_eq q.now e.listening attempted
  obtain ⟨called, told, answered⟩ := Workset.run_taken q.now e.listening w t.workset
  rw [run] at called answered
  refine ⟨outcomes, p, o, told, _, attempted, submitted,
    show _ = Settled.mk (.ok ()) (some told) _ by rw [← called, ← answered], ?_⟩
  simp only [step?, hp, runEntry_workset hj, runWorkset, run, called, answered, noteRejected,
    Option.getD_some]
  rfl

theorem Tidy.ends (t : Tidy h q) {count : Nat} :
    q.phase = .ending count →
      ∃ p, Processor.endBatch q.now
          (q.note .trace
            ("Ran " ++ toString count ++ " work set(s) on " ++ q.index.label)).processor
          = (.ok (), p)
        ∧ p.Idle ∧ q.step? = some { q with processor := p, phase := .waiting } := by
  intro hp
  let noted := q.note .trace ("Ran " ++ toString count ++ " work set(s) on " ++ q.index.label)
  have batchOpen : noted.processor.batchOpen = true := by
    show q.processor.batchOpen = true
    rw [t.batchOpen, hp]
    rfl
  have taken := Processor.endBatch_open q.now batchOpen t.workset
  have idle := Processor.endBatch_idle q.now batchOpen t.workset
  rw [taken] at idle
  refine ⟨_, taken, idle, ?_⟩
  have taken : Processor.endBatch noted.now noted.processor = _ := taken
  simp only [step?, hp, endBatch]
  rw [taken]
  rfl

theorem Tidy.not_refused (t : Tidy h q) {q' : Queue ε} {a : Event} (st : Step q a q')
    (s : Submission) : a ≠ .spurned s ∧ a ≠ .rejected s := by
  constructor
  all_goals
    rintro rfl
    cases st
  · next hp _ hb =>
    rw [(t.idle hp).batchOpen] at hb
    cases hb
  · next hw =>
    rw [t.workset] at hw
    cases hw

end Tidy

/-! ## Waiting for a first job -/

section Waiting

variable {q : Queue ε}

omit [Engine ε] in
theorem pendingDelay_le {p : Processor ε} {now delay : Nat} :
    p.pendingDelay now = some delay → delay ≤ p.interval := by
  unfold Processor.pendingDelay
  cases p.pending <;> cases p.lastCommit <;> simp <;> omega

theorem commitPending_clear (now : Nat) (p : Processor ε) :
    (p.commitPending now).pending = false := by
  unfold Processor.commitPending
  split
  · have clear := Processor.pending_commitNow now p
    rcases hc : Processor.commitNow now p with ⟨e | _, p'⟩ <;> rw [hc] at clear <;> exact clear
  · next hp => exact Bool.not_eq_true _ ▸ hp

/-- A worker that waits with something pending does not wait longer than the
delay. -/
theorem idle_commits {delay ms : Nat} :
    q.phase = .waiting → q.entries = [] → q.processor.pendingDelay q.now = some delay →
      delay ≤ ms → (q.idle ms).processor.pending = false := by
  intro hp he hd le
  have settled : q.settle = q := by
    simp [settle, load, hp, he, steps]
  have delayed : (q.renew.spend).processor.pendingDelay (q.renew.spend).now = some delay := hd
  have waiting : (q.renew.spend).phase = .waiting := hp
  simp only [idle, settled, waiting, delayed, if_pos le]
  exact commitPending_clear ..

end Waiting

/-- What has happened since nothing was pending and no batch open. -/
def Since (h : History) (phase : Phase) (pending : Bool) : Prop :=
  match phase with
  | .waiting => pending = true →
      ∃ s ticket w now now', [.received s, .ran ticket w now, .ended now'].Sublist h
  | .running _ _ => ∃ s, [.received s].Sublist h
  | .drawing _ | .ending _ => ∃ s ticket w now, [.received s, .ran ticket w now].Sublist h
  | .crashed | .closed => True

theorem Since.snoc {h : History} {phase : Phase} {pending : Bool} (s : Since h phase pending)
    (a : Event) : Since (h ++ [a]) phase pending := by
  have more : h.Sublist (h ++ [a]) := List.sublist_append_left h [a]
  cases phase with
  | waiting =>
    intro hd
    obtain ⟨s, ticket, w, now, now', seen⟩ := s hd
    exact ⟨s, ticket, w, now, now', seen.trans more⟩
  | running e count =>
    obtain ⟨s, seen⟩ := s
    exact ⟨s, seen.trans more⟩
  | drawing count | ending count =>
    obtain ⟨s, ticket, w, now, seen⟩ := s
    exact ⟨s, ticket, w, now, seen.trans more⟩
  | crashed | closed => trivial

theorem Since.deafen {h : History} {phase : Phase} {pending : Bool} (s : Since h phase pending)
    (ticket : Nat) : Since h (phase.deafen ticket) pending := by
  cases phase <;> exact s

theorem Since.step {h h' : History} {q q' : Queue ε} {a : Event}
    (s : Since h q.phase q.processor.pending) (t : Tidy h' q) (st : Step q a q') :
    Since (h ++ [a]) q'.phase q'.processor.pending := by
  have refused := t.not_refused st
  cases st with
  | arrive | enter | refuse | withdraw | pass | stop => exact s.snoc _
  | deafen ticket => exact (s.deafen ticket).snoc _
  | spurn => exact absurd rfl (refused _).1
  | reject => exact absurd rfl (refused _).2
  | @receive first rest hp he hb => exact ⟨first.submission, List.sublist_append_right h _⟩
  | @run e count w hp hj =>
    rw [hp] at s
    obtain ⟨s, seen⟩ := s
    exact ⟨s, e.ticket, w, q.now, seen.append_right _⟩
  | crash => trivial
  | draw hp he hc =>
    rw [hp] at s
    obtain ⟨s, ticket, w, now, seen⟩ := s
    have received : [Event.received s].Sublist [.received s, .ran ticket w now] :=
      List.sublist_append_left [Event.received s] [Event.ran ticket w now]
    exact ⟨s, (received.trans seen).trans (List.sublist_append_left h _)⟩
  | @drain count hp he =>
    rw [hp] at s
    have ending : Since h (.ending count) q.processor.pending := s
    exact ending.snoc _
  | @endBatch count hp =>
    rw [hp] at s
    obtain ⟨s, ticket, w, now, seen⟩ := s
    rw [phase_endBatch]
    exact fun _ => ⟨s, ticket, w, now, q.now, seen.append_right _⟩
  | expire hp hd =>
    show Since _ q.phase _
    rw [hp]
    intro pending
    rw [show q.expire.processor.pending = false from commitPending_clear ..] at pending
    cases pending
  | finish => trivial

section Run

variable {p : Processor ε} {size : Nat} {h : History} {q : Queue ε}

theorem Run.not_refused (idle : p.Idle) (r : Run (Queue.start p size) h q) (s : Submission) :
    Event.spurned s ∉ h ∧ Event.rejected s ∉ h := by
  refine r.invariant (P := fun h _ => Event.spurned s ∉ h ∧ Event.rejected s ∉ h)
    ⟨List.not_mem_nil, List.not_mem_nil⟩ ?_
  intro h a q₁ q₂ r ih st
  obtain ⟨spurned, rejected⟩ := (Tidy.of_run idle r).not_refused st s
  simp only [List.mem_append, List.mem_singleton, not_or]
  exact ⟨⟨ih.1, spurned.symm⟩, ih.2, rejected.symm⟩

theorem Run.last {q q' : Queue ε} {l h : History} {a : Event} (r : Run q l q') :
    l = h ++ [a] → ∃ q₁, Run q h q₁ ∧ Step q₁ a q' := by
  intro hl
  cases r with
  | start => simp at hl
  | snoc r st =>
    obtain ⟨rfl, ha⟩ := List.append_inj' hl rfl
    obtain rfl := List.singleton_inj.mp ha
    exact ⟨_, r, st⟩

/-- When the worker has committed because of the time, nothing is pending. -/
theorem Run.after_expired {q q' : Queue ε} (r : Run q h q') {before : History} {now : Nat} :
    h = before ++ [.expired now] → q'.phase = .waiting ∧ q'.processor.pending = false := by
  intro hh
  obtain ⟨q₁, -, st⟩ := r.last hh
  cases st with
  | expire hp hd => exact ⟨hp, commitPending_clear ..⟩

/-- Between two commits because of the time there is a batch with a workset. -/
theorem Run.between_expired (idle : p.Idle) (r : Run (Queue.start p size) h q)
    {before between after : History} {t t' : Nat} :
    h = before ++ .expired t :: between ++ .expired t' :: after →
      ∃ s ticket w now now', [.received s, .ran ticket w now, .ended now'].Sublist between := by
  intro hh
  -- the run is cut before the second commit, and then before it and behind the first one
  obtain ⟨q₂, r₂, rest⟩ := r.split hh
  obtain ⟨q₃, expired, -⟩ := rest.split (show _ = [Event.expired t'] ++ after from rfl)
  obtain ⟨q₁, r₁, r₁₂⟩ := r₂.split (show _ = (before ++ [Event.expired t]) ++ between by simp)
  obtain ⟨waiting, clear⟩ := r₁.after_expired rfl
  have since : Since between q₂.phase q₂.processor.pending := by
    refine r₁₂.invariant (P := fun l q => Since l q.phase q.processor.pending) ?_ ?_
    · simp [Since, waiting, clear]
    · intro l a q q' r s st
      exact s.step (Tidy.of_run idle (r₁.append r)) st
  obtain ⟨q₂', begun, st⟩ := expired.last (show _ = [] ++ [Event.expired t'] from rfl)
  generalize hl : ([] : History) = l at begun
  cases begun with
  | start =>
    cases st with
    | expire hp hd =>
      rw [hp] at since
      exact since hd
  | snoc => simp at hl

/-- **The order of the calls.**  However the jobs, the steps and the time follow
each other, no call that the worker makes of its processor is out of order.

* At the top of its loop no batch and no workset is open, so it can begin a
  batch.
* The processor takes every call of a workset; if no work has failed there is
  an answer, and a single work has one only then.
* It can end its batches.
* It waits for ever only with nothing pending, and never longer than the delay
  otherwise.
* After it has committed because of the time nothing is pending, and until it
  does so again there is a batch with a workset. -/
theorem never_out_of_order :
    p.Idle → Run (Queue.start p size) h q →
      (q.phase = .waiting →
        q.processor.Idle
          ∧ Processor.beginBatch q.processor = (.ok (), { q.processor with batchOpen := true })
          ∧ (∀ first rest, q.entries = first :: rest →
            q.step?
              = some { q with
                  processor := { q.processor with batchOpen := true }
                  entries := rest
                  phase := .running first 0 })
          ∧ (q.processor.pendingDelay q.now = none ↔ q.processor.pending = false)
          ∧ ∀ delay, q.processor.pendingDelay q.now = some delay →
            delay ≤ q.processor.interval
              ∧ ∀ ms, q.entries = [] → delay ≤ ms → (q.idle ms).processor.pending = false)
      ∧ (∀ e count w, q.phase = .running e count → e.job = .workset w →
        ∃ outcomes p' o told ended,
          Workset.attempt w.strategies w.works q.processor = (.ok outcomes, p')
            ∧ p'.workset = some o
            ∧ (o.report = none → ∃ v, w.answer outcomes = some v)
            ∧ (∀ work, w.content = .single work → w.answer outcomes ≠ none → o.report = none)
            ∧ p'.afterWorkset q.now e.listening (w.answer outcomes) = ⟨.ok (), some told, ended⟩
            ∧ q.step?
              = some
                ({ q with processor := ended, phase := .drawing (count + 1) }.tell [e] told))
      ∧ (∀ count, q.phase = .ending count →
        ∃ p', Processor.endBatch q.now
            (q.note .trace
              ("Ran " ++ toString count ++ " work set(s) on " ++ q.index.label)).processor
            = (.ok (), p')
          ∧ p'.Idle ∧ q.step? = some { q with processor := p', phase := .waiting })
      ∧ (∀ s, Event.spurned s ∉ h ∧ Event.rejected s ∉ h)
      ∧ (∀ before now, h = before ++ [.expired now] →
        q.phase = .waiting ∧ q.processor.pending = false)
      ∧ ∀ before now between now' after,
        h = before ++ .expired now :: between ++ .expired now' :: after →
          ∃ s ticket w ran ended,
            [.received s, .ran ticket w ran, .ended ended].Sublist between := by
  intro idle r
  have t := Tidy.of_run idle r
  refine ⟨fun hp => ?waiting, fun e count w hp hj => ?running, fun count hp => t.ends hp,
    r.not_refused idle, fun _ _ hh => r.after_expired hh,
    fun _ _ _ _ _ hh => r.between_expired idle hh⟩
  case waiting =>
    refine ⟨t.idle hp, ?_, fun first rest he => t.begins hp he, Processor.pendingDelay_eq_none_iff,
      fun delay hd => ⟨pendingDelay_le hd, fun ms he le => idle_commits hp he hd le⟩⟩
    simp [Processor.beginBatch, (t.idle hp).batchOpen]
  case running =>
    obtain ⟨outcomes, p', o, told, ended, attempted, submitted, answered, next⟩ := t.taken hp hj
    exact ⟨outcomes, p', o, told, ended, attempted, submitted.workset, submitted.answer,
      submitted.single, answered, next⟩

end Run

/-- Something is pending in the beginning.  The worker commits it, runs a batch,
and commits again. -/
theorem never_out_of_order_of_two_commits :
    let p : Processor Engine.Memory :=
      { index := ⟨"books"⟩
        engine := {}
        journal := { handling := .collecting }
        interval := 1000
        pending := true }
    ∃ batch now q, Run (start p 1) ([.expired 0] ++ batch ++ [.expired now]) q
      ∧ (∃ s ticket w ran ended, [.received s, .ran ticket w ran, .ended ended].Sublist batch)
      ∧ q.processor.Idle ∧ q.processor.pending = false := by
  intro p
  have expired := Run.single (q := start p 1) (.expire rfl rfl)
  have received :=
    (((Run.start (start p 1).expire).snoc
    (.arrive (.workset { content := .single .flush }) rfl)).snoc
    (.enter (show _ = [] ++ _ :: [] from rfl) rfl (by decide))).snoc (.receive rfl rfl rfl)
  have ended := ((received.snoc (.run rfl rfl)).snoc (.drain rfl (.inl rfl))).snoc (.endBatch rfl)
  obtain ⟨batch, q, r, waiting, pending⟩ : ∃ batch q, Run (start p 1).expire batch q
      ∧ q.phase = .waiting ∧ q.processor.pending = true :=
    ⟨_, _, ended, phase_endBatch .., rfl⟩
  have again := (expired.append r).snoc (.expire waiting pending)
  obtain ⟨atRest, -, -, -, clear, between⟩ := never_out_of_order ⟨rfl, rfl⟩ again
  obtain ⟨waiting, clear⟩ := clear _ _ rfl
  exact ⟨batch, q.now, _, again, between [] 0 batch q.now [] rfl, (atRest waiting).1, clear⟩

end WritePath.Queue
