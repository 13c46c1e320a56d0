import WritePath.Manager

/-!
# Settings that can be opened

The check of settings looks at the buffer of the writer from below: it asks for
the least buffer of a thread, once for each thread (`check_ok_iff`).  Opening an
index looks at the share of one thread, and from both sides.  From below the two
agree (`leastBuffer_le_share`).  From above the check does not look, neither at
the share nor at the size of the queue, and so there are settings that pass it and
cannot be opened: in memory these are exactly those whose threads get too large a
share, or whose queue is too large (`valid_opens_iff`).
-/

namespace WritePath

namespace Settings

/-- The part of the buffer that one thread gets, in bytes. -/
def share (s : Settings) : Nat :=
  s.writerBufferSize.toNat / s.writerThreads.toNat

/-- What settings have to be like to pass the check.  That the product with the
least buffer must be a number of sixty-four bits is not a condition of its own: the
buffer is one. -/
theorem check_ok_iff (s : Settings) :
    s.check = .ok ()
      ↔ Text.isBlank s.name = false ∧ s.queueSize ≠ 0 ∧ s.writerThreads ≠ 0
        ∧ leastBuffer * s.writerThreads.toNat ≤ s.writerBufferSize.toNat := by
  have bound : s.writerBufferSize.toNat < UInt64.size := s.writerBufferSize.toNat_lt
  unfold check
  dsimp only
  constructor
  · intro passed
    split at passed
    · cases passed
    · next named =>
      split at passed
      · cases passed
      · next queue =>
        split at passed
        · cases passed
        · next threads =>
          split at passed
          · cases passed
          · split at passed
            · cases passed
            · next enough =>
              exact ⟨Bool.not_eq_true _ ▸ named, queue, threads, Nat.not_lt.mp enough⟩
  · rintro ⟨named, queue, threads, enough⟩
    have small : ¬ UInt64.size ≤ leastBuffer * s.writerThreads.toNat := by omega
    rw [if_neg (by simp [named]), if_neg queue, if_neg threads, if_neg small,
      if_neg (Nat.not_lt.mpr enough)]

theorem toNat_threads_pos {s : Settings} (threads : s.writerThreads ≠ 0) :
    0 < s.writerThreads.toNat := by
  refine Nat.pos_of_ne_zero fun none => threads ?_
  exact UInt64.toNat_inj.mp none

/-- Settings that pass the check give every thread the least buffer. -/
theorem leastBuffer_le_share {s : Settings} : s.check = .ok () → leastBuffer ≤ s.share := by
  intro valid
  obtain ⟨-, -, threads, enough⟩ := s.check_ok_iff.mp valid
  exact (Nat.le_div_iff_mul_le (toNat_threads_pos threads)).mpr enough

end Settings

namespace Opening

theorem hasBuffer_iff (s : Settings) :
    hasBuffer s = true ↔ Settings.leastBuffer ≤ s.share ∧ s.share < excessiveBuffer := by
  simp [hasBuffer, Settings.share]

/-- Of settings that pass the check, the engine refuses those with too large a
share. -/
theorem hasBuffer_of_check {s : Settings} (valid : s.check = .ok ()) :
    hasBuffer s = decide (s.share < excessiveBuffer) := by
  have least := Settings.leastBuffer_le_share valid
  rw [Bool.eq_iff_iff, hasBuffer_iff, decide_eq_true_iff]
  exact and_iff_right least

end Opening

namespace Manager

variable {s : Settings} (handling : Handling) (d : Disk)

def newEngine : Engine.Lodged :=
  { lists := .opened [] Schema.own.rules }

theorem openIndex_memory (memory : s.indexPath = none) (valid : s.check = .ok ()) :
    openIndex s handling d
      = if s.share < Opening.excessiveBuffer then
          if s.queueSize.toNat ≤ Queue.greatestSize then
            (.done (start s handling [] newEngine), d, [])
          else (.panicked, d, [])
        else (.failed Opening.Fault.noWriter.failure, d, []) := by
  have buffer := Opening.hasBuffer_of_check valid
  simp only [openIndex, valid, Opening.run, memory, Opening.inMemory, buffer, decide_eq_true_eq]
  by_cases share : s.share < Opening.excessiveBuffer
  · simp only [share, if_true]
    rfl
  · simp only [share, if_false]

/-- **Which valid settings can be opened.**  Settings without a path that pass the
check can be opened exactly if no thread gets a share of the buffer of 4,293,967,295
bytes or more and the queue has a size that is possible.  The index is new and
empty then.  A share that is too large is refused by the engine; a queue that is too
large, with a share that is not, is a panic.  In any case nothing has become of the
disk. -/
theorem valid_opens_iff (memory : s.indexPath = none) (valid : s.check = .ok ()) :
    ((∃ m, (openIndex s handling d).1 = .done m)
        ↔ s.share < 4293967295 ∧ s.queueSize.toNat ≤ 2305843009213693951)
      ∧ (∀ m, (openIndex s handling d).1 = .done m → Searchable.shown m.engine = [])
      ∧ (∀ e, (openIndex s handling d).1 = .failed e
        ↔ 4293967295 ≤ s.share ∧ e = Opening.Fault.noWriter.failure)
      ∧ ((openIndex s handling d).1 = .panicked
        ↔ s.share < 4293967295 ∧ 2305843009213693951 < s.queueSize.toNat)
      ∧ (openIndex s handling d).2.1 = d := by
  have excessive : Opening.excessiveBuffer = 4293967295 := rfl
  have greatest : Queue.greatestSize = 2305843009213693951 := rfl
  rw [openIndex_memory handling d memory valid, excessive, greatest]
  by_cases share : s.share < 4293967295
  · by_cases queue : s.queueSize.toNat ≤ 2305843009213693951
    · rw [if_pos share, if_pos queue]
      refine ⟨⟨fun _ => ⟨share, queue⟩, fun _ => ⟨_, rfl⟩⟩, ?empty, ?failed, ?panicked, rfl⟩
      case empty =>
        rintro m ⟨⟩
        rfl
      case failed => exact fun e => ⟨by rintro ⟨⟩, fun h => absurd share (Nat.not_lt.mpr h.1)⟩
      case panicked => exact ⟨by rintro ⟨⟩, fun h => absurd queue (Nat.not_le.mpr h.2)⟩
    · rw [if_pos share, if_neg queue]
      refine ⟨⟨by rintro ⟨m, ⟨⟩⟩, fun h => absurd h.2 queue⟩, by rintro m ⟨⟩, ?failed, ?panicked, rfl⟩
      case failed => exact fun e => ⟨by rintro ⟨⟩, fun h => absurd share (Nat.not_lt.mpr h.1)⟩
      case panicked => exact ⟨fun _ => ⟨share, Nat.not_le.mp queue⟩, fun _ => rfl⟩
  · rw [if_neg share]
    refine ⟨⟨by rintro ⟨m, ⟨⟩⟩, fun h => absurd h.1 share⟩, by rintro m ⟨⟩, ?failed, ?panicked, rfl⟩
    case failed =>
      refine fun e => ⟨?_, fun h => by rw [h.2]⟩
      rintro ⟨⟩
      exact ⟨Nat.not_lt.mp share, rfl⟩
    case panicked => exact ⟨by rintro ⟨⟩, fun h => absurd h.1 share⟩

theorem valid_opens_iff_of_default :
    Settings.check {} = .ok () ∧ ∃ m, (openIndex {} .collecting {}).1 = .done m := by
  have valid : Settings.check {} = .ok () :=
    (Settings.check_ok_iff {}).mpr ⟨by decide, by decide, by decide, by decide⟩
  exact ⟨valid, (valid_opens_iff .collecting {} rfl valid).1.mpr ⟨by decide, by decide⟩⟩

/-- One byte too many for the only thread, or one workset too many for the queue:
either way the settings pass the check and cannot be opened. -/
theorem valid_but_refused :
    let vast : Settings := { writerBufferSize := 4293967295 }
    let long : Settings := { queueSize := 2305843009213693952 }
    (vast.check = .ok ()
        ∧ (openIndex vast .collecting {}).1 = .failed Opening.Fault.noWriter.failure)
      ∧ long.check = .ok () ∧ (openIndex long .collecting {}).1 = .panicked := by
  intro vast long
  have valid : vast.check = .ok () :=
    (Settings.check_ok_iff vast).mpr ⟨by decide, by decide, by decide, by decide⟩
  have valid' : long.check = .ok () :=
    (Settings.check_ok_iff long).mpr ⟨by decide, by decide, by decide, by decide⟩
  refine ⟨⟨valid, ?_⟩, valid', ?_⟩
  · rw [openIndex_memory .collecting {} rfl valid, if_neg (by decide)]
  · rw [openIndex_memory .collecting {} rfl valid', if_pos (by decide), if_neg (by decide)]

end Manager

end WritePath
