import WritePath.Proofs.CommandLine.Import

/-!
# The lines of a file

A file is read as a whole before anything is written.  If one of its lines that
are not blank is no document, the first such line is the failure, with its number,
and nobody is told to write anything: the manager is left to itself for as long as
it takes to read the file, and that is all (`run_bad_line`).  Otherwise the
documents of the lines are all taken, in their order.

A text that ends with its last line can be put in front of another one: the lines
of the one are followed by those of the other, and so are the documents; only the
lines of the second one have other numbers then.
-/

namespace WritePath

namespace Text

/-! ## Texts one after the other -/

/-- What follows the text begins a new line. -/
def EndsLine (s : String) : Prop :=
  s = "" ∨ ∃ t, s = t ++ "\n"

theorem splitLines_ne_nil (s : List Char) : splitLines s ≠ [] := by
  cases s with
  | nil => nofun
  | cons c rest =>
    rw [splitLines]
    split
    · nofun
    · split <;> nofun

theorem splitLines_append (s t : List Char) :
    splitLines (s ++ '\n' :: t) = splitLines s ++ splitLines t := by
  induction s with
  | nil => simp [splitLines]
  | cons c rest ih =>
    by_cases feed : c = '\n'
    · simp [splitLines, feed, ih]
    · obtain ⟨line, more, cut⟩ := List.exists_cons_of_ne_nil (splitLines_ne_nil rest)
      simp [splitLines, feed, ih, cut]

theorem closeLines_append (parts : List (List Char)) {more : List (List Char)} :
    more ≠ [] → closeLines (parts ++ more) = parts.map dropReturn ++ closeLines more := by
  intro some
  induction parts with
  | nil => rfl
  | cons line rest ih =>
    obtain ⟨next, others, h⟩ : ∃ next others, rest ++ more = next :: others :=
      List.exists_cons_of_ne_nil (List.append_ne_nil_of_right_ne_nil rest some)
    -- `line` is not the last one
    have ended : closeLines (line :: (rest ++ more))
        = dropReturn line :: closeLines (rest ++ more) := by
      rw [h]
      rfl
    rw [List.cons_append, ended, ih]
    rfl

theorem lines_lineFeed (s t : String) :
    lines (s ++ "\n" ++ t)
      = ((splitLines s.toList).map dropReturn).map String.ofList ++ lines t := by
  have cut : (s ++ "\n" ++ t).toList = s.toList ++ '\n' :: t.toList := by
    simp [String.toList_append]
  rw [lines, cut, splitLines_append, closeLines_append _ (splitLines_ne_nil _), List.map_append]
  rfl

/-- The lines of a text that ends with its last line are those of any text that
begins with it. -/
theorem lines_append {s : String} (ends : EndsLine s) (t : String) :
    lines (s ++ t) = lines s ++ lines t := by
  have none : lines "" = [] := rfl
  obtain rfl | ⟨s, rfl⟩ := ends
  · rw [none, String.empty_append, List.nil_append]
  · have alone := lines_lineFeed s ""
    rw [String.append_empty, none, List.append_nil] at alone
    rw [lines_lineFeed, alone]

end Text

/-- The failure of the same line below a number of others. -/
def CommandFailure.below (above : Nat) : CommandFailure → CommandFailure
  | .invalidDocument path line e => .invalidDocument path (line + above) e
  | .core e => .core e
  | .workset e => .workset e

namespace Import

open Document (LineError)

/-! ## Lines that are no documents -/

/-- The line with a number, counted from zero, is neither blank nor a document. -/
def BadAt (lines : List String) (i : Nat) (e : LineError) : Prop :=
  ∃ line, lines[i]? = some line ∧ Text.isBlank line = false ∧ Document.ofLine line = .error e

/-- So it is, and no line before it is bad. -/
structure FirstBad (lines : List String) (i : Nat) (e : LineError) : Prop where
  bad : BadAt lines i e
  first : ∀ j < i, ∀ e', ¬ BadAt lines j e'

section

variable {path line : String} {number i : Nat} {e : LineError} {lines rest : List String}

theorem badAt_zero :
    BadAt (line :: rest) 0 e ↔ Text.isBlank line = false ∧ Document.ofLine line = .error e := by
  simp [BadAt]

theorem badAt_succ : BadAt (line :: rest) (i + 1) e ↔ BadAt rest i e := by
  simp [BadAt]

theorem BadAt.exists_first (bad : BadAt lines i e) : ∃ j e', FirstBad lines j e' := by
  induction i using Nat.strongRecOn generalizing e with
  | ind i ih =>
    by_cases earlier : ∃ j < i, ∃ e', BadAt lines j e'
    · obtain ⟨j, before, e', bad'⟩ := earlier
      exact ih j before bad'
    · exact ⟨i, e, bad, fun j before e' bad' => earlier ⟨j, before, e', bad'⟩⟩

theorem FirstBad.tail (bad : FirstBad (line :: rest) i e)
    (good : ∀ e', ¬ BadAt (line :: rest) 0 e') : ∃ j, i = j + 1 ∧ FirstBad rest j e := by
  cases i with
  | zero => exact absurd bad.bad (good e)
  | succ j =>
    exact ⟨j, rfl, badAt_succ.mp bad.bad,
      fun k before e' h => bad.first (k + 1) (by omega) e' (badAt_succ.mpr h)⟩

theorem ofLines_bad (bad : FirstBad lines i e) :
    ofLines path number lines = .error (.invalidDocument path (number + i) e.failure) := by
  induction lines generalizing number i with
  | nil =>
    obtain ⟨line, none, -⟩ := bad.bad
    cases none
  | cons line rest ih =>
    by_cases blank : Text.isBlank line = true
    · obtain ⟨j, rfl, bad'⟩ := bad.tail fun e' h => by simp [badAt_zero, blank] at h
      rw [ofLines, if_pos blank, ih bad', Nat.add_right_comm, Nat.add_assoc]
    · rw [ofLines, if_neg blank]
      cases spelled : Document.ofLine line with
      | ok d =>
        obtain ⟨j, rfl, bad'⟩ := bad.tail fun e' h => by simp [badAt_zero, spelled] at h
        simp only [ih bad', Except.map]
        rw [Nat.add_right_comm, Nat.add_assoc]
      | error e' =>
        have here : BadAt (line :: rest) 0 e' :=
          badAt_zero.mpr ⟨by simpa using blank, spelled⟩
        obtain rfl : i = 0 :=
          Nat.eq_zero_of_not_pos fun later => bad.first 0 later e' here
        obtain rfl : e' = e :=
          Except.error.inj (spelled.symm.trans (badAt_zero.mp bad.bad).2)
        rfl

theorem exists_documents (good : ∀ i e, ¬ BadAt lines i e) :
    ∃ docs : List Document,
      (lines.filter fun line => !Text.isBlank line).map Document.ofLine = docs.map .ok := by
  induction lines with
  | nil => exact ⟨[], rfl⟩
  | cons line rest ih =>
    obtain ⟨docs, others⟩ := ih fun i e h => good (i + 1) e (badAt_succ.mpr h)
    cases blank : Text.isBlank line with
    | true => exact ⟨docs, by rw [List.filter_cons_of_neg (by simp [blank]), others]⟩
    | false =>
      cases spelled : Document.ofLine line with
      | error e => exact absurd (badAt_zero.mpr ⟨blank, spelled⟩) (good 0 e)
      | ok d =>
        refine ⟨d :: docs, ?_⟩
        rw [List.filter_cons_of_pos (by simp [blank]), List.map_cons, spelled, others]
        rfl

/-! ## Lines one after the other -/

theorem ofLines_append (path : String) (number : Nat) (lines more : List String) :
    ofLines path number (lines ++ more)
      = (ofLines path number lines).bind fun docs =>
          (ofLines path (number + lines.length) more).map (docs ++ ·) := by
  induction lines generalizing number with
  | nil =>
    show ofLines path number more = (ofLines path number more).map ([] ++ ·)
    cases ofLines path number more <;> rfl
  | cons line rest ih =>
    have count : number + (line :: rest).length = number + 1 + rest.length := by
      rw [List.length_cons]
      omega
    rw [List.cons_append, ofLines, ofLines, count, ih]
    split
    · rfl
    · split
      · rfl
      · -- the first document comes before all others
        cases ofLines path (number + 1) rest with
        | error f => rfl
        | ok docs => cases ofLines path (number + 1 + rest.length) more <;> rfl

theorem ofLines_below (path : String) (number above : Nat) (lines : List String) :
    ofLines path (number + above) lines
      = (ofLines path number lines).mapError (CommandFailure.below above) := by
  induction lines generalizing number with
  | nil => rfl
  | cons line rest ih =>
    rw [ofLines, ofLines, Nat.add_right_comm, ih]
    split
    · rfl
    · split
      · rfl
      · cases ofLines path (number + 1) rest <;> rfl

theorem documents_append {a : String} (ends : Text.EndsLine a) (path b : String) :
    documents path (a ++ b) = do
      let docs ← documents path a
      let more ← (documents path b).mapError (CommandFailure.below (Text.lines a).length)
      return docs ++ more := by
  unfold documents
  rw [Text.lines_append ends, ofLines_append, ofLines_below]
  cases ofLines path 1 (Text.lines a) with
  | error f => rfl
  | ok docs => cases ofLines path 1 (Text.lines b) <;> rfl

end

/-! ## A file with a bad line -/

variable {ε : Type} [Searchable ε]

/-- **A bad line.**  The file can be read.

* If one of its lines is neither blank nor a document, the import fails with the
  first such line, with its number, blank lines counted, and with what is wrong
  with it.  The manager is left to itself while the file is read, whatever the
  length of the parts: nobody submits anything meanwhile.  If the queue is at rest
  and no commit is due, everything is as it was; if a commit is due, it takes
  place.
* Otherwise the documents are those of the lines that are not blank, in their
  order.
* The documents of a text that ends with its last line and of a second one are
  those of the two texts one after the other; the lines of the second one have
  their numbers below those of the first one. -/
theorem run_bad_line {path content : String} {d : Disk} (read : d.readText path = .ok content) :
    let lines := Text.lines content
    ((∃ j e', BadAt lines j e') → ∃ i e, FirstBad lines i e
        ∧ documents path content = .error (.invalidDocument path (i + 1) e.failure)
        ∧ ∀ (batchSize : Nat) (m : Manager ε),
            run path batchSize d m
                = (.error (.invalidDocument path (i + 1) e.failure), m.pause)
              ∧ (∃ h, Queue.Run m.queue h m.pause.queue ∧ h.arrivals = [])
              ∧ (Queue.AtRest m.queue →
                  let p := m.queue.processor
                  let due := p.pendingDelay m.queue.now = some 0
                  (¬ due → m.pause = { m with queue.credit := Queue.fullCredit - 1 })
                    ∧ (due → m.pause = { m with
                        queue.processor := p.commitPending m.queue.now
                        queue.credit := Queue.fullCredit - 1 })))
      ∧ ((∀ j e', ¬ BadAt lines j e') → ∃ docs, documents path content = .ok docs
          ∧ (lines.filter fun line => !Text.isBlank line).map Document.ofLine = docs.map .ok)
      ∧ ∀ a b, Text.EndsLine a → documents path (a ++ b) = do
          let docs ← documents path a
          let more ← (documents path b).mapError (CommandFailure.below (Text.lines a).length)
          return docs ++ more := by
  intro lines
  refine ⟨?bad, fun good => ?good, fun a b ends => documents_append ends path b⟩
  case bad =>
    rintro ⟨j, e', bad⟩
    obtain ⟨i, e, first⟩ := bad.exists_first
    have failed : documents path content = .error (.invalidDocument path (i + 1) e.failure) := by
      rw [documents, ofLines_bad first, Nat.add_comm]
    refine ⟨i, e, first, failed, fun batchSize m => ⟨?_, ?_, fun rest => ⟨?_, ?_⟩⟩⟩
    · simp only [run, read, failed]
    · exact Queue.exists_idle m.queue 0
    · intro waits
      rw [Manager.pause, Queue.idle_notDue rest waits]
    · intro due
      rw [Manager.pause, Queue.idle_due rest due]
  case good =>
    obtain ⟨docs, parsed⟩ := exists_documents good
    exact ⟨docs, ofLines_ok 1 parsed, parsed⟩

/-- A document and a blank line, with two ends of lines; then two numbers, the
first of which is what fails. -/
theorem run_bad_line_of_numbers :
    let a := "\x7b\"id\":\"a\"\x7d\r\n \t\n"
    let b := "7\n8"
    let d : Disk := { nodes := [("b", .file (.text (a ++ b)) none)] }
    let m : Manager Engine.Listing := .start {} .collecting [] (.opened [] {})
    run "b" 1 d m
        = (.error (.invalidDocument "b" 3 LineError.notAnObject.failure),
            { m with queue.credit := Queue.fullCredit - 1 })
      ∧ documents "b" (a ++ b) = do
          let docs ← documents "b" a
          let more ← (documents "b" b).mapError (CommandFailure.below 2)
          return docs ++ more := by
  intro a b d m
  obtain ⟨bad, -, append⟩ := run_bad_line (ε := Engine.Listing) (readText_file (a ++ b))
  have lines : Text.lines (a ++ b) = ["\x7b\"id\":\"a\"\x7d", " \t", "7", "8"] := by
    decide +kernel
  have two : (Text.lines a).length = 2 := by decide +kernel
  have third : BadAt (Text.lines (a ++ b)) 2 .notAnObject := by
    rw [lines]
    exact ⟨"7", rfl, by decide, by decide +kernel⟩
  have document : Document.ofLine "\x7b\"id\":\"a\"\x7d" = .ok ⟨"a", []⟩ := by decide +kernel
  have blank : Text.isBlank " \t" = true := by decide
  obtain ⟨i, e, first, -, effects⟩ := bad ⟨2, _, third⟩
  have last : i ≤ 2 := Nat.le_of_not_lt fun later => first.first 2 later _ third
  have here := first.bad
  rw [lines] at here third
  obtain rfl | rfl | rfl : i = 0 ∨ i = 1 ∨ i = 2 := by omega
  · simp [badAt_zero, document] at here
  · simp [badAt_succ, badAt_zero, blank] at here
  · simp only [badAt_succ, badAt_zero] at here third
    obtain rfl := Except.error.inj (here.2.symm.trans third.2)
    obtain ⟨failed, -, same⟩ := effects 1 m
    have rest := (ready_manager {} .collecting [] (.opened [] {})).rest
    have ends : Text.EndsLine a := .inr ⟨"\x7b\"id\":\"a\"\x7d\r\n \t", by decide +kernel⟩
    exact ⟨failed.trans (by rw [(same rest).1 nofun]), two ▸ append a b ends⟩

end Import

end WritePath
