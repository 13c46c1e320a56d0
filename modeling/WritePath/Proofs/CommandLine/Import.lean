import WritePath.Proofs.CommandLine.Pieces

/-!
# Importing a file

The documents of a file are cut into parts of a given length, every part is
submitted as a changeset of updates, and a flush follows.  However long the parts
are, and however the worker takes them into batches, what is committed in the end
is what the updates make of what was committed before (`run_upserts`): every
identifier of the file occurs once, with its last document, and everything else
is as it was.

If documents are refused, a changeset ends with the first one of them, and all
changesets that have such a document are counted as failed.
-/

namespace WritePath.Import

open Engine (Listing)
open Engine.Listing (written upserts besides kept lastOfEach occurrences)

/-! ## The documents of a text -/

theorem ofLines_ok {path : String} {lines : List String} {docs : List Document} (number : Nat) :
    (lines.filter fun line => !Text.isBlank line).map Document.ofLine = docs.map .ok →
      ofLines path number lines = .ok docs := by
  intro parsed
  induction lines generalizing number docs with
  | nil =>
    obtain rfl : docs = [] := by simpa using parsed.symm
    rfl
  | cons line rest ih =>
    by_cases blank : Text.isBlank line = true
    · rw [List.filter_cons_of_neg (by simp [blank])] at parsed
      rw [ofLines, if_pos blank]
      exact ih (number + 1) parsed
    · rw [List.filter_cons_of_pos (by simp [blank]), List.map_cons] at parsed
      cases docs with
      | nil => cases parsed
      | cons d docs =>
        obtain ⟨first, others⟩ := List.cons.inj parsed
        rw [ofLines, if_neg blank, first]
        simp only [ih (number + 1) others, Except.map]

/-! ## The parts of a list -/

section Parts

variable {α : Type} {length fuel : Nat}

theorem length_drop_le (some : 0 < length) {a : α} {rest : List α}
    (enough : (a :: rest).length ≤ fuel + 1) : ((a :: rest).drop length).length ≤ fuel := by
  rw [List.length_drop]
  omega

theorem cut_cons (a : α) (rest : List α) :
    cut length (fuel + 1) (a :: rest)
      = (a :: rest).take length :: cut length fuel ((a :: rest).drop length) :=
  rfl

theorem flatten_cut (some : 0 < length) {l : List α} (enough : l.length ≤ fuel) :
    (cut length fuel l).flatten = l := by
  induction fuel generalizing l with
  | zero =>
    rw [List.eq_nil_of_length_eq_zero (Nat.le_zero.mp enough)]
    rfl
  | succ fuel ih =>
    cases l with
    | nil => rfl
    | cons a rest =>
      rw [cut_cons, List.flatten_cons, ih (length_drop_le some enough), List.take_append_drop]

theorem length_cut (some : 0 < length) {l : List α} (enough : l.length ≤ fuel) :
    (cut length fuel l).length = (l.length + (length - 1)) / length := by
  have none : 0 = (0 + (length - 1)) / length := by
    rw [Nat.zero_add, Nat.div_eq_of_lt (by omega)]
  induction fuel generalizing l with
  | zero =>
    rw [List.eq_nil_of_length_eq_zero (Nat.le_zero.mp enough)]
    exact none
  | succ fuel ih =>
    cases l with
    | nil => exact none
    | cons a rest =>
      have more : (a :: rest).length + (length - 1) = rest.length + length := by
        rw [List.length_cons]
        omega
      rw [cut_cons, List.length_cons, ih (length_drop_le some enough), List.length_drop, more,
        Nat.add_div_right _ some]
      by_cases last : (a :: rest).length ≤ length
      · rw [Nat.sub_eq_zero_of_le last, ← none, Nat.div_eq_of_lt last]
      · congr 2
        simp only [List.length_cons] at last ⊢
        omega

theorem flatten_parts (length : Nat) (l : List α) : (parts length l).flatten = l :=
  flatten_cut (by omega) (Nat.le_refl _)

theorem length_parts (length : Nat) (l : List α) :
    (parts length l).length = (l.length + (max length 1 - 1)) / max length 1 :=
  length_cut (by omega) (Nat.le_refl _)

end Parts

/-! ## The documents that parts leave -/

section Parts

variable (segment : Segment) (receives : Document → Reception)

/-- The documents after the changesets of some parts. -/
def imported (parts : List (List Document)) (docs : List Kept) : List Kept :=
  parts.foldl (fun docs part => written segment receives part docs) docs

theorem imported_cons (part : List Document) (rest : List (List Document)) (docs : List Kept) :
    imported segment receives (part :: rest) docs
      = imported segment receives rest (written segment receives part docs) :=
  rfl

theorem writeAll_import (parts : List (List Document)) (docs : List Kept) :
    Piece.writeAll segment receives (parts.map .part ++ [.flush]) docs
      = imported segment receives parts docs := by
  rw [Piece.writeAll_append, Piece.writeAll, List.foldl_map]
  rfl

variable {receives}

theorem imported_of_taken {parts : List (List Document)}
    (taken : ∀ d ∈ parts.flatten, receives d = .taken) (docs : List Kept) :
    imported segment receives parts docs = upserts segment parts.flatten docs := by
  induction parts generalizing docs with
  | nil => rfl
  | cons part rest ih =>
    rw [List.flatten_cons] at taken ⊢
    have first := Listing.written_of_taken segment
      (fun d hd => taken d (List.mem_append_left _ hd)) docs
    rw [imported_cons, ih (fun d hd => taken d (List.mem_append_right _ hd)), first]
    simp only [upserts, List.foldl_append]

theorem occurrences_imported_le (id : String) (parts : List (List Document)) (docs : List Kept) :
    occurrences id (imported segment receives parts docs) ≤ max 1 (occurrences id docs) := by
  induction parts generalizing docs with
  | nil => exact Nat.le_max_right _ _
  | cons part rest ih =>
    have first : occurrences id (written segment receives part docs) ≤ _ :=
      Listing.occurrences_written_le segment id part docs
    have later := ih (written segment receives part docs)
    rw [imported_cons]
    omega

theorem occurrences_imported_le_one {id : String} {parts : List (List Document)}
    {part : List Document} (mem : part ∈ parts)
    (updated : id ∈ (part.takeWhile fun d => receives d = .taken).map Document.id)
    (docs : List Kept) : occurrences id (imported segment receives parts docs) ≤ 1 := by
  induction parts generalizing docs with
  | nil => cases mem
  | cons first rest ih =>
    rw [imported_cons]
    rcases List.mem_cons.mp mem with rfl | mem
    · have one := Listing.occurrences_written_le_one segment updated docs
      have later : occurrences id
          (imported segment receives rest (written segment receives part docs)) ≤ _ :=
        occurrences_imported_le segment id rest _
      omega
    · exact ih mem _

end Parts

/-! ## One piece after the other -/

/-- The part holds a document that is not taken. -/
def refusing (receives : Document → Reception) (part : List Document) : Bool :=
  part.any fun d => receives d ≠ .taken

def tally (receives : Document → Reception) (batchSize : Nat) (docs : List Document) : Tally where
  documents := docs.length
  changesets := (docs.length + (max batchSize 1 - 1)) / max batchSize 1
  failedChangesets := (parts batchSize docs).countP (refusing receives)

theorem answer_cases (receives : Document → Reception) (part : List Document) :
    (refusing receives part = false ∧ (Piece.part part).answer receives = .ok .unit)
      ∨ (refusing receives part = true ∧ ∃ e, (Piece.part part).answer receives = .error e) := by
  unfold refusing
  simp only [Piece.answer]
  cases first : part.find? fun d => receives d ≠ .taken with
  | none =>
    rw [List.find?_eq_none] at first
    exact .inl ⟨by simpa using first, rfl⟩
  | some d =>
    have refused : (receives d ≠ .taken) := by simpa using List.find?_some first
    have mem := List.mem_of_find?_eq_some first
    exact .inr ⟨List.any_eq_true.mpr ⟨d, mem, by simpa using refused⟩, _, rfl⟩

/-- A manager in the middle of an import. -/
structure Along (o : Listing) (pieces : List Piece) (m : Manager Listing) : Prop where
  ready : m.queue.Ready
  credit : 0 < m.queue.credit
  holds : Holds o pieces m.engine

theorem firstReception_updates {receives : Document → Reception} {docs : List Document}
    (survives : ∀ d ∈ docs, receives d ≠ .fatal) :
    Work.firstReception receives (docs.map fun d => .silent (.update d)) ≠ .fatal := by
  induction docs with
  | nil => nofun
  | cons d rest ih =>
    have first := survives d List.mem_cons_self
    have received : ((Work.silent (.update d)).document?.map receives).getD .taken = receives d :=
      rfl
    rw [List.map_cons, Work.firstReception, received]
    cases hd : receives d with
    | taken => exact ih fun d hd => survives d (List.mem_cons_of_mem _ hd)
    | refused => nofun
    | fatal => exact absurd hd first

theorem job_part {m : Manager Listing} {part : List Document}
    (survives : ∀ d ∈ part, m.engine.rules.receives d ≠ .fatal) :
    m.job (changeset part) = .workset (changeset part) := by
  rw [Manager.job, Job.ofWorkset, if_neg]
  rw [changeset, Listing.works_updates]
  exact firstReception_updates survives

section

variable {o : Listing} (finds : ∀ id d, o.rules.finds id d = (d.id == id))
variable {pieces : List Piece} {m : Manager Listing}

theorem Along.note (along : Along o pieces m) (level : Log.Level) (text : String) :
    Along o pieces (m.note level text) :=
  ⟨along.ready.note level text, along.credit, along.holds⟩

include finds

theorem along_pause (ready : m.queue.Ready) (start : Holds o [] m.engine) :
    Along o [] m.pause := by
  obtain ⟨⟨h, r, none⟩, rest, credit⟩ := Queue.serves_idle ready.rest 0
  have quiet : h.runs.map Prod.snd = List.map (fun x => .workset x.workset) ([] : List Piece) := by
    rw [none]
    rfl
  exact ⟨ready.run r rest, credit, (start.of_run finds ready r (by simp [rest.phase]) quiet).1⟩

theorem Along.submit (along : Along o pieces m) (x : Piece)
    (job : m.job x.workset = .workset x.workset) :
    (m.submit x.workset).1 = x.answer o.rules.receives
      ∧ Along o (pieces ++ [x]) (m.submit x.workset).2 := by
  obtain ⟨⟨h, r, runs⟩, rest, credit⟩ := Queue.serves_submit x.workset along.ready along.credit
  have ready := along.ready.run r rest
  have piece : h.runs.map Prod.snd = [x].map fun x => .workset x.workset := by
    rw [runs]
    rfl
  obtain ⟨holds, told⟩ := along.holds.of_run finds along.ready r (by simp [rest.phase]) piece
  rw [runs] at told
  obtain ⟨mine, -⟩ := List.forall₂_cons.mp told
  obtain ⟨h', l⟩ := ready.ledger
  have answer := Queue.answer?_of_mem l.nodup_told mine
  simp only [Manager.submit, job]
  refine ⟨?_, ready, credit, holds⟩
  rw [Queue.submit_answer, Queue.answer, answer, Option.getD_some]

theorem submitAll_eq (path : String) {parts : List (List Document)} (tally : Tally)
    (along : Along o pieces m) (survives : ∀ d ∈ parts.flatten, o.rules.receives d ≠ .fatal) :
    ∃ m', submitAll path parts tally m
        = ({ tally with
              changesets := tally.changesets + parts.length
              failedChangesets := tally.failedChangesets
                + parts.countP (refusing o.rules.receives) },
            m')
      ∧ Along o (pieces ++ parts.map .part) m' := by
  induction parts generalizing pieces tally m with
  | nil => exact ⟨m, rfl, by simpa using along⟩
  | cons part rest ih =>
    rw [List.flatten_cons] at survives
    have job : m.job (changeset part) = .workset (changeset part) :=
      job_part fun d hd => along.holds.rules ▸ survives d (List.mem_append_left _ hd)
    obtain ⟨answer, next⟩ := along.submit finds (.part part) job
    have later := fun d hd => survives d (List.mem_append_right _ hd)
    rcases hs : m.submit (changeset part) with ⟨result, m₁⟩
    rw [Piece.workset, hs] at answer next
    obtain rfl : result = _ := answer
    simp only [submitAll, hs]
    rcases answer_cases o.rules.receives part with ⟨taken, done⟩ | ⟨refused, e, failed⟩
    · have count : (part :: rest).countP (refusing o.rules.receives)
          = rest.countP (refusing o.rules.receives) := by
        rw [List.countP_cons_of_neg (by simp [taken])]
      obtain ⟨m', h, along'⟩ := ih { tally with changesets := tally.changesets + 1 } next later
      refine ⟨m', ?_, by simpa using along'⟩
      simp only [done, h, count, List.length_cons, Nat.add_assoc, Nat.add_comm 1]
    · have count : (part :: rest).countP (refusing o.rules.receives)
          = rest.countP (refusing o.rules.receives) + 1 :=
        List.countP_cons_of_pos refused
      obtain ⟨m', h, along'⟩ := ih
        { tally with
          changesets := tally.changesets + 1
          failedChangesets := tally.failedChangesets + 1 }
        (next.note .warn ("Changeset " ++ toString (tally.changesets + 1) ++ " of " ++ path
          ++ " failed: " ++ e.message)) later
      refine ⟨m', ?_, by simpa using along'⟩
      simp only [failed, h, count, List.length_cons, Nat.add_assoc, Nat.add_comm 1]

theorem run_eq {path content : String} {d : Disk} {docs : List Document} (batchSize : Nat)
    (read : d.readText path = .ok content)
    (parsed : ((Text.lines content).filter fun line => !Text.isBlank line).map Document.ofLine
      = docs.map .ok)
    (ready : m.queue.Ready) (start : Holds o [] m.engine)
    (survives : ∀ d ∈ docs, o.rules.receives d ≠ .fatal) :
    ∃ m', run path batchSize d m
        = (.ok (tally o.rules.receives batchSize docs), m')
      ∧ Along o ((parts batchSize docs).map .part ++ [.flush]) m' := by
  have documents : documents path content = .ok docs := ofLines_ok 1 parsed
  have survives' : ∀ d ∈ (parts batchSize docs).flatten, o.rules.receives d ≠ .fatal := by
    rw [flatten_parts]
    exact survives
  obtain ⟨m₁, submitted, along⟩ := submitAll_eq finds path { documents := docs.length }
    (along_pause finds ready start) survives'
  obtain ⟨answer, flushed⟩ := along.submit finds .flush rfl
  rcases hs : m₁.submit Workset.flush with ⟨result, m₂⟩
  rw [Piece.workset, hs] at answer flushed
  obtain rfl : result = .ok .unit := answer
  refine ⟨_, ?_, flushed.note .info
    ("Indexed " ++ toString docs.length ++ " document(s) into '" ++ m₂.name ++ "'")⟩
  simp only [run, read, documents, submitted, hs, tally, length_parts, Nat.zero_add]

end

/-! ## What is committed in the end -/

section

variable {o : Listing} {cut : List (List Document)}

theorem Holds.leaves {l : Listing} (h : Holds o (cut.map .part ++ [.flush]) l)
    (clean : o.staged = o.committed) :
    l.committed = imported o.segment o.rules.receives cut o.committed
      ∧ l.staged = l.committed := by
  have same := h.committed (by simp)
  exact ⟨by rw [same, h.staged, writeAll_import, clean], same.symm⟩

theorem countP_refusing (receives : Document → Reception) (cut : List (List Document)) :
    cut.countP (refusing receives)
      = cut.countP fun part => !((Piece.part part).answer receives).isOk := by
  refine List.countP_congr fun part _ => ?_
  rcases answer_cases receives part with ⟨taken, done⟩ | ⟨refused, e, failed⟩
  · simp [taken, done, Except.isOk, Except.toBool]
  · simp [refused, failed, Except.isOk, Except.toBool]

end

theorem answers_eq {q : Queue Listing} (once : (q.told.map Prod.fst).Nodup)
    {receives : Document → Reception} {submissions : List Submission} {pieces : List Piece}
    (told : List.Forall₂ (fun s x => (s.1, x.answer receives) ∈ q.told) submissions pieces) :
    submissions.map (fun s => q.answer? s.1) = pieces.map fun x => some (x.answer receives) := by
  induction told with
  | nil => rfl
  | cons mine _ ih => rw [List.map_cons, List.map_cons, ih, Queue.answer?_of_mem once mine]

/-- **Updates, however they are cut.**  The file can be read, and each of its
lines that is not blank is a document.  The manager is ready and nothing is
staged that is not committed; documents are found by their identifiers, and none
of those in the file is fatal to the worker.

* The import counts the documents, the changesets and those of them that hold a
  document that is not taken, and leaves the manager ready.  What is committed
  and staged then is what the changesets make of what was committed.
* So it is if the worker takes them into batches in any other way, and the
  submitters are told the same.
* No identifier occurs more often than before, unless it occurs once; and one
  that has been updated does not occur more often than once.
* If all documents are taken, no changeset fails.  What was committed and has no
  identifier of the file is followed by the last documents of the identifiers of
  the file, whatever the length of the parts.  Each of these identifiers occurs
  once; the others are as they were; and to import the file again, in parts of any
  length, changes nothing. -/
theorem run_upserts {path content : String} {d : Disk} {docs : List Document}
    {m : Manager Listing}
    (read : d.readText path = .ok content)
    (parsed : ((Text.lines content).filter fun line => !Text.isBlank line).map Document.ofLine
      = docs.map .ok)
    (ready : m.queue.Ready) (clean : m.engine.staged = m.engine.committed)
    (attached : m.engine.detached = false)
    (finds : ∀ id x, m.engine.rules.finds id x = (x.id == id))
    (survives : ∀ x ∈ docs, m.engine.rules.receives x ≠ .fatal) (batchSize : Nat) :
    let old := m.engine.committed
    let receives := m.engine.rules.receives
    let segment := m.engine.segment
    let cut := parts batchSize docs
    let new := imported segment receives cut old
    let refused := cut.countP (refusing receives)
    (∃ m', run path batchSize d m = (.ok (tally receives batchSize docs), m')
        ∧ m'.queue.Ready ∧ m'.engine.committed = new ∧ m'.engine.staged = new
        ∧ ((∀ x ∈ docs, receives x = .taken) → ∀ size, ∃ m'',
            run path size d m' = (.ok (tally receives size docs), m'')
              ∧ m''.engine.committed = new))
      ∧ (∀ h q, Queue.Run m.queue h q → q.phase ≠ .closed →
          h.runs.map Prod.snd = (cut.map changeset ++ [Workset.flush]).map .workset →
            q.processor.engine.committed = new
              ∧ h.runs.map (fun s => q.answer? s.1)
                = (cut.map fun part => some ((Piece.part part).answer receives))
                  ++ [some (.ok .unit)])
      ∧ refused = cut.countP (fun part => !((Piece.part part).answer receives).isOk)
      ∧ (∀ id, occurrences id new ≤ max 1 (occurrences id old))
      ∧ (∀ part ∈ cut, ∀ id ∈ (part.takeWhile fun x => receives x = .taken).map Document.id,
          occurrences id new ≤ 1)
      ∧ ((∀ x ∈ docs, receives x = .taken) →
          refused = 0
            ∧ new = besides docs old ++ kept segment (lastOfEach docs)
            ∧ (∀ id ∈ docs.map Document.id, ∃ x, lastOf id docs = some x
              ∧ new.filter (fun k => k.document.id == id) = [⟨x, segment⟩])
            ∧ ∀ id ∉ docs.map Document.id,
                new.filter (fun k => k.document.id == id)
                  = old.filter (fun k => k.document.id == id)) := by
  intro old receives segment cut new refused
  have start : Holds m.engine [] m.engine := holds_start attached
  have all (taken : ∀ x ∈ docs, receives x = .taken) (size : Nat) (docs' : List Kept) :
      imported segment receives (parts size docs) docs' = upserts segment docs docs' := by
    have taken' : ∀ x ∈ (parts size docs).flatten, receives x = .taken := by
      rw [flatten_parts]
      exact taken
    rw [imported_of_taken segment taken', flatten_parts]
  refine ⟨?done, fun h q r open' runs => ?schedule, countP_refusing receives cut,
    fun id => occurrences_imported_le segment id cut old,
    fun part mem id hid => occurrences_imported_le_one segment mem hid old, fun taken => ?taken⟩
  case done =>
    obtain ⟨m', ran, along⟩ := run_eq finds batchSize read parsed ready start survives
    obtain ⟨committed, staged⟩ : m'.engine.committed = new ∧ _ := along.holds.leaves clean
    refine ⟨m', ran, along.ready, committed, staged.trans committed, fun taken size => ?_⟩
    obtain ⟨m'', ran', along'⟩ := run_eq (o := m'.engine) (m := m')
      (along.holds.rules ▸ finds) size read parsed along.ready (holds_start along.holds.attached)
      (along.holds.rules ▸ survives)
    rw [along.holds.rules] at ran'
    refine ⟨m'', ran', ?_⟩
    have first : new = upserts segment docs old := all taken batchSize old
    rw [(along'.holds.leaves staged).1, along.holds.rules, along.holds.segment, committed,
      all taken size, first, Listing.upserts_again]
  case schedule =>
    have pieces : h.runs.map Prod.snd
        = (cut.map Piece.part ++ [Piece.flush]).map fun x : Piece => Job.workset x.workset := by
      rw [runs]
      simp [Piece.workset, Function.comp_def]
    obtain ⟨holds, told⟩ := start.of_run finds ready r open' pieces
    obtain ⟨h', l⟩ := ready.ledger_run r
    refine ⟨(holds.leaves clean).1, ?_⟩
    rw [answers_eq l.nodup_told told, List.map_append, List.map_map]
    rfl
  case taken =>
    have eq : new = upserts segment docs old := all taken batchSize old
    refine ⟨?_, eq.trans (Listing.upserts_eq segment docs old), fun id hid => ?_, fun id hid => ?_⟩
    · refine List.countP_eq_zero.mpr fun part mem => ?_
      have part_taken (x : Document) (hx : x ∈ part) : receives x = .taken :=
        taken x (by rw [← flatten_parts batchSize docs]; exact List.mem_flatten_of_mem mem hx)
      simpa [refusing] using part_taken
    · rw [eq]
      exact Listing.filter_upserts_of_mem segment hid old
    · rw [eq]
      exact Listing.filter_upserts_of_not_mem segment hid old

theorem ready_manager (s : Settings) (handling : Handling) (log : List Log.Record) (l : Listing) :
    (Manager.start s handling log l).queue.Ready :=
  (Queue.ready_start ⟨rfl, rfl⟩ s.queueSize.toNat).note ..

theorem readText_file (content : String) :
    ({ nodes := [("b", .file (.text content) none)] } : Disk).readText "b" = .ok content := by
  have names : Disk.names "b" = ("", ["b"]) := by
    have split : "b".splitOn "/" = ["b"] := by
      -- one step past the only character, and one at the end
      rw [String.splitOn, if_neg (by decide), String.splitOnAux, if_neg (by decide +kernel),
        if_neg (by decide +kernel), String.splitOnAux, if_pos (by decide +kernel)]
      decide +kernel
    have relative : "b".startsWith "/" = false := by decide +kernel
    simp [Disk.names, split, relative]
  have useful : Disk.objection? "b" = none := by
    have size : "b".utf8ByteSize ≤ Disk.longestPath := by decide
    simp [Disk.objection?, size]
  have top (node : Node) : [("b", node)].lookup "" = none := rfl
  have here (node : Node) : [("b", node)].lookup "b" = some node := rfl
  have below : Disk.move "" "b" = "b" := by decide +kernel
  have named : "b".utf8ByteSize ≤ Disk.longestName := by decide
  simp [Disk.readText, Disk.locate, useful, names, Disk.walk, Disk.node?, Disk.isTop, Disk.isAbove,
    below, named, top, here, FileContent.text?]

/-- Two documents, one of which replaces two others; each of them is a changeset
of its own. -/
theorem run_upserts_of_two_documents :
    let content := "\x7b\"id\":\"a\",\"x\":1\x7d\n\n\x7b\"id\":\"b\"\x7d\n"
    let d : Disk := { nodes := [("b", .file (.text content) none)] }
    let old : List Kept := [⟨⟨"a", []⟩, {}⟩, ⟨⟨"c", []⟩, {}⟩, ⟨⟨"a", []⟩, {}⟩]
    let m : Manager Listing := .start {} .collecting [] (.opened old {})
    ∃ m', run "b" 1 d m = (.ok ⟨2, 2, 0⟩, m')
      ∧ m'.engine.committed
        = [⟨⟨"c", []⟩, {}⟩, ⟨⟨"a", [("x", .int 1)]⟩, {}⟩, ⟨⟨"b", []⟩, {}⟩] := by
  intro content d old m
  let docs : List Document := [⟨"a", [("x", .int 1)]⟩, ⟨"b", []⟩]
  have parsed : ((Text.lines content).filter fun line => !Text.isBlank line).map Document.ofLine
      = docs.map .ok := by decide +kernel
  have taken : ∀ x ∈ docs, m.engine.rules.receives x = .taken := by decide +kernel
  have survives (x : Document) (hx : x ∈ docs) : m.engine.rules.receives x ≠ .fatal := by
    rw [taken x hx]
    nofun
  obtain ⟨⟨m', ran, -, committed, -⟩, -, -, -, -, all⟩ := run_upserts (readText_file content)
    parsed (ready_manager {} .collecting [] (.opened old {})) rfl rfl (fun _ _ => rfl) survives 1
  obtain ⟨none, eq, -⟩ := all taken
  have two : (docs.length + (max 1 1 - 1)) / max 1 1 = 2 := by decide
  refine ⟨m', ?_, ?_⟩
  · rw [ran, tally, none, two]
    rfl
  · rw [committed, eq]
    decide +kernel

end WritePath.Import
