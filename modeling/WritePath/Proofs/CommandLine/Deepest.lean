import WritePath.Proofs.CommandLine.Import
import WritePath.Proofs.Engine.Atomicity
import WritePath.Proofs.Json.Nesting

/-!
# Lines that nest as deep as they may

The reader of lines and the engine set the same limit to the nesting of what they
take, but the stored form of a document has one object more than its line
(`nesting_stored`).  So a document can be read and then not be stored, and this is
so for all lines that nest exactly up to the limit and for no others
(`Line.add_iff`).

An import reads all lines before it writes anything, and still the changesets with
such a document fail (`deepest_lines_fail`).
-/

namespace WritePath

open Engine (Listing)

namespace Document

/-- The arrays and objects of the line of a document that stand inside one
another. -/
def nesting (d : Document) : Nat :=
  (Json.Value.object d.body).nesting

/-- The stored form has the object around the identifier and the body on top of
the line. -/
theorem nesting_stored (d : Document) : d.stored.nesting = d.nesting + 1 := by
  simp [stored, nesting, Json.Value.nesting, Json.Value.nestingMembers]

theorem nesting_ofFlat {v : Json.Value} {d : Document} :
    ofFlat v = .ok d → v.nesting = d.nesting := by
  intro h
  unfold ofFlat at h
  split at h
  · next members =>
    split at h
    · next id found =>
      split at h
      · cases h
      · cases h
        rw [nesting, Json.Value.nesting, Json.Value.nesting, Json.nestingMembers_erase found rfl]
    · cases h
    · cases h
  · cases h

theorem nesting_ofLine {line : String} {d : Document} :
    ofLine line = .ok d →
      ∃ v, Json.Value.read? line = some v ∧ v.nesting = d.nesting
        ∧ d.nesting ≤ Json.nestingLimit := by
  intro h
  unfold ofLine at h
  cases read : Json.Value.read? line with
  | none =>
    rw [read] at h
    cases h
  | some v =>
    rw [read] at h
    have same := nesting_ofFlat h
    exact ⟨v, rfl, same, same ▸ Json.nesting_le_of_read? read⟩

end Document

/-! ## What is refused -/

/-- Documents are refused for the nesting of their stored form, and for nothing
else. -/
def RefusesDeep (receives : Document → Reception) : Prop :=
  ∀ d : Document, receives d = .refused ↔ Json.nestingLimit < d.stored.nesting

theorem accepts_eq_false_iff (d : Document) :
    Engine.Listing.accepts d = false ↔ Json.nestingLimit < d.stored.nesting := by
  rw [Listing.accepts, decide_eq_false_iff_not, Nat.not_le]

theorem refusesDeep_plain : RefusesDeep ({} : Listing.Rules).receives := by
  intro d
  rw [← accepts_eq_false_iff]
  cases h : Listing.accepts d <;> simp [h]

theorem receives_own (d : Document) :
    Schema.own.receives d
      = if Listing.accepts d then
          if (Json.Value.object d.body).hasText Moment.isBeyond then .fatal else .taken
        else .refused := by
  obtain ⟨id, hid, text⟩ : ∃ f, Schema.own.idFieldOf = some f ∧ f.type = .text :=
    ⟨_, rfl, rfl⟩
  obtain ⟨body, hbody, json⟩ : ∃ f, Schema.own.bodyFieldOf = some f ∧ f.type = .json :=
    ⟨_, rfl, rfl⟩
  simp only [Schema.receives, hid, hbody, Schema.receptionOfBody, json, Field.receptionOf, text]
  cases (Json.Value.object d.body).hasText Moment.isBeyond <;> rfl

/-- So it is in an index that the write path makes itself, where a document can be
fatal to the worker for another reason. -/
theorem refusesDeep_own : RefusesDeep Schema.own.receives := by
  intro d
  rw [← accepts_eq_false_iff, receives_own]
  cases Listing.accepts d with
  | false => simp
  | true => cases (Json.Value.object d.body).hasText Moment.isBeyond <;> simp

namespace Line

variable {line : String} {x : Document} {receives : Document → Reception}

theorem not_taken_iff (deep : RefusesDeep receives) (parsed : Document.ofLine line = .ok x)
    (survives : receives x ≠ .fatal) :
    receives x ≠ .taken ↔ x.nesting = Json.nestingLimit := by
  obtain ⟨v, -, -, within⟩ := Document.nesting_ofLine parsed
  have refused := deep x
  rw [Document.nesting_stored] at refused
  constructor
  · intro other
    have left : receives x = .refused := by
      cases h : receives x with
      | taken => exact absurd h other
      | refused => rfl
      | fatal => exact absurd h survives
    have beyond := refused.mp left
    omega
  · intro deepest taken
    have left : receives x = .refused := refused.mpr (by omega)
    rw [taken] at left
    cases left

/-- To add what was read from a line succeeds if the line nests below the limit,
and fails, with the engine as it was, if it nests up to it. -/
theorem add_iff {l : Listing} (deep : RefusesDeep l.rules.receives)
    (parsed : Document.ofLine line = .ok x) (survives : l.rules.receives x ≠ .fatal) :
    ∃ v, Json.Value.read? line = some v ∧ v.nesting ≤ Json.nestingLimit
      ∧ (v.nesting < Json.nestingLimit → ∃ stamp l', Engine.add x l = (.ok stamp, l'))
      ∧ (v.nesting = Json.nestingLimit →
        Engine.add x l = (.error (Listing.refused x), l)) := by
  obtain ⟨v, read, same, within⟩ := Document.nesting_ofLine parsed
  have iff := not_taken_iff deep parsed survives
  refine ⟨v, read, same ▸ within, fun below => ?_, fun deepest => ?_⟩
  · rcases added : Engine.add x l with ⟨e | stamp, l'⟩
    · have refused := (Listing.add_error.mp added).1
      have deepest := iff.mp refused
      omega
    · exact ⟨stamp, l', rfl⟩
  · exact Listing.add_error.mpr ⟨iff.mpr (same ▸ deepest), rfl, rfl⟩

end Line

/-! ## Files -/

namespace Import

/-- The part holds a document whose line nests up to the limit. -/
def deepest (part : List Document) : Bool :=
  part.any fun x => x.nesting = Json.nestingLimit

section

variable {lines : List String} {docs : List Document}

theorem line_of_mem (parsed : lines.map Document.ofLine = docs.map .ok) {x : Document} :
    x ∈ docs → ∃ line ∈ lines, Document.ofLine line = .ok x := by
  intro hx
  have mem : (.ok x : Except Document.LineError Document) ∈ lines.map Document.ofLine := by
    rw [parsed]
    exact List.mem_map_of_mem hx
  exact List.mem_map.mp mem

theorem document_of_line (parsed : lines.map Document.ofLine = docs.map .ok) {line : String} :
    line ∈ lines → ∃ x ∈ docs, Document.ofLine line = .ok x := by
  intro hl
  have mem : Document.ofLine line ∈ docs.map (.ok : _ → Except Document.LineError Document) := by
    rw [← parsed]
    exact List.mem_map_of_mem hl
  obtain ⟨x, hx, same⟩ := List.mem_map.mp mem
  exact ⟨x, hx, same.symm⟩

theorem countP_deepest {receives : Document → Reception} (deep : RefusesDeep receives)
    (parsed : lines.map Document.ofLine = docs.map .ok)
    (survives : ∀ x ∈ docs, receives x ≠ .fatal) (batchSize : Nat) :
    (parts batchSize docs).countP (refusing receives) = (parts batchSize docs).countP deepest := by
  refine List.countP_congr fun part mem => ?_
  have each (x : Document) (hx : x ∈ part) :
      receives x ≠ .taken ↔ x.nesting = Json.nestingLimit := by
    have hx : x ∈ docs := by
      rw [← flatten_parts batchSize docs]
      exact List.mem_flatten_of_mem mem hx
    obtain ⟨line, -, read⟩ := line_of_mem parsed hx
    exact Line.not_taken_iff deep read (survives x hx)
  simp only [refusing, deepest, List.any_eq_true, decide_eq_true_eq]
  constructor
  · rintro ⟨x, hx, other⟩
    exact ⟨x, hx, (each x hx).mp other⟩
  · rintro ⟨x, hx, same⟩
    exact ⟨x, hx, (each x hx).mpr same⟩

theorem countP_deepest_eq_zero (parsed : lines.map Document.ofLine = docs.map .ok)
    (batchSize : Nat) :
    (parts batchSize docs).countP deepest = 0
      ↔ ∀ line ∈ lines, ∀ v, Json.Value.read? line = some v → v.nesting < Json.nestingLimit := by
  have none : (parts batchSize docs).countP deepest = 0
      ↔ ∀ x ∈ docs, x.nesting ≠ Json.nestingLimit := by
    rw [List.countP_eq_zero]
    constructor
    · intro none x hx
      rw [← flatten_parts batchSize docs] at hx
      obtain ⟨part, mem, hx⟩ := List.mem_flatten.mp hx
      intro same
      exact none part mem (List.any_eq_true.mpr ⟨x, hx, by simpa using same⟩)
    · intro none part mem found
      obtain ⟨x, hx, same⟩ := List.any_eq_true.mp found
      refine none x ?_ (by simpa using same)
      rw [← flatten_parts batchSize docs]
      exact List.mem_flatten_of_mem mem hx
  rw [none]
  constructor
  · intro none line hl v read
    obtain ⟨x, hx, h⟩ := document_of_line parsed hl
    obtain ⟨w, read', same, within⟩ := Document.nesting_ofLine h
    rw [read] at read'
    cases read'
    exact same ▸ Nat.lt_of_le_of_ne within (none x hx)
  · intro below x hx
    obtain ⟨line, hl, h⟩ := line_of_mem parsed hx
    obtain ⟨v, read, same, -⟩ := Document.nesting_ofLine h
    exact same ▸ Nat.ne_of_lt (below line hl v read)

end

/-- **Lines that can be read and not be stored.**  The index refuses documents for
the nesting of their stored form alone; the file can be read, each of its lines that
is not blank is a document, and none of them is fatal to the worker.

* To add what was read from a line to any such index succeeds if the line nests
  fewer than 127 containers, and fails without any effect if it nests 127 of them.
  More it cannot nest.
* The import writes all the documents, and of its changesets those fail that hold a
  document whose line nests 127 containers.
* So none fails exactly if all lines nest fewer. -/
theorem deepest_lines_fail {path content : String} {d : Disk} {docs : List Document}
    {m : Manager Listing}
    (read : d.readText path = .ok content)
    (parsed : ((Text.lines content).filter fun line => !Text.isBlank line).map Document.ofLine
      = docs.map .ok)
    (ready : m.queue.Ready) (attached : m.engine.detached = false)
    (finds : ∀ id x, m.engine.rules.finds id x = (x.id == id))
    (deep : RefusesDeep m.engine.rules.receives)
    (survives : ∀ x ∈ docs, m.engine.rules.receives x ≠ .fatal) (batchSize : Nat) :
    let failed := (parts batchSize docs).countP deepest
    (∀ line x, Document.ofLine line = .ok x → ∀ l : Listing, RefusesDeep l.rules.receives →
        l.rules.receives x ≠ .fatal →
          ∃ v, Json.Value.read? line = some v ∧ v.nesting ≤ 127
            ∧ (v.nesting < 127 → ∃ stamp l', Engine.add x l = (.ok stamp, l'))
            ∧ (v.nesting = 127 → Engine.add x l = (.error (Listing.refused x), l)))
      ∧ (∃ m', run path batchSize d m
          = (.ok
              { documents := docs.length
                changesets := (docs.length + (max batchSize 1 - 1)) / max batchSize 1
                failedChangesets := failed },
            m'))
      ∧ (failed = 0
        ↔ ∀ line ∈ (Text.lines content).filter (fun line => !Text.isBlank line), ∀ v,
            Json.Value.read? line = some v → v.nesting < 127) := by
  intro failed
  refine ⟨fun line x h l deep survives => Line.add_iff deep h survives, ?_,
    countP_deepest_eq_zero parsed batchSize⟩
  obtain ⟨m', ran, -⟩ := run_eq finds batchSize read parsed ready (holds_start attached) survives
  refine ⟨m', ran.trans ?_⟩
  rw [tally, countP_deepest deep parsed survives batchSize]

/-- The line of a document with an object and 126 arrays inside one another. -/
def deepestLine : List Char :=
  "\x7b\"id\":\"a\",\"x\":".toList ++ List.replicate 126 '[' ++ List.replicate 126 ']' ++ ['\x7d']

theorem read?_deepestLine :
    Json.Value.read? (String.ofList deepestLine)
      = some (.object [("id", .string "a"), ("x", .nested 126)]) := by
  rw [Json.Value.read?, String.toList_ofList]
  decide +kernel

theorem ofLine_deepestLine :
    Document.ofLine (String.ofList deepestLine) = .ok ⟨"a", [("x", .nested 126)]⟩ := by
  rw [Document.ofLine, read?_deepestLine]
  rfl

/-- Two documents, of which the first nests as deep as it may: its changeset fails,
and the other one does not. -/
theorem deepest_lines_fail_of_two_documents :
    let content := String.ofList
      (deepestLine ++ '\n' :: "\x7b\"id\":\"b\",\"x\":[[]]\x7d".toList ++ ['\n'])
    let d : Disk := { nodes := [("b", .file (.text content) none)] }
    let m : Manager Listing := .start {} .collecting [] (.opened [] {})
    ∃ m', run "b" 1 d m = (.ok ⟨2, 2, 1⟩, m') := by
  intro content d m
  let docs : List Document := [⟨"a", [("x", .nested 126)]⟩, ⟨"b", [("x", .array [.array []])]⟩]
  let other : List Char := "\x7b\"id\":\"b\",\"x\":[[]]\x7d".toList
  have lines : Text.lines content = [String.ofList deepestLine, String.ofList other] := by
    have cut : Text.closeLines (Text.splitLines (deepestLine ++ '\n' :: other ++ ['\n']))
        = [deepestLine, other] := by decide +kernel
    rw [Text.lines, String.toList_ofList]
    exact congrArg (List.map String.ofList) cut
  have parsed : ((Text.lines content).filter fun line => !Text.isBlank line).map Document.ofLine
      = docs.map .ok := by
    have marked : (!Text.isBlank (String.ofList deepestLine)) = true := by
      rw [Text.isBlank, String.toList_ofList]
      decide +kernel
    have second : ([String.ofList other].filter fun line => !Text.isBlank line).map Document.ofLine
        = [.ok ⟨"b", [("x", .array [.array []])]⟩] := by decide +kernel
    rw [lines, List.filter_cons, if_pos marked, List.map_cons, ofLine_deepestLine, second]
    rfl
  have survives (x : Document) (hx : x ∈ docs) : m.engine.rules.receives x ≠ .fatal := by
    revert x
    decide +kernel
  obtain ⟨-, ⟨m', ran⟩, -⟩ := deepest_lines_fail (readText_file content) parsed
    (ready_manager {} .collecting [] (.opened [] {})) rfl (fun _ _ => rfl) refusesDeep_plain
    survives 1
  have one : (parts 1 docs).countP deepest = 1 := by decide +kernel
  have two : (docs.length + (max 1 1 - 1)) / max 1 1 = 2 := by decide
  refine ⟨m', ?_⟩
  rw [ran, one, two]
  rfl

/-- The document of such a line is not taken by an index that the write path has
just made. -/
theorem read_but_refused :
    let x : Document := ⟨"a", [("x", .nested 126)]⟩
    let l : Listing := .opened [] Schema.own.rules
    Document.ofLine (String.ofList deepestLine) = .ok x
      ∧ Engine.add x l = (.error (Listing.refused x), l) := by
  intro x l
  have survives : l.rules.receives x ≠ .fatal := by decide +kernel
  obtain ⟨v, read, -, -, refused⟩ :=
    Line.add_iff (l := l) refusesDeep_own ofLine_deepestLine survives
  rw [read?_deepestLine] at read
  cases read
  exact ⟨ofLine_deepestLine, refused (by decide +kernel)⟩

end Import

end WritePath
