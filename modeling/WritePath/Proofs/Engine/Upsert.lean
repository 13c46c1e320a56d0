import WritePath.Proofs.Engine.Shelf
import WritePath.Proofs.Workset.Containment

/-!
# Documents that are written as updates

An update removes what has the identifier of its document, and puts the document
behind everything else (`upsert`).  After a list of updates there is first what
was there before and has none of their identifiers, and then the last document
of each identifier, in the order of these last ones (`upserts_eq`).  Nothing else
matters: not what was replaced in between, and not how the list is cut.

In a changeset the updates end with the first document that is refused.  It is
not added, but what it would have replaced is gone (`written`).  Even so no
identifier comes to occur more often than it did, but for its one update.
-/

namespace WritePath.Engine.Listing

variable (segment : Segment)

def upsert (docs : List Kept) (k : Kept) : List Kept :=
  withoutId k.document.id docs ++ [k]

def upserts (updates : List Document) (docs : List Kept) : List Kept :=
  updates.foldl (fun docs d => upsert docs ⟨d, segment⟩) docs

/-! ## The last document of each identifier -/

/-- The documents of which no later one has the identifier. -/
def lastOfEach : List Document → List Document
  | [] => []
  | d :: rest => if d.id ∈ rest.map Document.id then lastOfEach rest else d :: lastOfEach rest

example : (lastOfEach [⟨"a", []⟩, ⟨"b", []⟩, ⟨"a", [("new", .null)]⟩]).map (·.id) = ["b", "a"] := by
  decide

theorem lastOf_cons (id : String) (d : Document) (rest : List Document) :
    lastOf id (d :: rest) = (lastOf id rest).or (if d.id = id then some d else none) := by
  unfold lastOf
  by_cases h : d.id = id
  · rw [List.filter_cons_of_pos (by simpa using h), List.getLast?_cons, if_pos h]
    cases (rest.filter (fun d => d.id == id)).getLast? <;> rfl
  · rw [List.filter_cons_of_neg (by simpa using h), if_neg h, Option.or_none]

theorem filter_lastOfEach (id : String) (docs : List Document) :
    (lastOfEach docs).filter (fun d => d.id == id) = (lastOf id docs).toList := by
  induction docs with
  | nil => rfl
  | cons d rest ih =>
    rw [lastOfEach, lastOf_cons]
    by_cases h : d.id = id
    · subst h
      split
      · next later =>
        obtain ⟨d', hd'⟩ := exists_lastOf_iff.mpr later
        rw [ih, hd', Option.some_or]
      · next last =>
        have none : lastOf d.id rest = none := by
          refine Option.eq_none_iff_forall_ne_some.mpr fun d' hd' => ?_
          exact last (exists_lastOf_iff.mp ⟨d', hd'⟩)
        rw [List.filter_cons_of_pos (by simp), ih, none]
        simp
    · rw [if_neg h, Option.or_none, ← ih]
      split
      · rfl
      · rw [List.filter_cons_of_neg (by simpa using h)]

theorem mem_lastOfEach {d : Document} {docs : List Document} : d ∈ lastOfEach docs → d ∈ docs := by
  intro h
  induction docs with
  | nil => exact h
  | cons d' rest ih =>
    rw [lastOfEach] at h
    split at h
    · exact List.mem_cons_of_mem _ (ih h)
    · rcases List.mem_cons.mp h with rfl | h
      · exact List.mem_cons_self
      · exact List.mem_cons_of_mem _ (ih h)

/-! ## What updates leave -/

/-- The documents that have the identifier of none of the others. -/
def besides (others : List Document) (docs : List Kept) : List Kept :=
  docs.filter fun k => k.document.id ∉ others.map Document.id

/-- The documents as they are kept. -/
def kept (docs : List Document) : List Kept :=
  docs.map fun d => ⟨d, segment⟩

theorem besides_append (others : List Document) (docs docs' : List Kept) :
    besides others (docs ++ docs') = besides others docs ++ besides others docs' :=
  List.filter_append ..

theorem besides_withoutId (d : Document) (others : List Document) (docs : List Kept) :
    besides others (withoutId d.id docs) = besides (d :: others) docs := by
  unfold besides withoutId
  rw [List.filter_filter]
  refine List.filter_congr fun k _ => ?_
  by_cases h : k.document.id = d.id <;> simp [h]

theorem besides_kept {others docs : List Document} (h : ∀ d ∈ docs, d ∈ others) :
    besides others (kept segment docs) = [] := by
  refine List.filter_eq_nil_iff.mpr fun k hk => ?_
  obtain ⟨d, hd, rfl⟩ := List.mem_map.mp hk
  simpa using ⟨d, h d hd, rfl⟩

theorem upserts_eq (updates : List Document) (docs : List Kept) :
    upserts segment updates docs
      = besides updates docs ++ kept segment (lastOfEach updates) := by
  induction updates generalizing docs with
  | nil => simp [upserts, besides, kept, lastOfEach]
  | cons d rest ih =>
    show upserts segment rest (upsert docs ⟨d, segment⟩) = _
    rw [ih, upsert, besides_append, besides_withoutId, lastOfEach, List.append_assoc]
    congr 1
    by_cases h : d.id ∈ rest.map Document.id
    · rw [if_pos h, besides, List.filter_cons_of_neg (by simpa using h)]
      rfl
    · rw [if_neg h, besides, List.filter_cons_of_pos (by simpa using h)]
      rfl

/-- Updating again changes nothing. -/
theorem upserts_again (updates : List Document) (docs : List Kept) :
    upserts segment updates (upserts segment updates docs) = upserts segment updates docs := by
  have again : besides updates (besides updates docs) = besides updates docs := by
    simp [besides, List.filter_filter]
  rw [upserts_eq segment updates docs, upserts_eq, besides_append, again,
    besides_kept segment fun d => mem_lastOfEach, List.append_nil]

theorem filter_upserts_of_mem {id : String} {updates : List Document}
    (h : id ∈ updates.map Document.id) (docs : List Kept) :
    ∃ d, lastOf id updates = some d
      ∧ (upserts segment updates docs).filter (fun k => k.document.id == id)
        = [⟨d, segment⟩] := by
  obtain ⟨d, hd⟩ := exists_lastOf_iff.mpr h
  refine ⟨d, hd, ?_⟩
  have old : (besides updates docs).filter (fun k => k.document.id == id) = [] := by
    refine List.filter_eq_nil_iff.mpr fun k hk => ?_
    have other := (List.mem_filter.mp hk).2
    rintro same
    rw [beq_iff_eq.mp same] at other
    exact (of_decide_eq_true other) h
  have new := congrArg (kept segment) (filter_lastOfEach id updates)
  rw [hd] at new
  rw [upserts_eq, List.filter_append, old, List.nil_append, kept, List.filter_map]
  exact new

theorem filter_upserts_of_not_mem {id : String} {updates : List Document}
    (h : id ∉ updates.map Document.id) (docs : List Kept) :
    (upserts segment updates docs).filter (fun k => k.document.id == id)
      = docs.filter (fun k => k.document.id == id) := by
  have new : (kept segment (lastOfEach updates)).filter (fun k => k.document.id == id) = [] := by
    refine List.filter_eq_nil_iff.mpr fun k hk same => ?_
    obtain ⟨d, hd, rfl⟩ := List.mem_map.mp hk
    exact h (beq_iff_eq.mp same ▸ List.mem_map_of_mem (mem_lastOfEach hd))
  rw [upserts_eq, List.filter_append, new, List.append_nil, besides, List.filter_filter]
  refine List.filter_congr fun k _ => ?_
  by_cases same : k.document.id = id
  · simp only [same, beq_self_eq_true, Bool.true_and]
    exact decide_eq_true h
  · simp [same]

/-! ## Updates of one changeset -/

section Written

variable (receives : Document → Reception)

/-- The documents after the updates of one changeset.  The first one that is not
taken only removes, and nothing comes after it. -/
def written : List Document → List Kept → List Kept
  | [], docs => docs
  | d :: rest, docs =>
    if receives d = .taken then written rest (upsert docs ⟨d, segment⟩)
    else withoutId d.id docs

variable {receives}

theorem written_of_taken {updates : List Document} (taken : ∀ d ∈ updates, receives d = .taken)
    (docs : List Kept) : written segment receives updates docs = upserts segment updates docs := by
  induction updates generalizing docs with
  | nil => rfl
  | cons d rest ih =>
    rw [written, if_pos (taken d List.mem_cons_self)]
    exact ih (fun d hd => taken d (List.mem_cons_of_mem _ hd)) _

end Written

/-! ### How often an identifier occurs -/

def occurrences (id : String) (docs : List Kept) : Nat :=
  docs.countP fun k => k.document.id == id

theorem occurrences_withoutId (id other : String) (docs : List Kept) :
    occurrences other (withoutId id docs) = if other = id then 0 else occurrences other docs := by
  unfold occurrences withoutId
  rw [List.countP_filter]
  split
  · next h =>
    subst h
    simp
  · next h =>
    refine List.countP_congr fun k _ => ?_
    by_cases same : k.document.id = other <;> simp [same, h]

theorem occurrences_upsert (id : String) (docs : List Kept) (k : Kept) :
    occurrences id (upsert docs k) = if id = k.document.id then 1 else occurrences id docs := by
  have others := occurrences_withoutId k.document.id id docs
  unfold occurrences at others ⊢
  rw [upsert, List.countP_append, others]
  by_cases same : id = k.document.id
  · simp [same]
  · simp [same, Ne.symm same]

section

variable {receives : Document → Reception}

theorem occurrences_written_le (id : String) (updates : List Document) (docs : List Kept) :
    occurrences id (written segment receives updates docs) ≤ max 1 (occurrences id docs) := by
  induction updates generalizing docs with
  | nil => exact Nat.le_max_right _ _
  | cons d rest ih =>
    rw [written]
    split
    · refine Nat.le_trans (ih _) ?_
      rw [occurrences_upsert]
      split <;> omega
    · rw [occurrences_withoutId]
      split <;> omega

theorem occurrences_written_le_one {id : String} {updates : List Document}
    (h : id ∈ (updates.takeWhile fun d => receives d = .taken).map Document.id)
    (docs : List Kept) : occurrences id (written segment receives updates docs) ≤ 1 := by
  induction updates generalizing docs with
  | nil => cases h
  | cons d rest ih =>
    by_cases taken : receives d = .taken
    · rw [List.takeWhile_cons_of_pos (by simpa using taken)] at h
      rw [written, if_pos taken]
      rcases List.mem_cons.mp h with rfl | h
      · have le : occurrences d.id (written segment receives rest (upsert docs ⟨d, segment⟩)) ≤ _ :=
          occurrences_written_le segment d.id rest _
        rwa [occurrences_upsert, if_pos rfl] at le
      · exact ih h _
    · rw [List.takeWhile_cons_of_neg (by simpa using taken)] at h
      cases h

end

/-! ### On the engine -/

section Updates

open Workset (Executes)

variable {l : Listing} (finds : ∀ id d, l.rules.finds id d = (d.id == id))
include finds

theorem run_update_taken {d : Document} (taken : l.rules.receives d = .taken) :
    (Work.silent (.update d)).run l
      = (.ok .unit,
          { l with staged := upsert l.staged ⟨d, l.segment⟩, stamp := l.stamp + 2 }) := by
  show Call.map (fun _ => Output.unit)
    (Call.andThen (Listing.delete d.id) (fun _ => Listing.add d)) l = _
  simp only [Call.map, Call.andThen, Listing.delete, stamped, Listing.add, taken,
    without_eq l.staged finds, Except.map, upsert]

theorem run_update_refused {d : Document} (refused : l.rules.receives d ≠ .taken) :
    (Work.silent (.update d)).run l
      = (.error (Listing.refused d),
          { l with staged := withoutId d.id l.staged, stamp := l.stamp + 1 }) := by
  show Call.map (fun _ => Output.unit)
    (Call.andThen (Listing.delete d.id) (fun _ => Listing.add d)) l = _
  cases hd : l.rules.receives d with
  | taken => exact absurd hd refused
  | refused | fatal =>
    simp only [Call.map, Call.andThen, Listing.delete, stamped, Listing.add, hd,
      without_eq l.staged finds, Except.map]

omit finds in
theorem works_updates (updates : List Document) (s : Strategies) :
    (⟨.changeset (updates.map .update), s⟩ : Workset).works
      = updates.map fun d => .silent (.update d) := by
  simp [Workset.works]

/-- All updates go through, or there is a first document that is refused.  Either
way the documents are those that are `written`. -/
theorem updates_cases (updates : List Document) :
    (∃ outputs stamp, (∀ d ∈ updates, l.rules.receives d = .taken)
        ∧ Executes (updates.map fun d => .silent (.update d)) l outputs
            { l with
              staged := written l.segment l.rules.receives updates l.staged
              stamp := stamp })
      ∨ ∃ before d rest outputs m stamp, updates = before ++ d :: rest
        ∧ (∀ d ∈ before, l.rules.receives d = .taken) ∧ l.rules.receives d ≠ .taken
        ∧ Executes (before.map fun d => .silent (.update d)) l outputs m
        ∧ (Work.silent (.update d)).run m
          = (.error (Listing.refused d),
              { l with
                staged := written l.segment l.rules.receives updates l.staged
                stamp := stamp }) := by
  induction updates generalizing l with
  | nil => exact .inl ⟨[], l.stamp, nofun, .nil l⟩
  | cons d rest ih =>
    by_cases taken : l.rules.receives d = .taken
    · have first := run_update_taken finds taken
      simp only [written, if_pos taken]
      rcases ih (l := { l with
          staged := upsert l.staged ⟨d, l.segment⟩, stamp := l.stamp + 2 }) finds with
        ⟨outputs, stamp, all, executes⟩
        | ⟨before, d', rest', outputs, m, stamp, rfl, some, refused, executes, fails⟩
      · exact .inl ⟨.unit :: outputs, stamp, List.forall_mem_cons.mpr ⟨taken, all⟩,
          .cons first executes⟩
      · exact .inr ⟨d :: before, d', rest', .unit :: outputs, m, stamp, rfl,
          List.forall_mem_cons.mpr ⟨taken, some⟩, refused, .cons first executes, fails⟩
    · simp only [written, if_neg taken]
      exact .inr ⟨[], d, rest, [], l, l.stamp + 1, rfl, nofun, taken, .nil l,
        run_update_refused finds taken⟩

end Updates

end WritePath.Engine.Listing
