import WritePath.Document
import WritePath.Proofs.Json.Members

/-!
# Documents as they are stored

The stored form of a document is read as that document, and so is every other spelling
of it: with members that no document has, the two members the other way round, the array
of the two, and without the body if that is empty.  In an object neither of the two
members may stand twice.
-/

namespace WritePath.Document

open Json (Value Outline Readable memberNames? nestingLimit valuesOf single?)

/-! ## The parts of a document -/

/-- The names that the parts of a document are stored under. -/
def isPart (name : String) : Bool :=
  name == "id" || name == "body"

def ofStored (fields : List (String × Value)) : Option Document := do
  let id ← (← single? "id" fields)
  let body ← single? "body" fields
  ofParts id body

theorem read?_of_outline {s : String} :
    read? s = (Outline.read? isPart s).bind fun
      | .fields fields => ofStored fields
      | .value (.array [id]) => ofParts id none
      | .value (.array [id, body]) => ofParts id (some body)
      | .value _ => none := by
  rw [read?]
  rfl

theorem valuesOf_perm (name : String) {l l' : List (String × Value)} (h : l.Perm l') :
    (valuesOf name l).Perm (valuesOf name l') :=
  (h.filter _).map _

/-- Where a name stands only once, or not at all, the order of the members does not
matter. -/
theorem single?_of_perm {name : String} {l l' : List (String × Value)} {v : Option Value}
    (h : l.Perm l') (found : single? name l' = some v) : single? name l = some v := by
  have values := valuesOf_perm name h
  unfold single? at found ⊢
  split at found
  · next none =>
    rw [none] at values
    rw [List.perm_nil.mp values]
    exact found
  · next v one =>
    rw [one] at values
    rw [List.perm_singleton.mp values]
    exact found
  · cases found

theorem single?_of_two {name : String} {members : List (String × Value)}
    (two : 2 ≤ (members.map Prod.fst).count name) : single? name members = none := by
  have length : (valuesOf name members).length = (members.map Prod.fst).count name := by
    rw [valuesOf, List.length_map, ← List.countP_eq_length_filter, List.count, List.countP_map]
    rfl
  unfold single?
  split
  · next none => rw [none, List.length_nil] at length; omega
  · next v one => rw [one, List.length_singleton] at length; omega
  · rfl

/-! ## Objects -/

variable {d : Document} {members : List (String × Value)}

/-- An object is read by its parts, whatever its other members hold. -/
theorem read?_object (readable : ∀ f ∈ members.filter (isPart ·.1), Readable f.2) :
    read? (Value.object members).compact = ofStored (members.filter (isPart ·.1)) := by
  have known : ∀ f ∈ members, isPart f.1 = true → Readable f.2 := fun f hf part =>
    readable f (List.mem_filter.mpr ⟨hf, part⟩)
  rw [read?_of_outline, Outline.read?_compact known]
  rfl

theorem readable_string (s : String) : Readable (.string s) :=
  ⟨trivial, trivial, Nat.zero_le _⟩

theorem read?_of_perm (body : Readable (.object d.body))
    (parts : (members.filter (isPart ·.1)).Perm [("id", .string d.id), ("body", .object d.body)]) :
    read? (Value.object members).compact = some d := by
  have readable : ∀ f ∈ members.filter (isPart ·.1), Readable f.2 := by
    intro f hf
    obtain rfl | rfl : f = ("id", .string d.id) ∨ f = ("body", .object d.body) := by
      simpa using parts.mem_iff.mp hf
    · exact readable_string d.id
    · exact body
  rw [read?_object readable, ofStored, single?_of_perm parts rfl, single?_of_perm parts rfl]
  rfl

theorem read?_of_id {id : String} (parts : members.filter (isPart ·.1) = [("id", .string id)]) :
    read? (Value.object members).compact = some ⟨id, []⟩ := by
  have readable : ∀ f ∈ members.filter (isPart ·.1), Readable f.2 := by
    rw [parts]
    exact List.forall_mem_singleton.mpr (readable_string id)
  rw [read?_object readable, parts]
  rfl

theorem read?_pair (body : Readable (.object d.body)) :
    read? (Value.array [.string d.id, .object d.body]).compact = some d := by
  obtain ⟨regular, floatless, within⟩ := body
  have outline : Outline.read? isPart (Value.array [.string d.id, .object d.body]).compact
      = some (.value (.array [.string d.id, .object d.body])) := by
    refine Outline.read?_compact_array ⟨trivial, trivial, regular, trivial⟩
      ⟨trivial, trivial, floatless, trivial⟩ ?_
    simp only [Value.nesting, Value.nestingItems] at within ⊢
    omega
  rw [read?_of_outline, outline]
  rfl

theorem read?_singleton (id : String) :
    read? (Value.array [.string id]).compact = some ⟨id, []⟩ := by
  have outline : Outline.read? isPart (Value.array [.string id]).compact
      = some (.value (.array [.string id])) :=
    Outline.read?_compact_array ⟨trivial, trivial, trivial⟩ ⟨trivial, trivial, trivial⟩
      (show 1 ≤ nestingLimit by decide)
  rw [read?_of_outline, outline]
  rfl

theorem read?_of_two {s : String} {names : List String} (found : memberNames? s = some names)
    (two : 2 ≤ names.count "id" ∨ 2 ≤ names.count "body") : read? s = none := by
  rw [read?_of_outline, Option.bind_eq_none_iff]
  intro outline read
  cases outline with
  | value v => cases found.symm.trans (Json.memberNames?_of_read? read)
  | fields fields =>
    obtain ⟨names', found', same⟩ := Json.memberNames?_of_read? read
    cases found.symm.trans found'
    have none {name : String} (part : isPart name = true) (two : 2 ≤ names.count name) :
        single? name fields = none := by
      refine single?_of_two ?_
      rwa [same, List.count_filter part]
    rcases two with two | two
    · simp only [ofStored, none rfl two, Option.bind_eq_bind, Option.bind_none]
    · simp only [ofStored, none rfl two, Option.bind_eq_bind, Option.bind_none, Option.bind_fun_none]

/-! ## All spellings -/

/-- **The spellings of a document.**

* A document that holds no float and nests in its stored form up to the limit is read
  from that form, and from any other object with the same two parts, in either order and
  with any other members, whatever these hold.  It is also read from the array of the two.
* Without the body, an object or an array is the document with the identifier and nothing
  in its body.
* A text in which one of the parts stands twice is refused.  The names in the text of an
  object are those of its members. -/
theorem stored_round_trip :
    (∀ d : Document, Value.Regular (.object d.body) → Value.Floatless (.object d.body) →
        d.stored.nesting ≤ nestingLimit →
          read? d.text = some d
          ∧ (∀ members : List (String × Value),
              (members.filter (isPart ·.1)).Perm [("id", .string d.id), ("body", .object d.body)] →
                read? (Value.object members).compact = some d)
          ∧ read? (Value.array [.string d.id, .object d.body]).compact = some d)
      ∧ (∀ id : String,
          (∀ members : List (String × Value), members.filter (isPart ·.1) = [("id", .string id)] →
              read? (Value.object members).compact = some ⟨id, []⟩)
          ∧ read? (Value.array [.string id]).compact = some ⟨id, []⟩)
      ∧ (∀ s names, memberNames? s = some names →
          2 ≤ names.count "id" ∨ 2 ≤ names.count "body" → read? s = none)
      ∧ ∀ members : List (String × Value),
          memberNames? (Value.object members).compact = some (members.map Prod.fst) := by
  refine ⟨fun d regular floatless within => ?_, fun id => ⟨fun _ => read?_of_id, read?_singleton id⟩,
    fun _ _ => read?_of_two, Json.memberNames?_compact⟩
  have body : (Value.object d.body).nesting ≤ nestingLimit - 1 := by
    rw [stored, Value.nesting] at within
    simp only [Value.nestingMembers] at within
    omega
  have readable : Readable (.object d.body) := ⟨regular, floatless, body⟩
  exact ⟨read?_of_perm readable (List.Perm.refl _), fun _ => read?_of_perm readable,
    read?_pair readable⟩

/-- A document with an empty identifier and a member `id` in its body, also among other
members, of which one is too great for an integer; and a text with two bodies, of which
one could not be read. -/
theorem stored_round_trip_of_empty_id :
    let d : Document := ⟨"", [("id", .null), ("x", .array [.bool true, .int (-1)])]⟩
    let members : List (String × Value) := [("note", .string "\n"), ("body", .object d.body),
      ("Id", .int 18446744073709551616), ("id", .string ""), ("note", .null)]
    let twice := "\x7b\"body\":\x7b\x7d,\"id\":\"a\",\"body\":1e999\x7d"
    (Value.Regular (.object d.body) ∧ Value.Floatless (.object d.body)
        ∧ d.stored.nesting ≤ nestingLimit)
      ∧ read? d.text = some d
      ∧ (members.filter (isPart ·.1)).Perm [("id", .string d.id), ("body", .object d.body)]
      ∧ read? (Value.object members).compact = some d
      ∧ read? (Value.object [("a", .null), ("id", .string "b")]).compact = some ⟨"b", []⟩
      ∧ memberNames? twice = some ["body", "id", "body"]
      ∧ read? twice = none := by
  intro d members twice
  have order : Keyed.Sorted d.body := by
    simp only [d, Keyed.Sorted]
    decide
  have regular : Value.Regular (.object d.body) :=
    ⟨order, trivial, ⟨trivial, trivial, show Value.fits (-1) = true by decide, trivial⟩, trivial⟩
  have floatless : Value.Floatless (.object d.body) :=
    ⟨trivial, trivial, ⟨trivial, trivial, trivial, trivial⟩, trivial⟩
  have within : d.stored.nesting ≤ nestingLimit := by decide
  have parts : (members.filter (isPart ·.1)).Perm [("id", .string d.id), ("body", .object d.body)] :=
    List.Perm.swap _ _ _
  have names : memberNames? twice = some ["body", "id", "body"] := by decide +kernel
  obtain ⟨written, shuffled, -⟩ := stored_round_trip.1 d regular floatless within
  exact ⟨⟨regular, floatless, within⟩, written, parts, shuffled members parts,
    (stored_round_trip.2.1 "b").1 _ rfl, names,
    stored_round_trip.2.2.1 twice _ names (.inr (Nat.le_refl 2))⟩

end WritePath.Document
