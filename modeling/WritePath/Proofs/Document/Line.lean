import WritePath.Proofs.Engine.LastWrites
import WritePath.Proofs.Json.AsWritten
import WritePath.Proofs.Json.RoundTrip

/-!
# Documents and their lines

A document and its line say the same: the line of a document spells that document
(`ofFlat_flat`), and what a line spells has that line again (`flat_of_ofFlat`).  So
whatever can be written exactly can be read back, from either side.

Which lines are documents is decided by the last member of an object that is named
`id`, as it is written.
-/

namespace WritePath

namespace Keyed

variable {α : Type} {l : Keyed α} {key : String} {a : α}

theorem Sorted.erase_insert (h : Sorted l) (none : get? key l = none) (a : α) :
    Keyed.erase key (Keyed.insert key a l) = l := by
  refine ((h.insert key a).erase key).ext h fun other => ?_
  by_cases same : other = key
  · rw [same, (h.insert key a).get?_erase_self, none]
  · rw [get?_erase_of_ne same, get?_insert_of_ne same]

theorem Sorted.insert_erase (h : Sorted l) (found : get? key l = some a) :
    Keyed.insert key a (Keyed.erase key l) = l := by
  refine ((h.erase key).insert key a).ext h fun other => ?_
  by_cases same : other = key
  · rw [same, get?_insert_self, found]
  · rw [get?_insert_of_ne same, get?_erase_of_ne same]

end Keyed

namespace Document

open Json (Value asWritten? valuesOf nestingLimit)

/-! ## Values and documents -/

theorem ofFlat_flat {d : Document} (sorted : Keyed.Sorted d.body) (named : d.id ≠ "")
    (free : Keyed.get? idMember d.body = none) : ofFlat d.flat = .ok d := by
  rw [flat, ofFlat]
  simp only [Keyed.get?_insert_self, if_neg named, sorted.erase_insert free]

/-- What a value spells has no member for the identifier, and its line is that
value. -/
theorem flat_of_ofFlat {v : Value} {d : Document} (regular : v.Regular) :
    ofFlat v = .ok d → Keyed.get? idMember d.body = none ∧ d.flat = v := by
  intro h
  unfold ofFlat at h
  split at h
  · next members =>
    have sorted : Keyed.Sorted members := regular.1
    split at h
    · next id found =>
      split at h
      · cases h
      · cases h
        exact ⟨sorted.get?_erase_self _, by rw [flat, sorted.insert_erase found]⟩
    · cases h
    · cases h
  · cases h

/-- The identifier adds a text to the body, so the line holds no other kind of value
than the body does. -/
theorem every_flat {p : Value → Prop} {d : Document} (body : Value.Every p (.object d.body))
    (id : p (.string d.id)) (whole : p d.flat) : d.flat.Every p := by
  refine ⟨whole, Value.everyMember_iff.mpr fun m hm => ?_⟩
  rcases Keyed.eq_or_mem_of_mem_insert hm with rfl | before
  · exact id
  · exact Value.everyMember_iff.mp body.2 m before

/-! ## Lines -/

theorem ofLine_flat {d : Document} (regular : d.flat.Regular) (floatless : d.flat.Floatless)
    (within : d.flat.nesting ≤ nestingLimit) : ofLine d.flat.compact = ofFlat d.flat := by
  rw [ofLine, Json.read?_compact regular floatless within]

theorem ofFlat_of_ofLine {line : String} {d : Document} (h : ofLine line = .ok d) :
    ∃ v, Value.read? line = some v ∧ ofFlat v = .ok d := by
  unfold ofLine at h
  split at h
  · next v read => exact ⟨v, read, h⟩
  · cases h

/-- What becomes of an object that is written with these members: of those with the
name of the identifier the last one counts. -/
def Verdict (members : List (String × Value)) (result : Except LineError Document) : Prop :=
  match (valuesOf idMember members).getLast? with
  | none => result = .error .idMissing
  | some (.string id) =>
    if id = "" then result = .error .idNotText else ∃ body, result = .ok ⟨id, body⟩
  | some _ => result = .error .idNotText

theorem ofLine_asWritten {line : String} :
    match asWritten? line with
    | none => ofLine line = .error .notJson
    | some (.object members) => Verdict members (ofLine line)
    | some _ => ofLine line = .error .notAnObject := by
  have read : Value.read? line = (asWritten? line).map Value.keyed := Json.read?_eq_keyed line
  rw [ofLine, read]
  split
  · next none => rw [none]; rfl
  · next members written =>
    rw [written]
    simp only [Option.map_some, Value.keyed, ofFlat, Json.get?_keyed, Verdict]
    split
    · next none => rw [none]; rfl
    · next id last =>
      rw [last]
      simp only [Option.map_some, Value.keyed]
      split
      · rfl
      · exact ⟨_, rfl⟩
    · next v other last =>
      rw [last]
      cases v with
      | string id => exact absurd rfl (other id)
      | null | bool | int | float | array | object => rfl
  · next v other written =>
    rw [written]
    cases v with
    | object members => exact absurd rfl (other members)
    | null | bool | int | float | array | string => rfl

/-- **Lines and documents.**

* A document with an identifier, whose body has no member named like it, holds no
  float and nests with the identifier up to the limit, is read from its line.
* What is read from any line has an identifier and no member named like it in its
  body; without floats in it, it is read from its own line too.
* What cannot be read at all is refused, and so is what is no object.  Of an object
  the last member with the name of the identifier decides, as the object is written:
  it is refused without one, and if that one is no text or an empty one; otherwise it
  is a document with that identifier. -/
theorem lines_round_trip :
    (∀ d : Document, d.id ≠ "" → Keyed.get? idMember d.body = none →
        Value.Regular (.object d.body) → Value.Floatless (.object d.body) →
        d.flat.nesting ≤ nestingLimit → ofLine d.flat.compact = .ok d)
      ∧ (∀ line d, ofLine line = .ok d →
          d.id ≠ "" ∧ Keyed.get? idMember d.body = none
            ∧ (Value.Floatless (.object d.body) → ofLine d.flat.compact = .ok d))
      ∧ ∀ line, match asWritten? line with
          | none => ofLine line = .error .notJson
          | some (.object members) => Verdict members (ofLine line)
          | some _ => ofLine line = .error .notAnObject := by
  refine ⟨fun d named free regular floatless within => ?written, fun line d parsed => ?read,
    fun line => ofLine_asWritten⟩
  case written =>
    have sorted : Keyed.Sorted (Keyed.insert idMember (.string d.id) d.body) :=
      Keyed.Sorted.insert regular.1 _ _
    rw [ofLine_flat (every_flat regular trivial sorted) (every_flat floatless trivial trivial)
      within,
      ofFlat_flat regular.1 named free]
  case read =>
    obtain ⟨v, read, spelled⟩ := ofFlat_of_ofLine parsed
    have regular := Json.regular_of_read? read
    obtain ⟨free, rfl⟩ := flat_of_ofFlat regular spelled
    refine ⟨id_ne_empty_of_ofFlat spelled, free, fun floatless => ?_⟩
    rw [ofLine_flat regular (every_flat floatless trivial trivial) (Json.nesting_le_of_read? read),
      spelled]

/-- A document with the least and the greatest integer and some characters that are
escaped; and a line on which the identifier stands twice. -/
theorem lines_round_trip_of_escapes :
    let d : Document := ⟨"a\"\\",
      [("", .array [.int (-9223372036854775808), .int 18446744073709551615]),
        ("é\n", .object [("id", .string "\x01/\x7f")])]⟩
    let line := "\x7b\"id\":null,\"x\":[2],\"id\":\"b\"\x7d"
    (d.id ≠ "" ∧ Keyed.get? idMember d.body = none ∧ Value.Regular (.object d.body)
        ∧ Value.Floatless (.object d.body) ∧ d.flat.nesting ≤ nestingLimit)
      ∧ ofLine d.flat.compact = .ok d
      ∧ ofLine line = .ok ⟨"b", [("x", .array [.int 2])]⟩
      ∧ ofLine (flat ⟨"b", [("x", .array [.int 2])]⟩).compact
        = .ok ⟨"b", [("x", .array [.int 2])]⟩ := by
  intro d line
  have named : d.id ≠ "" := by decide
  have free : Keyed.get? idMember d.body = none := by decide
  have order : Keyed.Sorted d.body := by
    simp only [d, Keyed.Sorted]
    decide
  have one (v : Value) : Keyed.Sorted [("id", v)] := List.pairwise_singleton _ _
  have least : Value.fits (-9223372036854775808) = true := by decide
  have greatest : Value.fits 18446744073709551615 = true := by decide
  have regular : Value.Regular (.object d.body) :=
    ⟨order, ⟨trivial, least, greatest, trivial⟩, ⟨one _, trivial, trivial⟩, trivial⟩
  have floatless : Value.Floatless (.object d.body) :=
    ⟨trivial, ⟨trivial, trivial, trivial, trivial⟩, ⟨trivial, trivial, trivial⟩, trivial⟩
  have within : d.flat.nesting ≤ nestingLimit := by decide
  have parsed : ofLine line = .ok ⟨"b", [("x", .array [.int 2])]⟩ := by decide +kernel
  refine ⟨⟨named, free, regular, floatless, within⟩,
    lines_round_trip.1 d named free regular floatless within, parsed, ?_⟩
  exact (lines_round_trip.2.1 line _ parsed).2.2 ⟨trivial, ⟨trivial, trivial, trivial⟩, trivial⟩

end Document

end WritePath
