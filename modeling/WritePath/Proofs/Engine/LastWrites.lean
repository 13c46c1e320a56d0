import Mathlib.Data.List.Induction
import Mathlib.Data.List.Nodup
import Mathlib.Data.List.Perm.Subperm
import WritePath.Document

/-!
# The last document of each identifier

A keyed list of documents can be got from a list with repeated identifiers by
keeping the last document of each (`latest`).  `LastWrites` says it without the
way: whoever looks up an identifier finds the last document that has it.  To
write in place of what is there and to append come to the same then, and so do
erasing an identifier and filtering it out.

In a list in ascending order of the keys, what is found decides about the list
(`Keyed.Sorted.ext`).
-/

namespace WritePath

namespace Keyed

variable {α : Type} {l l' : Keyed α} {key other : String} {a : α}

theorem mem_of_get? : get? key l = some a → (key, a) ∈ l := by
  intro h
  induction l with
  | nil => cases h
  | cons p rest ih =>
    obtain ⟨k, b⟩ := p
    simp only [get?] at h
    split at h
    · next hk =>
      subst hk
      cases h
      exact List.mem_cons_self
    · exact List.mem_cons_of_mem _ (ih h)

theorem Sorted.get?_of_mem (h : Sorted l) : (key, a) ∈ l → get? key l = some a := by
  intro mem
  induction l with
  | nil => cases mem
  | cons p rest ih =>
    obtain ⟨k, b⟩ := p
    obtain ⟨below, ordered⟩ := List.pairwise_cons.mp h
    rcases List.mem_cons.mp mem with same | mem
    · cases same
      simp [get?]
    · have ne : k ≠ key := fun same => String.lt_irrefl key (same ▸ below _ mem)
      simp only [get?, if_neg ne, ih ordered mem]

theorem Sorted.get?_eq_some_iff (h : Sorted l) : get? key l = some a ↔ (key, a) ∈ l :=
  ⟨mem_of_get?, h.get?_of_mem⟩

theorem mem_keys_iff : key ∈ l.keys ↔ ∃ a, get? key l = some a := by
  constructor
  · intro h
    induction l with
    | nil => cases h
    | cons p rest ih =>
      obtain ⟨k, b⟩ := p
      simp only [get?]
      split
      · exact ⟨b, rfl⟩
      · next ne =>
        rcases List.mem_cons.mp h with same | h
        · exact absurd same.symm ne
        · exact ih h
  · rintro ⟨a, h⟩
    exact List.mem_map_of_mem (mem_of_get? h)

theorem Sorted.nodup_keys (h : Sorted l) : l.keys.Nodup := by
  refine List.pairwise_map.mpr (List.Pairwise.imp (fun {a b} lt => ?_) h)
  intro same
  exact String.lt_irrefl b.1 (same ▸ lt)

theorem Sorted.ext (h : Sorted l) (h' : Sorted l') :
    (∀ key, get? key l = get? key l') → l = l' := by
  intro same
  have mem (p : String × α) : p ∈ l ↔ p ∈ l' := by
    rw [← h.get?_eq_some_iff, ← h'.get?_eq_some_iff, same]
  have perm : l.Perm l' :=
    (List.perm_ext_iff_of_nodup (.of_map Prod.fst h.nodup_keys)
      (.of_map Prod.fst h'.nodup_keys)).mpr mem
  refine perm.eq_of_pairwise (fun a b _ _ lt lt' => ?_) h h'
  exact absurd (String.lt_trans lt lt') (String.lt_irrefl a.1)

theorem Sorted.get?_erase_self (h : Sorted l) (key : String) :
    get? key (Keyed.erase key l) = none := by
  induction l with
  | nil => rfl
  | cons p rest ih =>
    obtain ⟨k, b⟩ := p
    obtain ⟨below, ordered⟩ := List.pairwise_cons.mp h
    simp only [Keyed.erase]
    split
    · next hk =>
      subst hk
      -- what stands behind a key is behind it in the order
      refine Option.eq_none_iff_forall_ne_some.mpr fun a found => ?_
      exact String.lt_irrefl k (below _ (mem_of_get? found))
    · next ne => simp only [get?, if_neg ne, ih ordered]

theorem get?_erase_of_ne (h : other ≠ key) (l : Keyed α) :
    get? other (erase key l) = get? other l := by
  induction l with
  | nil => rfl
  | cons p rest ih =>
    obtain ⟨k, b⟩ := p
    simp only [erase]
    split
    · next hk => simp only [get?, if_neg (hk ▸ h.symm)]
    · simp only [get?, ih]

end Keyed

/-! ## Documents -/

def lastOf (id : String) (docs : List Document) : Option Document :=
  (docs.filter (fun d => d.id == id)).getLast?

theorem lastOf_append (id : String) (docs : List Document) (d : Document) :
    lastOf id (docs ++ [d]) = if d.id = id then some d else lastOf id docs := by
  unfold lastOf
  rw [List.filter_append]
  split
  · next h => simp [h]
  · next h => simp [h]

theorem lastOf_without (id other : String) (docs : List Document) :
    lastOf other (docs.filter (fun d => !(d.id == id)))
      = if other = id then none else lastOf other docs := by
  unfold lastOf
  rw [List.filter_filter]
  split
  · next h =>
    subst h
    simp
  · next h =>
    congr 1
    refine List.filter_congr fun d _ => ?_
    by_cases hd : d.id = other <;> simp [hd, h]

theorem exists_lastOf_iff {id : String} {docs : List Document} :
    (∃ d, lastOf id docs = some d) ↔ id ∈ docs.map Document.id := by
  unfold lastOf
  rw [← Option.isSome_iff_exists, Option.isSome_iff_ne_none, ne_eq, List.getLast?_eq_none_iff,
    List.mem_map]
  simp [List.filter_eq_nil_iff]

/-- The documents in order of their identifiers, the last one of each. -/
def latest (docs : List Document) : Keyed Document :=
  Keyed.ofList (docs.map fun d => (d.id, d))

theorem sorted_latest (docs : List Document) : Keyed.Sorted (latest docs) :=
  Keyed.sorted_ofList _

theorem latest_append (docs : List Document) (d : Document) :
    latest (docs ++ [d]) = Keyed.insert d.id d (latest docs) := by
  simp [latest, Keyed.ofList]

theorem get?_latest (id : String) (docs : List Document) :
    Keyed.get? id (latest docs) = lastOf id docs := by
  induction docs using List.reverseRecOn with
  | nil => rfl
  | append_singleton docs d ih =>
    rw [latest_append, lastOf_append]
    split
    · next h => rw [← h, Keyed.get?_insert_self]
    · next h => rw [Keyed.get?_insert_of_ne (Ne.symm h), ih]

theorem latest_without (id : String) (docs : List Document) :
    latest (docs.filter (fun d => !(d.id == id))) = Keyed.erase id (latest docs) := by
  have sorted := sorted_latest docs
  refine (sorted_latest _).ext (sorted.erase id) fun key => ?_
  rw [get?_latest, lastOf_without]
  split
  · next h => rw [h, sorted.get?_erase_self]
  · next h => rw [Keyed.get?_erase_of_ne h, get?_latest]

/-- A keyed list holds the last document of each identifier of a list. -/
structure LastWrites (keyed : Keyed Document) (docs : List Document) : Prop where
  sorted : Keyed.Sorted keyed
  get? : ∀ id, Keyed.get? id keyed = lastOf id docs

theorem lastWrites_latest (docs : List Document) : LastWrites (latest docs) docs :=
  ⟨sorted_latest docs, fun id => get?_latest id docs⟩

namespace LastWrites

variable {keyed : Keyed Document} {docs : List Document} (h : LastWrites keyed docs)
include h

theorem mem_keys_iff (id : String) : id ∈ Keyed.keys keyed ↔ id ∈ docs.map Document.id := by
  rw [Keyed.mem_keys_iff, ← exists_lastOf_iff]
  simp only [h.get?]

theorem length_le : keyed.length ≤ docs.length := by
  have sub : Keyed.keys keyed ⊆ docs.map Document.id := fun id => (h.mem_keys_iff id).mp
  simpa [Keyed.keys] using (h.sorted.nodup_keys.subperm sub).length_le

theorem length_eq : (docs.map Document.id).Nodup → keyed.length = docs.length := by
  intro nodup
  have perm := (List.perm_ext_iff_of_nodup h.sorted.nodup_keys nodup).mpr h.mem_keys_iff
  simpa [Keyed.keys] using perm.length_eq

end LastWrites

end WritePath
