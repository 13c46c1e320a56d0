import WritePath.Disk.Index

/-!
# What happens to a mark

Most of what the engine of an index does to the disk leaves the mark of the index
alone.  Removing the files of its list may remove the mark too, since a name in
the list can lead anywhere; but the mark never says anything else than before.
-/

namespace WritePath.Disk

/-- The mark at a place says what it has said, or there is none any more. -/
def Fades (place : Place) (d d' : Disk) : Prop :=
  d'.mark? place = d.mark? place ∨ d'.mark? place = none

variable {place : Place} {d d' d'' : Disk}

theorem Fades.refl (place : Place) (d : Disk) : Fades place d d := .inl rfl

theorem Fades.trans (f : Fades place d d') (g : Fades place d' d'') : Fades place d d'' := by
  rcases g with same | gone
  · rcases f with same' | gone
    · exact .inl (same.trans same')
    · exact .inr (same.trans gone)
  · exact .inr gone

theorem mark?_congr
    (h : d'.node? (below place IndexFile.mark) = d.node? (below place IndexFile.mark)) :
    d'.mark? place = d.mark? place := by
  simp only [mark?, h]

theorem below_injective (place : Place) {name name' : String} :
    below place name = below place name' → name = name' := by
  unfold below
  split <;> intro h
  · exact String.append_right_inj _ |>.mp h
  · exact String.append_right_inj _ |>.mp h

/-- Another file of the index is written. -/
theorem fades_write (place : Place) (d : Disk) {name : String} (content : FileContent) :
    name ≠ IndexFile.mark → Fades place d (d.write (below place name) content) := by
  intro other
  refine .inl (mark?_congr (node?_put_of_ne d _ fun same => other ?_))
  exact (below_injective place same).symm

theorem node?_erase_of_ne (d : Disk) {place other : Place} :
    other ≠ place → (d.erase place).node? other = d.node? other := by
  intro h
  -- to put a node is to erase what was there and to begin the list with the node
  have put := node?_put_of_ne d .directory h
  have h : (other == place) = false := beq_eq_false_iff_ne.mpr h
  simpa [Disk.put, erase, node?, List.lookup_cons, h] using put

/-- The mark goes with its file and with nothing else. -/
theorem fades_erase (place : Place) (d : Disk) (other : Place) :
    Fades place d (d.erase other) := by
  by_cases h : below place IndexFile.mark = other
  · refine .inr ?_
    have gone : (d.erase other).nodes.lookup (below place IndexFile.mark) = none := by
      rw [List.lookup_eq_none_iff]
      intro n hn
      rw [h, bne_comm]
      exact (List.mem_filter.mp hn).2
    simp only [mark?, node?, gone]
    split <;> simp_all
  · exact .inl (mark?_congr (node?_erase_of_ne d h))

theorem fades_removeFile (place : Place) (d : Disk) (start : Place) (name : String) :
    Fades place d (d.removeFile start name).2 := by
  unfold removeFile
  split
  · exact .refl place d
  · dsimp only
    split
    · exact .refl place d
    · split
      · exact .refl place d
      · exact fades_erase place d _

theorem fades_sweep (place : Place) (d : Disk) (start : Place) (needed names : List String) :
    Fades place d (d.sweep start needed names).2 := by
  -- the names that are still there are kept on the way
  suffices h : ∀ left d', Fades place d d' → Fades place d (names.foldl _ (left, d')).2 from
    h [] d (.refl place d)
  induction names with
  | nil => exact fun _ _ f => f
  | cons name rest ih =>
    intro left d' f
    rw [List.foldl_cons]
    dsimp only
    split
    · exact ih _ _ f
    · exact ih _ _ (f.trans (fades_removeFile place d' start name))

theorem fades_ensureFile (place : Place) {d d' : Disk} {name : String} :
    name ≠ IndexFile.mark → d.ensureFile (below place name) = some d' → Fades place d d' := by
  intro other h
  unfold ensureFile at h
  split at h
  · cases h
    exact .refl place d
  · cases h
  · cases h
    exact fades_write place d _ other

end WritePath.Disk
