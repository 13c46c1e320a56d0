import WritePath.Opening
import WritePath.Proofs.Engine.Generations
import WritePath.Work

/-!
# Editions

Readers of an index see one of its committed generations, an *edition*.  The laws
of `Editions` say of an engine when a new one is committed and when readers get to
see it: a commit that succeeds makes a new edition of what is staged, a refresh
that succeeds shows the latest one, and whatever else is called, or fails, leaves
both as they were.

In its lodging an engine shows what the mark on the disk says.  So there the laws
hold as long as the mark, if it is there, says what was committed last
(`Lodged.Sound`).  This is so when the index has just been opened (`sound_run`), and
every call keeps it, since only a commit that succeeds writes the mark.
-/

namespace WritePath.Engine

/-! ## The laws -/

/-- The generations of an engine. -/
structure Views (ε : Type) where
  staged : ε → List Document
  committed : ε → List Document
  visible : ε → List Document
  /-- A refresh would show what is committed. -/
  sound : ε → Prop

variable {ε : Type}

/-- What is committed and what is visible are the same. -/
structure Views.Keeps (v : Views ε) (e e' : ε) : Prop where
  sound : v.sound e → v.sound e'
  committed : v.committed e' = v.committed e
  visible : v.visible e' = v.visible e

namespace Views.Keeps

variable {v : Views ε} {e e' e'' : ε}

theorem refl (e : ε) : v.Keeps e e := ⟨id, rfl, rfl⟩

theorem trans (k : v.Keeps e e') (k' : v.Keeps e' e'') : v.Keeps e e'' :=
  ⟨k'.sound ∘ k.sound, k'.committed.trans k.committed, k'.visible.trans k.visible⟩

end Views.Keeps

/-- What the calls of an engine do to its generations. -/
structure Editions (ε : Type) [Searchable ε] extends Views ε where
  /-- The index has just been opened. -/
  opened : ε → Prop
  sound_of_opened : ∀ {e : ε}, opened e → sound e ∧ visible e = committed e
  length_shown : ∀ e : ε, (Searchable.shown e).length = (visible e).length
  add : ∀ (d : Document) (e : ε), toViews.Keeps e (Engine.add d e).2
  delete : ∀ (id : String) (e : ε), toViews.Keeps e (Engine.delete id e).2
  deleteAll : ∀ e : ε, toViews.Keeps e (Engine.deleteAll e).2
  close : ∀ e : ε, toViews.Keeps e (Engine.close e).2
  commit_ok : ∀ {e e' : ε} {stamp : Stamp}, Engine.commit e = (.ok stamp, e') →
    sound e' ∧ committed e' = staged e ∧ visible e' = visible e
  commit_error : ∀ {e e' : ε} {f : Failure}, Engine.commit e = (.error f, e') → toViews.Keeps e e'
  refresh_ok : ∀ {e e' : ε}, Engine.refresh e = (.ok (), e') →
    committed e' = committed e ∧ (sound e → sound e' ∧ visible e' = committed e')
  refresh_error : ∀ {e e' : ε} {f : Failure}, Engine.refresh e = (.error f, e') →
    toViews.Keeps e e'

namespace Editions

variable [Searchable ε] (L : Editions ε)

theorem keeps_change (c : Change) (e : ε) : L.Keeps e (c.run e).2 := by
  cases c with
  | add d => exact L.add d e
  | delete id => exact L.delete id e
  | update d =>
    have first := L.delete d.id e
    rcases hd : Engine.delete d.id e with ⟨f | stamp, e₁⟩
    · rw [hd] at first
      simp only [Change.run, Call.andThen, hd]
      exact first
    · rw [hd] at first
      simp only [Change.run, Call.andThen, hd]
      exact first.trans (L.add d e₁)

/-- A work commits nothing and shows nothing. -/
theorem keeps_work (w : Work) (e : ε) : L.Keeps e (w.run e).2 := by
  cases w with
  | change c | silent c => exact L.keeps_change c e
  | purge => exact L.deleteAll e
  | flush | refresh => exact .refl e

end Editions

/-! ## In its lodging -/

namespace Lodging

variable {g g' : Lodging} {d d' : Disk} {staged staged' visible : List Kept}

/-- The engine is where it was, and its mark says what it has said, or is gone. -/
structure Stays (g : Lodging) (d : Disk) (g' : Lodging) (d' : Disk) : Prop where
  place : g'.place = g.place
  fades : d.Fades g.place d'

theorem Stays.refl (g : Lodging) (d : Disk) : Stays g d g d := ⟨rfl, .refl g.place d⟩

theorem Stays.trans {g'' : Lodging} {d'' : Disk} (s : Stays g d g' d') (s' : Stays g' d' g'' d'') :
    Stays g d g'' d'' :=
  ⟨s'.place.trans s.place, s.fades.trans (s.place ▸ s'.fades)⟩

theorem numbered_ne_mark (n : Nat) (ending : String) :
    IndexFile.numbered n ending ≠ IndexFile.mark := by
  intro same
  have long : (IndexFile.numbered n ending).length = (IndexFile.mark).length :=
    congrArg String.length same
  have short : IndexFile.mark.length = 9 := by decide
  rw [short] at long
  simp only [IndexFile.numbered, String.length_append, String.length_ofList, List.length_append,
    List.length_replicate] at long
  omega

theorem stays_newFile? {ending name : String} :
    g.newFile? d ending = some (name, g', d') → Stays g d g' d' := by
  intro h
  unfold newFile? at h
  split at h
  · cases h
    exact ⟨rfl, (Disk.fades_write g.place _ _ (by decide)).trans
      (Disk.fades_write g.place _ _ (numbered_ne_mark _ _))⟩
  · cases h

theorem stays_prepare (g : Lodging) (d : Disk) :
    Stays g d (g.prepare d).1 (g.prepare d).2 := by
  unfold prepare
  split
  · exact .refl g d
  · unfold begin
    split
    · next name g' d' made =>
      split at made
      · have stays := stays_newFile? made
        exact ⟨stays.place, stays.fades⟩
      · cases made
    · exact ⟨rfl, .refl g.place d⟩

theorem stays_pierce? {file : String} :
    g.pierce? d staged file = some (g', d', staged') → Stays g d g' d' := by
  intro h
  simp only [pierce?, Option.bind_eq_bind, Option.bind_eq_some_iff, Option.pure_def,
    Option.some.injEq, Prod.mk.injEq] at h
  obtain ⟨⟨name, g₁, d₁⟩, made, rfl, rfl, -⟩ := h
  exact stays_newFile? made

theorem stays_lookInto? :
    g.lookInto? d staged visible = some (g', d', staged') → Stays g d g' d' := by
  have each (files : List String) (g : Lodging) (d : Disk) (staged : List Kept) :
      files.foldlM (fun (x : Lodging × Disk × List Kept) file => x.1.pierce? x.2.1 x.2.2 file)
          (g, d, staged) = some (g', d', staged') →
        Stays g d g' d' := by
    induction files generalizing g d staged with
    | nil =>
      intro h
      cases h
      exact .refl _ _
    | cons file rest ih =>
      intro h
      simp only [List.foldlM_cons, Option.bind_eq_bind, Option.bind_eq_some_iff] at h
      obtain ⟨⟨g₁, d₁, staged₁⟩, pierced, h⟩ := h
      exact (stays_pierce? pierced).trans (ih g₁ d₁ staged₁ h)
  intro h
  unfold lookInto? at h
  split at h
  · have stays := each _ _ _ _ h
    exact ⟨stays.place, stays.fades⟩
  · cases h

theorem fades_release (g : Lodging) (d : Disk) : d.Fades g.place (g.release d) := by
  unfold release Disk.unlock
  split
  · split
    · exact Disk.fades_write g.place d _ (by decide)
    · exact .refl g.place d
  · exact .refl g.place d

end Lodging

namespace Lodged

variable {x x' x'' : Lodged}

/-- The mark, if there is one, says what was committed. -/
def Sound (x : Lodged) : Prop :=
  ∀ g, x.lodging = some g → ∀ description, x.disk.mark? g.place = some description →
    description.kept = x.lists.committed

/-- The lists but for the staged documents are the same, and so is what the mark
says. -/
structure Steady (x x' : Lodged) : Prop where
  committed : x'.lists.committed = x.lists.committed
  visible : x'.lists.visible = x.lists.visible
  stays : ∀ g', x'.lodging = some g' → ∃ g, x.lodging = some g ∧ g.Stays x.disk g' x'.disk

theorem Steady.refl (x : Lodged) : Steady x x :=
  ⟨rfl, rfl, fun g hg => ⟨g, hg, .refl g x.disk⟩⟩

theorem Steady.trans (s : Steady x x') (s' : Steady x' x'') : Steady x x'' := by
  refine ⟨s'.committed.trans s.committed, s'.visible.trans s.visible, fun g'' hg'' => ?_⟩
  obtain ⟨g', hg', later⟩ := s'.stays g'' hg''
  obtain ⟨g, hg, before⟩ := s.stays g' hg'
  exact ⟨g, hg, before.trans later⟩

/-- A mark that says no more than before says what was committed before. -/
theorem Sound.of_stays (sound : Sound x)
    (stays : ∀ g', x'.lodging = some g' → ∃ g, x.lodging = some g ∧ g.Stays x.disk g' x'.disk)
    (committed : x'.lists.committed = x.lists.committed) : Sound x' := by
  intro g' hg' description said
  obtain ⟨g, hg, place, fades⟩ := stays g' hg'
  rw [committed]
  rw [place] at said
  rcases fades with same | gone
  · exact sound g hg description (same ▸ said)
  · rw [said] at gone
    cases gone

theorem Steady.sound (s : Steady x x') (sound : Sound x) : Sound x' :=
  sound.of_stays s.stays s.committed

theorem steady_onLists {α : Type} {call : Call Listing α} (x : Lodged)
    (committed : (call x.lists).2.committed = x.lists.committed)
    (visible : (call x.lists).2.visible = x.lists.visible) : Steady x (onLists call x).2 :=
  ⟨committed, visible, fun g hg => ⟨g, hg, .refl g x.disk⟩⟩

theorem keeps_add (d : Document) (l : Listing) :
    (Listing.add d l).2.committed = l.committed ∧ (Listing.add d l).2.visible = l.visible := by
  unfold Listing.add
  split <;> exact ⟨rfl, rfl⟩

theorem steady_add (d : Document) (x : Lodged) : Steady x (Lodged.add d x).2 := by
  have plain (x : Lodged) : Steady x (onLists (Listing.add d) x).2 :=
    steady_onLists x (keeps_add d x.lists).1 (keeps_add d x.lists).2
  unfold Lodged.add
  split
  · next g hl _ =>
    have prepared : Steady x { x with
        lodging := some (g.prepare x.disk).1
        disk := (g.prepare x.disk).2 } := by
      refine ⟨rfl, rfl, ?_⟩
      rintro g' ⟨⟩
      exact ⟨g, hl, g.stays_prepare x.disk⟩
    dsimp only
    split
    · exact prepared.trans ⟨(keeps_add d _).1, (keeps_add d _).2, fun g hg => ⟨g, hg, .refl g _⟩⟩
    · exact prepared.trans (steady_onLists _ rfl rfl)
  · exact plain x

theorem steady_delete (id : String) (x : Lodged) : Steady x (Lodged.delete id x).2 := by
  refine ⟨rfl, rfl, fun g' hg' => ?_⟩
  obtain ⟨g, hl, rfl⟩ := Option.map_eq_some_iff.mp hg'
  refine ⟨g, hl, ?_, .refl _ _⟩
  unfold noteDeletion
  split <;> rfl

theorem steady_deleteAll (x : Lodged) : Steady x (Lodged.deleteAll x).2 := by
  refine ⟨rfl, rfl, fun g' hg' => ?_⟩
  obtain ⟨g, hl, rfl⟩ := Option.map_eq_some_iff.mp hg'
  exact ⟨g, hl, rfl, .refl _ _⟩

theorem steady_close (x : Lodged) : Steady x (Lodged.close x).2 := by
  simp only [Lodged.close, release, onLists, Listing.close]
  split
  · exact ⟨rfl, rfl, fun g hg => ⟨g, hg, .refl g x.disk⟩⟩
  · next g hl =>
    refine ⟨rfl, rfl, fun g' hg' => ⟨g, hl, ?_⟩⟩
    obtain rfl : g = g' := Option.some.inj (hl.symm.trans hg')
    exact ⟨rfl, g.fades_release x.disk⟩

theorem steady_failCommit (x : Lodged) : Steady x (failCommit x).2 := by
  rw [failCommit_eq]
  exact ⟨rfl, rfl, fun g hg => ⟨g, hg, .refl g x.disk⟩⟩

theorem steady_commit {f : Failure} : Lodged.commit x = (.error f, x') → Steady x x' := by
  intro h
  unfold Lodged.commit at h
  split at h
  · simp only [onLists, Listing.commit] at h
    split at h <;> cases h
    exact .refl x
  · next g hl =>
    split at h
    · obtain rfl := (congrArg Prod.snd h).symm
      have lost : Steady x (x.lose g) := by
        refine ⟨rfl, rfl, ?_⟩
        rintro g' ⟨⟩
        exact ⟨g, hl, rfl, .refl _ _⟩
      exact lost.trans (steady_failCommit _)
    · dsimp only at h
      split at h
      · obtain rfl := (congrArg Prod.snd h).symm
        have begun : Steady x { x with lodging := some { g with begun := none } } := by
          refine ⟨rfl, rfl, ?_⟩
          rintro g' ⟨⟩
          exact ⟨g, hl, rfl, .refl _ _⟩
        exact begun.trans (steady_failCommit _)
      · next g' disk staged looked =>
        have stays := Lodging.stays_lookInto? looked
        split at h
        · cases h
        · obtain rfl := (congrArg Prod.snd h).symm
          have looked' : Steady x { x with
              lists := { x.lists with staged := staged }
              lodging := some g'
              disk := disk } := by
            refine ⟨rfl, rfl, ?_⟩
            rintro g'' ⟨⟩
            exact ⟨g, hl, stays.place, stays.fades⟩
          exact looked'.trans (steady_failCommit _)

theorem stays_refresh {result : Except Failure Unit} :
    Lodged.refresh x = (result, x') →
      ∀ g', x'.lodging = some g' → ∃ g, x.lodging = some g ∧ g.Stays x.disk g' x'.disk := by
  intro h
  obtain rfl := (congrArg Prod.snd h).symm
  unfold Lodged.refresh
  split
  · exact fun g hg => ⟨g, hg, .refl g x.disk⟩
  · next g hl =>
    have here (d : Disk) (fades : x.disk.Fades g.place d) (g' : Lodging) :
        x.lodging = some g' → ∃ g, x.lodging = some g ∧ g.Stays x.disk g' d := by
      intro hg'
      obtain rfl : g = g' := Option.some.inj (hl.symm.trans hg')
      exact ⟨g, hl, rfl, fades⟩
    split
    · exact here x.disk (.refl g.place x.disk)
    · next disk locked =>
      have fades := Lodging.fades_lockForReading? rfl locked
      dsimp only
      split
      · exact here disk fades
      · exact here disk fades

theorem steady_refresh {f : Failure} : Lodged.refresh x = (.error f, x') → Steady x x' := by
  intro h
  rcases refresh_cases x with ⟨e, y, refused, same, visible⟩ | ⟨y, taken, -⟩
  · obtain rfl := (congrArg Prod.snd (h.symm.trans refused)).symm
    exact ⟨same.committed, visible, stays_refresh h⟩
  · cases h.symm.trans taken

/-- With a mark that says what is committed a refresh shows what is committed. -/
theorem shows_of_sound {kept : List Kept} : Sound x → Shows x kept → kept = x.lists.committed := by
  intro sound shows'
  cases shows' with
  | lists => rfl
  | mark hl fades said =>
    rcases fades with same | gone
    · exact sound _ hl _ (same ▸ said)
    · rw [said] at gone
      cases gone

theorem refresh_taken :
    Lodged.refresh x = (.ok (), x') →
      x'.lists.committed = x.lists.committed
        ∧ (Sound x → Sound x' ∧ x'.lists.visible = x'.lists.committed) := by
  intro h
  rcases refresh_cases x with ⟨e, y, refused, -⟩ | ⟨y, taken, same, shown⟩
  · cases h.symm.trans refused
  · obtain rfl := (congrArg Prod.snd (h.symm.trans taken)).symm
    refine ⟨same.committed, fun sound => ⟨sound.of_stays (stays_refresh h) same.committed, ?_⟩⟩
    rw [same.committed]
    exact shows_of_sound sound shown

def views : Views Lodged where
  staged x := Listing.documents x.lists.staged
  committed x := Listing.documents x.lists.committed
  visible x := Listing.documents x.lists.visible
  sound := Sound

theorem Steady.keeps (s : Steady x x') : views.Keeps x x' :=
  ⟨s.sound, congrArg Listing.documents s.committed, congrArg Listing.documents s.visible⟩

end Lodged

/-! ## Right after the opening -/

namespace Lodged

/-- The engine is one that an opening has made, with the disk that it has left. -/
def Opened (x : Lodged) : Prop :=
  ∃ s d index d' log, Opening.run s d = (.ok index, d', log)
    ∧ x = { index.engine with disk := d' }

end Lodged

end WritePath.Engine

namespace WritePath.Opening

open Engine (Lodged)

variable {d d' : Disk} {place : Place}

theorem fades_lock (place : Place) (d : Disk) (holder : Nat) :
    d.Fades place (d.lock (Disk.below place IndexFile.writerLock) holder) := by
  unfold Disk.lock
  split
  · refine .inl (Disk.mark?_congr (Disk.node?_put_of_ne d _ fun same => ?_))
    exact absurd (Disk.below_injective place same) (by decide)
  · exact .refl place d

theorem fades_lockForWriting {s : Settings} {writer : Nat} :
    lockForWriting s d place = (.ok writer, d') → d.Fades place d' := by
  intro h
  unfold lockForWriting at h
  dsimp only at h
  split at h
  · cases h
  · next d₁ there =>
    have fades := Disk.fades_ensureFile place (by decide) there
    split at h
    · cases h
    · cases h
      exact fades.trans (fades_lock place d₁.number.2 _)

theorem fades_openReader {found : Found} :
    openReader found d = (.ok (), d') → d.Fades found.place d' := by
  intro h
  unfold openReader at h
  split at h
  · cases h
  · next d₁ there =>
    obtain rfl := (congrArg Prod.snd h).symm
    exact Disk.fades_ensureFile found.place (by decide) there

theorem mark?_findOrCreate {path : String} {found : Found} {log : List Log.Record} :
    findOrCreate d path = (.ok found, d', log) → d'.mark? found.place = some found.description := by
  intro h
  unfold findOrCreate at h
  split at h
  · cases h
  · next d₁ _ =>
    split at h
    · simp only [Prod.mk.injEq] at h
      obtain ⟨h, rfl, -⟩ := h
      unfold existing at h
      split at h
      · cases h
      · next place' _ =>
        split at h
        · next description removable there =>
          cases h
          simp only [Disk.index?, Option.bind_eq_bind, Option.bind_eq_some_iff] at there
          obtain ⟨names, -, described, said, there⟩ := there
          split at there <;> cases there
          exact said
        · cases h
    · simp only [Prod.mk.injEq] at h
      obtain ⟨h, rfl, -⟩ := h
      unfold created at h ⊢
      split at h
      · cases h
      · next place' _ =>
        split at h
        · next takes =>
          cases h
          rw [if_pos takes]
          exact Disk.mark?_writeMark _ _ _
        · cases h

/-- An engine that has been opened is where the index was found, and shows what is
committed there. -/
theorem sound_beginWriting {s : Settings} {found : Found} {index : OpenIndex}
    (said : d.mark? found.place = some found.description) :
    beginWriting s d found = (.ok index, d') →
      Lodged.Sound { index.engine with disk := d' }
        ∧ index.engine.lists.visible = index.engine.lists.committed := by
  intro h
  unfold beginWriting at h
  split at h
  · cases h
  · split at h
    · cases h
    · next writer d₁ locked =>
      split at h
      · cases h
      · next d₂ opened =>
        cases h
        have fades := (fades_lockForWriting locked).trans (fades_openReader opened)
        refine ⟨?_, rfl⟩
        rintro g ⟨⟩ description said'
        rcases fades with same | gone
        · have same' : found.description = description :=
            Option.some.inj (said.symm.trans (same.symm.trans said'))
          rw [← same']
          rfl
        · exact absurd (said'.symm.trans gone) nofun

theorem sound_run {s : Settings} {index : OpenIndex} {log : List Log.Record} :
    run s d = (.ok index, d', log) →
      Lodged.Sound { index.engine with disk := d' }
        ∧ index.engine.lists.visible = index.engine.lists.committed := by
  intro h
  unfold run at h
  split at h
  · simp only [Prod.mk.injEq] at h
    obtain ⟨h, rfl, -⟩ := h
    unfold inMemory at h
    split at h <;> cases h
    exact ⟨nofun, rfl⟩
  · split at h
    · cases h
    · next found d₁ log' there =>
      simp only [Prod.mk.injEq] at h
      obtain ⟨h, rfl, -⟩ := h
      exact sound_beginWriting (mark?_findOrCreate there) (Prod.ext h rfl)

end WritePath.Opening

namespace WritePath.Engine.Lodged

/-- The engine in its lodging obeys the laws. -/
def editions : Editions Lodged where
  toViews := views
  opened := Opened
  sound_of_opened := by
    rintro x ⟨s, d, index, d', log, ran, rfl⟩
    obtain ⟨sound, shown⟩ := Opening.sound_run ran
    exact ⟨sound, congrArg Listing.documents shown⟩
  length_shown x := by
    show (x.lists.visible.map _).length = (x.lists.visible.map _).length
    rw [List.length_map, List.length_map]
  add d x := (steady_add d x).keeps
  delete id x := (steady_delete id x).keeps
  deleteAll x := (steady_deleteAll x).keeps
  close x := (steady_close x).keeps
  commit_ok := by
    intro x x' stamp h
    obtain ⟨staged, committed, visible, said⟩ := commit_taken h
    refine ⟨said, ?_, congrArg Listing.documents visible⟩
    exact (congrArg Listing.documents committed).trans staged
  commit_error h := (steady_commit h).keeps
  refresh_ok := by
    intro x x' h
    obtain ⟨committed, sees⟩ := refresh_taken h
    refine ⟨congrArg Listing.documents committed, fun sound => ?_⟩
    exact (sees sound).imp_right (congrArg Listing.documents)
  refresh_error h := (steady_refresh h).keeps

end WritePath.Engine.Lodged
