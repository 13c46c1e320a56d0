import WritePath.Engine.Lodged
import WritePath.Proofs.Disk.Fading
import WritePath.Proofs.Engine.Staging

/-!
# Generations of documents

Every engine has three generations of documents: what is staged, what is
committed, and what readers see.  `Generations` says of an engine which they are,
and carries what forced steps have to know about them: a commit that succeeds
makes what is staged the committed generation, and a refresh after it shows
that, or changes nothing if it fails.

The engine in memory and the engine of lists copy one generation to the next.
The engine in its lodging reads what it shows from the disk.  Right after its
own commit the mark there says what was committed, or is gone.
-/

namespace WritePath.Engine

/-- The three generations of an engine, in some form. -/
structure Generations (ε γ : Type) [Engine ε] where
  staged : ε → γ
  committed : ε → γ
  visible : ε → γ
  commit_ok : ∀ {m m' : ε} {stamp : Stamp}, Engine.commit m = (.ok stamp, m') →
    staged m' = staged m ∧ committed m' = staged m ∧ visible m' = visible m
  refresh_ok : ∀ {m m' m'' : ε} {stamp : Stamp}, Engine.commit m = (.ok stamp, m') →
    Engine.refresh m' = (.ok (), m'') →
    staged m'' = staged m' ∧ committed m'' = committed m' ∧ visible m'' = committed m'
  refresh_error : ∀ {m m' m'' : ε} {stamp : Stamp} {e : Failure},
    Engine.commit m = (.ok stamp, m') → Engine.refresh m' = (.error e, m'') →
    staged m'' = staged m' ∧ committed m'' = committed m' ∧ visible m'' = visible m'

/-! ## In memory -/

namespace Memory

theorem commit_taken {m m' : Memory} {stamp : Stamp} :
    Engine.commit m = (.ok stamp, m') →
      m' = { m with
        committed := m.staged
        stamp := m.stamp + 1
        events := m.events ++ [.commit] } := by
  intro h
  cases hm : m.closed with
  | true =>
    have refused : Engine.commit m = (.error closedFault, m) :=
      show Memory.commit m = _ from whileOpen_closed hm _
    rw [refused] at h
    cases h
  | false =>
    cases hn : m.faults.commits with
    | zero =>
      rw [commit_sound hm hn] at h
      cases h
      simp only [hm]
    | succ n =>
      rw [commit_faulty hm hn] at h
      cases h

theorem refresh_cases (m : Memory) :
    Engine.refresh m
        = (.ok (), { m with visible := m.committed, events := m.events ++ [.refresh] })
      ∨ ∃ e, Engine.refresh m = (.error e, m) := by
  show Memory.refresh m = _ ∨ ∃ e, Memory.refresh m = _
  simp only [Memory.refresh, whileOpen]
  split
  · exact .inr ⟨_, rfl⟩
  · split
    · exact .inr ⟨_, rfl⟩
    · exact .inl rfl

def generations : Generations Memory (Keyed Document) where
  staged := Memory.staged
  committed := Memory.committed
  visible := Memory.visible
  commit_ok := by
    intro m m' stamp h
    obtain rfl := commit_taken h
    exact ⟨rfl, rfl, rfl⟩
  refresh_ok := by
    intro m m' m'' stamp _ h
    rcases refresh_cases m' with taken | ⟨e, refused⟩
    · rw [taken] at h
      cases h
      exact ⟨rfl, rfl, rfl⟩
    · rw [refused] at h
      cases h
  refresh_error := by
    intro m m' m'' stamp e _ h
    rcases refresh_cases m' with taken | ⟨e, refused⟩
    · rw [taken] at h
      cases h
    · rw [refused] at h
      cases h
      exact ⟨rfl, rfl, rfl⟩

end Memory

/-! ## As lists -/

namespace Listing

/-- A list of kept documents, without what is known of where they lie. -/
def documents (kept : List Kept) : List Document :=
  kept.map Kept.document

theorem commit_taken {l l' : Listing} {stamp : Stamp} :
    Listing.commit l = (.ok stamp, l') →
      l.detached = false ∧ l' = { l with committed := l.staged, stamp := l.stamp + 1 } := by
  intro h
  unfold Listing.commit at h
  split at h
  · cases h
  · next hd =>
    cases h
    exact ⟨Bool.not_eq_true _ ▸ hd, rfl⟩

theorem refresh_taken {l l' : Listing} :
    Listing.refresh l = (.ok (), l') →
      l.detached = false ∧ l' = { l with visible := l.committed } := by
  intro h
  unfold Listing.refresh at h
  split at h
  · cases h
  · next hd =>
    cases h
    exact ⟨Bool.not_eq_true _ ▸ hd, rfl⟩

theorem refresh_refused {l l' : Listing} {e : Failure} :
    Listing.refresh l = (.error e, l') → l.detached = true ∧ l' = l := by
  intro h
  unfold Listing.refresh at h
  split at h
  · next hd =>
    cases h
    exact ⟨hd, rfl⟩
  · cases h

def generations : Generations Listing (List Document) where
  staged l := documents l.staged
  committed l := documents l.committed
  visible l := documents l.visible
  commit_ok := by
    intro l l' stamp h
    obtain ⟨-, rfl⟩ := commit_taken h
    exact ⟨rfl, rfl, rfl⟩
  refresh_ok := by
    intro l l' l'' stamp _ h
    obtain ⟨-, rfl⟩ := refresh_taken h
    exact ⟨rfl, rfl, rfl⟩
  refresh_error := by
    intro l l' l'' stamp e _ h
    obtain ⟨-, rfl⟩ := refresh_refused h
    exact ⟨rfl, rfl, rfl⟩

end Listing

/-! ## In its lodging -/

namespace Lodging

variable {g g' : Lodging} {d d' : Disk} {staged staged' visible : List Kept}

/-- Writing down deletions changes where documents lie and not what they are. -/
theorem documents_pierce? {file : String} :
    g.pierce? d staged file = some (g', d', staged') →
      Listing.documents staged' = Listing.documents staged := by
  intro h
  simp only [pierce?, Option.bind_eq_bind, Option.bind_eq_some_iff, Option.pure_def,
    Option.some.injEq, Prod.mk.injEq] at h
  obtain ⟨⟨name, g₁, d₁⟩, -, -, -, rfl⟩ := h
  simp only [Listing.documents, List.map_map]
  refine List.map_congr_left fun k _ => ?_
  simp only [Function.comp_apply]
  split <;> rfl

theorem documents_lookInto? :
    g.lookInto? d staged visible = some (g', d', staged') →
      Listing.documents staged' = Listing.documents staged := by
  have each (files : List String) (g : Lodging) (d : Disk) (staged : List Kept) :
      files.foldlM (fun (x : Lodging × Disk × List Kept) file => x.1.pierce? x.2.1 x.2.2 file)
          (g, d, staged) = some (g', d', staged') →
        Listing.documents staged' = Listing.documents staged := by
    induction files generalizing g d staged with
    | nil =>
      intro h
      cases h
      rfl
    | cons file rest ih =>
      intro h
      simp only [List.foldlM_cons, Option.bind_eq_bind, Option.bind_eq_some_iff] at h
      obtain ⟨⟨g₁, d₁, staged₁⟩, pierced, h⟩ := h
      exact (ih g₁ d₁ staged₁ h).trans (documents_pierce? pierced)
  intro h
  unfold lookInto? at h
  split at h
  · exact each _ _ _ _ h
  · cases h

theorem fades_lockForReading? {place : Place} :
    g.place = place → g.lockForReading? d = some d' → d.Fades place d' := by
  rintro rfl h
  unfold lockForReading? at h
  split at h
  · exact Disk.fades_ensureFile g.place (by decide) h
  · cases h

theorem sweep_place (g : Lodging) (d : Disk) (kept : List Kept) :
    (g.sweep d kept).1.place = g.place := by
  unfold sweep
  split <;> rfl

theorem fades_sweep (g : Lodging) (d : Disk) (kept : List Kept) :
    d.Fades g.place (g.sweep d kept).2 := by
  unfold sweep
  split
  · exact .refl g.place d
  · next d' locked =>
    have swept := (fades_lockForReading? rfl locked).trans
      (Disk.fades_sweep g.place d' g.place (kept.flatMap (·.segment.files)) g.removable)
    dsimp only
    split
    · exact swept.trans (Disk.fades_write g.place _ _ (by decide))
    · exact swept

end Lodging

namespace Lodged

theorem failCommit_eq (x : Lodged) :
    failCommit x = (.error Listing.commitFault, x.cutOff true) :=
  rfl

theorem publish_taken {g : Lodging} {x x' : Lodged} {stamp : Stamp} :
    publish g x = (.ok stamp, x') →
      x'.lists = { x.lists with
          committed := x.lists.staged
          stamp := x.lists.stamp + 1
          detached := false }
        ∧ ∀ g', x'.lodging = some g' → ∀ description,
          x'.disk.mark? g'.place = some description → description.kept = x.lists.staged := by
  intro h
  simp only [publish, onLists, cutOff, Listing.commit, Listing.stamped, Bool.false_eq_true,
    if_false, Prod.mk.injEq] at h
  obtain ⟨-, rfl⟩ := h
  refine ⟨rfl, ?_⟩
  rintro g' ⟨⟩ description said
  rw [g.sweep_place] at said
  rcases g.fades_sweep (x.disk.writeMark g.place { fields := g.fields, kept := x.lists.staged })
    x.lists.staged with same | gone
  · rw [said, Disk.mark?_writeMark] at same
    cases same
    rfl
  · rw [said] at gone
    cases gone

/-- A commit that succeeds copies the staged documents, and writes them into the
mark if there is a directory. -/
theorem commit_taken {x x' : Lodged} {stamp : Stamp} :
    Engine.commit x = (.ok stamp, x') →
      Listing.documents x'.lists.staged = Listing.documents x.lists.staged
        ∧ x'.lists.committed = x'.lists.staged ∧ x'.lists.visible = x.lists.visible
        ∧ ∀ g, x'.lodging = some g → ∀ description,
          x'.disk.mark? g.place = some description → description.kept = x'.lists.committed := by
  intro h
  have h : Lodged.commit x = (.ok stamp, x') := h
  unfold Lodged.commit at h
  split at h
  · next hl =>
    simp only [onLists] at h
    rcases hc : Listing.commit x.lists with ⟨e | n, l⟩
    · simp [hc] at h
    · obtain ⟨-, rfl⟩ := Listing.commit_taken hc
      simp only [hc, Prod.mk.injEq, Except.ok.injEq] at h
      obtain ⟨rfl, rfl⟩ := h
      exact ⟨rfl, rfl, rfl, by simp [hl]⟩
  · next g hl =>
    split at h
    · simp [failCommit_eq] at h
    · dsimp only at h
      split at h
      · simp [failCommit_eq] at h
      · next g' disk staged looked =>
        split at h
        · obtain ⟨lists, said⟩ := publish_taken h
          rw [lists]
          exact ⟨Lodging.documents_lookInto? looked, rfl, rfl, said⟩
        · simp [failCommit_eq] at h

/-- The lists are the same but for what readers see. -/
structure SameLists (x x' : Lodged) : Prop where
  staged : x'.lists.staged = x.lists.staged
  committed : x'.lists.committed = x.lists.committed

/-- Where a refresh finds what it shows. -/
inductive Shows (x : Lodged) : List Kept → Prop where
  | lists : x.lodging = none → Shows x x.lists.committed
  | mark {g : Lodging} {disk : Disk} {description : Description} :
      x.lodging = some g → x.disk.Fades g.place disk → disk.mark? g.place = some description →
      Shows x description.kept

theorem refresh_cases (x : Lodged) :
    (∃ e x', Engine.refresh x = (.error e, x') ∧ SameLists x x'
        ∧ x'.lists.visible = x.lists.visible)
      ∨ ∃ x', Engine.refresh x = (.ok (), x') ∧ SameLists x x' ∧ Shows x x'.lists.visible := by
  show (∃ e x', Lodged.refresh x = (.error e, x') ∧ _) ∨ ∃ x', Lodged.refresh x = (.ok (), x') ∧ _
  unfold Lodged.refresh
  split
  · next hl =>
    rcases hr : Listing.refresh x.lists with ⟨e | _, l⟩
    · obtain ⟨-, rfl⟩ := Listing.refresh_refused hr
      exact .inl ⟨e, x, by simp only [onLists, hr], ⟨rfl, rfl⟩, rfl⟩
    · obtain ⟨-, rfl⟩ := Listing.refresh_taken hr
      refine .inr ⟨{ x with lists := { x.lists with visible := x.lists.committed } }, ?_,
        ⟨rfl, rfl⟩, .lists hl⟩
      simp only [onLists, hr]
  · next g hl =>
    split
    · exact .inl ⟨_, _, rfl, ⟨rfl, rfl⟩, rfl⟩
    · next disk locked =>
      dsimp only
      split
      · exact .inl ⟨_, _, rfl, ⟨rfl, rfl⟩, rfl⟩
      · next kept found =>
        simp only [Lodging.committed?, Option.bind_eq_bind, Option.bind_eq_some_iff] at found
        obtain ⟨description, said, found⟩ := found
        split at found <;> cases found
        exact .inr ⟨_, rfl, ⟨rfl, rfl⟩, .mark hl (Lodging.fades_lockForReading? rfl locked) said⟩

/-- Right after a commit a refresh shows what was committed. -/
theorem shows_committed {x x' : Lodged} {stamp : Stamp} {kept : List Kept} :
    Engine.commit x = (.ok stamp, x') → Shows x' kept → kept = x'.lists.committed := by
  intro hc shown
  obtain ⟨-, -, -, said⟩ := commit_taken hc
  cases shown with
  | lists => rfl
  | mark hl fades found =>
    rcases fades with same | gone
    · exact said _ hl _ (same ▸ found)
    · rw [found] at gone
      cases gone

def generations : Generations Lodged (List Document) where
  staged x := Listing.documents x.lists.staged
  committed x := Listing.documents x.lists.committed
  visible x := Listing.documents x.lists.visible
  commit_ok := by
    intro x x' stamp h
    obtain ⟨staged, committed, visible, -⟩ := commit_taken h
    exact ⟨staged, by rw [committed, staged], by rw [visible]⟩
  refresh_ok := by
    intro x x' x'' stamp hc h
    rcases refresh_cases x' with ⟨e, y, refused, -⟩ | ⟨y, taken, same, shown⟩
    · rw [refused] at h
      cases h
    · rw [taken] at h
      cases h
      exact ⟨by rw [same.staged], by rw [same.committed], by rw [shows_committed hc shown]⟩
  refresh_error := by
    intro x x' x'' stamp e hc h
    rcases refresh_cases x' with ⟨e, y, refused, same, visible⟩ | ⟨y, taken, -⟩
    · rw [refused] at h
      cases h
      exact ⟨by rw [same.staged], by rw [same.committed], by rw [visible]⟩
    · rw [taken] at h
      cases h

end Lodged

end WritePath.Engine
