import Mathlib.Data.Set.Insert
import Relabel.Proofs.Command.Folder

/-!
# What a write leaves alone

A file that is written changes what stands at its own place, and nothing else: no directory comes
into being or goes. So paths keep their places, and whether a file can be written is settled by the
directories alone.
-/

namespace Relabel.Folder

/-- Two folders have the same directories, and the same files except at some places. -/
structure AlikeOutside (places : Set Location) (f f' : Folder) : Prop where
  home : f'.home = f.home
  isDirectory : ∀ place, f'.isDirectory place = f.isDirectory place
  get? : ∀ place ∉ places, f'.get? place = f.get? place

variable {f f' f'' : Folder} {places places' : Set Location} {place other : Location} {p : Path}
  {bytes : List UInt8}

namespace AlikeOutside

theorem refl (places : Set Location) (f : Folder) : f.AlikeOutside places f :=
  ⟨rfl, fun _ ↦ rfl, fun _ _ ↦ rfl⟩

theorem trans (h : f.AlikeOutside places f') (h' : f'.AlikeOutside places f'') :
    f.AlikeOutside places f'' where
  home := h'.home.trans h.home
  isDirectory place := (h'.isDirectory place).trans (h.isDirectory place)
  get? place hplace := (h'.get? place hplace).trans (h.get? place hplace)

theorem mono (h : f.AlikeOutside places f') (hsub : places ⊆ places') :
    f.AlikeOutside places' f' where
  home := h.home
  isDirectory := h.isDirectory
  get? place hplace := h.get? place fun hmem ↦ hplace (hsub hmem)

/-- Names lead to the same places. -/
theorem follow_eq_ok_iff (h : f.AlikeOutside places f') {names : List String} :
    f'.follow place names = .ok other ↔ f.follow place names = .ok other := by
  induction names generalizing place with
  | nil => rfl
  | cons name rest ih =>
    by_cases hdirectory : f.isDirectory place = true
    · rw [follow_cons name rest hdirectory,
        follow_cons name rest ((h.isDirectory place).trans hdirectory)]
      exact ih
    · have hdirectory' : f'.isDirectory place ≠ true := h.isDirectory place ▸ hdirectory
      rw [follow, follow, if_neg hdirectory, if_neg hdirectory']
      simp

theorem locate_eq_ok_iff (h : f.AlikeOutside places f') :
    f'.locate p = .ok place ↔ f.locate p = .ok place := by
  rw [Folder.locate_eq_ok_iff, Folder.locate_eq_ok_iff, h.follow_eq_ok_iff, start, start, h.home]

/-- A file at any other place is read the same. -/
theorem read_eq (h : f.AlikeOutside places f') (hplace : f.locate p = .ok place)
    (hmem : place ∉ places) : f'.read p = f.read p := by
  rw [read, read, hplace, h.locate_eq_ok_iff.mpr hplace]
  simp only [bind, Except.bind, h.get? place hmem]

end AlikeOutside

theorem read_eq_of_get? (hplace : f.locate p = .ok place)
    (hentry : f.get? place = some (.file bytes)) : f.read p = .ok bytes := by
  rw [read, hplace]
  simp only [bind, Except.bind, hentry]
  rfl

theorem isPrefix_dropLast (hstart : place <+: other) (hne : place ≠ other) :
    place <+: other.dropLast := by
  refine List.prefix_of_prefix_length_le hstart (List.dropLast_prefix other) ?_
  have hshorter := lt_of_le_of_ne hstart.length_le fun h ↦ hne (hstart.eq_of_length h)
  rw [List.length_dropLast]
  omega

/-- A file that is set where a file can stand makes no directory and ends none. -/
theorem isDirectory_set (hfile : f.isDirectory place ≠ true)
    (hparent : f.isDirectory place.dropLast = true) (other : Location) :
    (f.set place (.file bytes)).isDirectory other = f.isDirectory other := by
  rw [Bool.eq_iff_iff]
  constructor
  · intro h
    rcases isDirectory_iff.mp h with hhome | hentry | ⟨key, hkey, habove⟩
    · exact isDirectory_iff.mpr (.inl hhome)
    · rw [set, Table.get?_set] at hentry
      split at hentry
      · cases hentry
      · exact isDirectory_iff.mpr (.inr (.inl hentry))
    · rcases (Table.mem_keys_setEntries _ _ _ _).mp hkey with rfl | hold
      · obtain ⟨hstart, hne⟩ := isAbove_iff.mp habove
        exact isDirectory_of_isPrefix (isPrefix_dropLast hstart hne) hparent
      · exact isDirectory_iff.mpr (.inr (.inr ⟨key, hold, habove⟩))
  · intro h
    rcases isDirectory_iff.mp h with hhome | hentry | ⟨key, hkey, habove⟩
    · exact isDirectory_iff.mpr (.inl hhome)
    · refine isDirectory_iff.mpr (.inr (.inl ?_))
      rw [set, Table.get?_set, if_neg, hentry]
      rintro rfl
      exact hfile h
    · exact isDirectory_iff.mpr
        (.inr (.inr ⟨key, (Table.mem_keys_setEntries _ _ _ _).mpr (.inr hkey), habove⟩))

theorem get?_set (hfile : f.isDirectory place ≠ true)
    (hparent : f.isDirectory place.dropLast = true) (other : Location) :
    (f.set place (.file bytes)).get? other =
      if other = place then some (.file bytes) else f.get? other := by
  unfold get?
  rw [isDirectory_set hfile hparent]
  split
  · rename_i hdirectory
    rw [if_neg]
    rintro rfl
    exact hfile hdirectory
  · rw [set, Table.get?_set]
    simp only [eq_comm]

theorem alikeOutside_set (hfile : f.isDirectory place ≠ true)
    (hparent : f.isDirectory place.dropLast = true) (hplace : place ∈ places) :
    f.AlikeOutside places (f.set place (.file bytes)) where
  home := rfl
  isDirectory := isDirectory_set hfile hparent
  get? other hother := by
    rw [get?_set hfile hparent, if_neg]
    rintro rfl
    exact hother hplace

theorem isAbove_dropLast (hfile : f.isDirectory place ≠ true) :
    isAbove place.dropLast place = true := by
  refine isAbove_iff.mpr ⟨List.dropLast_prefix place, fun hsame ↦ ?_⟩
  have hnil : place = [] := by
    rw [← List.length_eq_zero_iff]
    have hlength := congrArg List.length hsame
    rw [List.length_dropLast] at hlength
    omega
  exact hfile (hnil ▸ isDirectory_nil)

/-- A write changes the folder at one place. -/
theorem exists_set_of_write (h : f.write p bytes = .ok f') : ∃ place, f.locate p = .ok place ∧
    f.isDirectory place ≠ true ∧ f.isDirectory place.dropLast = true ∧
      f' = f.set place (.file bytes) := by
  unfold write at h
  cases hplace : f.locate p with
  | error fault =>
    rw [hplace] at h
    cases h
  | ok place =>
    rw [hplace] at h
    have hfile : f.isDirectory place ≠ true := by
      intro hdirectory
      have hentry := get?_eq_directory_iff.mpr hdirectory
      simp only [bind, Except.bind, hentry] at h
      cases h
    refine ⟨place, rfl, hfile, ?_⟩
    simp only [bind, Except.bind] at h
    split at h
    · cases h
    · rename_i hentry
      rw [get?_eq_of_not_isDirectory hfile] at hentry
      have hsome : (f.entries.get? place).isSome := Option.isSome_of_eq_some hentry
      exact ⟨isDirectory_of_isAbove hsome (isAbove_dropLast hfile), (Except.ok.inj h).symm⟩
    · split at h
      · rename_i hparent
        exact ⟨hparent, (Except.ok.inj h).symm⟩
      · cases h

theorem alikeOutside_of_write (h : f.write p bytes = .ok f')
    (hp : ∀ place, f.locate p = .ok place → place ∈ places) : f.AlikeOutside places f' := by
  obtain ⟨place, hplace, hfile, hparent, rfl⟩ := exists_set_of_write h
  exact alikeOutside_set hfile hparent (hp place hplace)

/-- Saving next to an entry is writing. -/
theorem save_eq {around : Location} (haround : f.locate p.parent = .ok around)
    (hdirectory : f.isDirectory around = true) (hplace : f.locate p = .ok place)
    (hparent : f.isDirectory place.dropLast = true) (bytes : List UInt8) : f.save p bytes =
      if f.isDirectory place then .error (.isDirectory p.text)
      else .ok (f.set place (.file bytes)) := by
  have hmade : f.makeDirectory p.parent (p.parts.length + 1) = .ok f := by
    rw [makeDirectory, haround]
    dsimp only
    rw [get?_eq_directory_iff.mpr hdirectory]
  have hsave : f.save p bytes = f.write p bytes := by
    rw [save, hmade]
    rfl
  rw [hsave, write, hplace]
  simp only [bind, Except.bind]
  by_cases hfile : f.isDirectory place = true
  · rw [get?_eq_directory_iff.mpr hfile, if_pos hfile]
    rfl
  · rw [if_neg hfile]
    split
    · rename_i hentry
      exact absurd (get?_eq_directory_iff.mp hentry) hfile
    · rfl
    · rw [if_pos hparent]
      rfl

end Relabel.Folder
