import Relabel.Command.Folder
import Relabel.Proofs.Command.Path
import Relabel.Proofs.Table

/-!
# Ways through a folder

Which places are directories, where the names of a path lead, and what lies below a directory. A
way depends on the directories of a folder alone.
-/

namespace Relabel

theorem nodup_eraseDups {α : Type} [BEq α] [LawfulBEq α] (items : List α) :
    items.eraseDups.Nodup := by
  induction hlength : items.length using Nat.strongRecOn generalizing items with
  | _ n ih =>
    subst hlength
    cases items with
    | nil => simp
    | cons item rest =>
      rw [List.eraseDups_cons, List.nodup_cons]
      have hshorter := List.length_filter_le (fun other ↦ !other == item) rest
      refine ⟨by simp, ih _ ?_ _ rfl⟩
      rw [List.length_cons]
      omega

namespace Folder

variable {f : Folder} {place other : Location} {names : List String} {name : String}

/-- Everything in a folder has a name that an entry can have. -/
def WellNamed (f : Folder) : Prop :=
  ∀ place ∈ f.entries.keys, ∀ name ∈ place, IsFileName name

instance (f : Folder) : Decidable f.WellNamed :=
  inferInstanceAs (Decidable (∀ place ∈ f.entries.keys, ∀ name ∈ place, IsFileName name))

theorem isAbove_iff : isAbove place other = true ↔ place <+: other ∧ place ≠ other := by
  rw [isAbove, Bool.and_eq_true, List.isPrefixOf_iff_prefix, bne_iff_ne]

theorem isDirectory_iff : f.isDirectory place = true ↔ place <+: f.home ∨
    f.entries.get? place = some .directory ∨ ∃ key ∈ f.entries.keys, isAbove place key = true := by
  simp [isDirectory, or_assoc]

@[simp]
theorem isDirectory_nil : f.isDirectory [] = true :=
  isDirectory_iff.mpr (.inl List.nil_prefix)

theorem isDirectory_of_isPrefix (hstart : place <+: other) (h : f.isDirectory other = true) :
    f.isDirectory place = true := by
  by_cases hsame : place = other
  · exact hsame ▸ h
  rcases isDirectory_iff.mp h with hhome | hentry | ⟨key, hkey, habove⟩
  · exact isDirectory_iff.mpr (.inl (hstart.trans hhome))
  · exact isDirectory_iff.mpr
      (.inr (.inr ⟨other, Table.mem_keys_of_get? hentry, isAbove_iff.mpr ⟨hstart, hsame⟩⟩))
  · obtain ⟨hbelow, hother⟩ := isAbove_iff.mp habove
    refine isDirectory_iff.mpr (.inr (.inr ⟨key, hkey, isAbove_iff.mpr ⟨hstart.trans hbelow, ?_⟩⟩))
    rintro rfl
    exact hother (hbelow.eq_of_length_le hstart.length_le)

/-- What stands above an entry is a directory. -/
theorem isDirectory_of_isAbove (h : (f.entries.get? other).isSome)
    (habove : isAbove place other = true) : f.isDirectory place = true := by
  obtain ⟨entry, hentry⟩ := Option.isSome_iff_exists.mp h
  exact isDirectory_iff.mpr (.inr (.inr ⟨other, Table.mem_keys_of_get? hentry, habove⟩))

theorem get?_eq_directory_iff : f.get? place = some .directory ↔ f.isDirectory place = true := by
  unfold get?
  split
  · rename_i h
    simp [h]
  · rename_i h
    refine iff_of_false (fun hentry ↦ h ?_) h
    exact isDirectory_iff.mpr (.inr (.inl hentry))

theorem get?_eq_of_not_isDirectory (h : f.isDirectory place ≠ true) :
    f.get? place = f.entries.get? place :=
  if_neg h

theorem step_of_isFileName (h : IsFileName name) : step place name = place ++ [name] := by
  rw [step, if_neg h.ne_up, if_neg (by simp [h.ne_dot, h.ne_empty])]

theorem follow_cons (part : String) (rest : List String) (h : f.isDirectory place = true) :
    f.follow place (part :: rest) = f.follow (step place part) rest := by
  rw [follow, if_pos h]

theorem follow_append (place : Location) (a b : List String) :
    f.follow place (a ++ b) = (f.follow place a).bind fun place ↦ f.follow place b := by
  induction a generalizing place with
  | nil => rfl
  | cons part rest ih =>
    rw [List.cons_append, follow, follow]
    split
    · exact ih _
    · rfl

theorem follow_append_eq_ok_iff {a b : List String} : f.follow place (a ++ b) = .ok other ↔
    ∃ between, f.follow place a = .ok between ∧ f.follow between b = .ok other := by
  rw [follow_append]
  cases f.follow place a with
  | error blocked => simp [Except.bind]
  | ok between => simp [Except.bind]

/-- Names that lead down lead to where they say. -/
theorem follow_names (hnames : ∀ name ∈ names, IsFileName name)
    (h : f.isDirectory (place ++ names.dropLast) = true) :
    f.follow place names = .ok (place ++ names) := by
  induction names generalizing place with
  | nil => simp [follow]
  | cons name rest ih =>
    have hplace : f.isDirectory place = true :=
      isDirectory_of_isPrefix (List.prefix_append _ _) h
    rw [follow_cons name rest hplace, step_of_isFileName (hnames name List.mem_cons_self)]
    cases rest with
    | nil => rfl
    | cons next rest =>
      rw [ih (fun name hname ↦ hnames name (List.mem_cons_of_mem _ hname)), List.append_assoc]
      · rfl
      · simpa using h

/-- Dots stay where they are. -/
theorem follow_dots {dots : List String} (hdots : ∀ part ∈ dots, part = "." ∨ part = "")
    (h : f.isDirectory place = true) : f.follow place dots = .ok place := by
  induction dots with
  | nil => rfl
  | cons part rest ih =>
    have hstay : step place part = place := by
      rcases hdots part List.mem_cons_self with rfl | rfl <;> rfl
    rw [follow_cons part rest h, hstay]
    exact ih fun part hpart ↦ hdots part (List.mem_cons_of_mem _ hpart)

/-- Where the names of a path are followed from. -/
def start (f : Folder) (p : Path) : Location :=
  if p.isAbsolute then [] else f.home

theorem isDirectory_start (p : Path) : f.isDirectory (f.start p) = true := by
  unfold start
  split
  · exact isDirectory_nil
  · exact isDirectory_iff.mpr (.inl (List.prefix_refl _))

theorem locate_eq_ok_iff {p : Path} :
    f.locate p = .ok place ↔ f.follow (f.start p) p.parts = .ok place := by
  rw [locate, start]
  cases f.follow (if p.isAbsolute then [] else f.home) p.parts with
  | error blocked => simp [Except.mapError]
  | ok place => simp [Except.mapError]

theorem locate_append_eq_ok_iff {p : Path} :
    f.locate { p with parts := p.parts ++ names } = .ok place ↔
      ∃ between, f.locate p = .ok between ∧ f.follow between names = .ok place := by
  simp only [locate_eq_ok_iff]
  exact follow_append_eq_ok_iff

/-- A path that ends in dots and a name leads to the place of that name in a directory. -/
theorem locate_dots_name_eq_ok_iff {p : Path} {dots : List String}
    (hdots : ∀ part ∈ dots, part = "." ∨ part = "") (hname : IsFileName name) :
    f.locate { p with parts := p.parts ++ (dots ++ [name]) } = .ok place ↔
      ∃ directory, f.locate p = .ok directory ∧ f.isDirectory directory = true ∧
        place = directory ++ [name] := by
  rw [locate_append_eq_ok_iff]
  refine exists_congr fun directory ↦ and_congr_right fun _ ↦ ?_
  by_cases h : f.isDirectory directory = true
  · rw [follow_append, follow_dots hdots h]
    simp [Except.bind, follow, h, step_of_isFileName hname, eq_comm]
  · have hblocked : f.follow directory (dots ++ [name]) ≠ .ok place := by
      cases dots <;> simp [follow, h]
    simp [h, hblocked]

theorem locate_name_eq_ok_iff {p : Path} (hname : IsFileName name) :
    f.locate { p with parts := p.parts ++ [name] } = .ok place ↔
      ∃ directory, f.locate p = .ok directory ∧ f.isDirectory directory = true ∧
        place = directory ++ [name] :=
  @locate_dots_name_eq_ok_iff f place name p [] (by simp) hname

theorem mem_below_iff : names ∈ f.below place ↔
    names ≠ [] ∧ ∃ key ∈ f.entries.keys, place ++ names <+: key := by
  unfold below
  simp only [List.mem_eraseDups, List.mem_flatMap, List.mem_filter, List.mem_map, List.mem_range]
  constructor
  · rintro ⟨key, ⟨hkey, habove⟩, i, hi, rfl⟩
    obtain ⟨⟨rest, rfl⟩, -⟩ := isAbove_iff.mp habove
    rw [List.drop_left] at hi ⊢
    refine ⟨?_, place ++ rest, hkey, ?_⟩
    · rw [← List.length_pos_iff, List.length_take]
      omega
    · exact (List.prefix_append_right_inj _).mpr (List.take_prefix _ _)
  · rintro ⟨hne, key, hkey, rest, rfl⟩
    have hlength := List.length_pos_iff.mpr hne
    refine ⟨_, ⟨hkey, isAbove_iff.mpr ⟨⟨names ++ rest, by simp⟩, ?_⟩⟩, names.length - 1, ?_, ?_⟩
    · intro hsame
      have := congrArg List.length hsame
      simp only [List.length_append] at this
      omega
    · simp only [List.append_assoc, List.drop_left, List.length_append]
      omega
    · rw [List.append_assoc, List.drop_left, Nat.sub_add_cancel hlength, List.take_left]

theorem isDirectory_dropLast_of_mem_below (h : names ∈ f.below place) :
    f.isDirectory (place ++ names.dropLast) = true := by
  obtain ⟨hne, key, hkey, hstart⟩ := mem_below_iff.mp h
  have hshort : place ++ names.dropLast <+: place ++ names :=
    (List.prefix_append_right_inj _).mpr (List.dropLast_prefix names)
  refine isDirectory_iff.mpr (.inr (.inr ⟨key, hkey, isAbove_iff.mpr ⟨hshort.trans hstart, ?_⟩⟩))
  rintro rfl
  have hlong := hstart.length_le
  have hlength := List.length_pos_iff.mpr hne
  simp only [List.length_append, List.length_dropLast] at hlong
  omega

theorem isFileName_of_mem_below (hf : f.WellNamed) (h : names ∈ f.below place) :
    ∀ name ∈ names, IsFileName name := by
  obtain ⟨-, key, hkey, hstart⟩ := mem_below_iff.mp h
  exact fun name hname ↦ hf key hkey name (hstart.subset (List.mem_append_right _ hname))

theorem nodup_below : (f.below place).Nodup :=
  nodup_eraseDups _

end Folder

end Relabel
