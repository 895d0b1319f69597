import Relabel.Data.Table

/-!
# Looking things up in a table

What a table answers after a key was written or erased, and that no key ever stands twice.
-/

namespace Relabel.Table

variable {κ α : Type} [DecidableEq κ]

@[simp]
theorem get?_empty (k : κ) : ({} : Table κ α).get? k = none := rfl

theorem get?_cons (entry : κ × α) (rest : List (κ × α)) (k : κ) :
    (Table.mk (entry :: rest)).get? k =
      if entry.1 = k then some entry.2 else (Table.mk rest).get? k := by
  by_cases hk : entry.1 = k <;> simp [get?, hk]

theorem get?_set (t : Table κ α) (k k' : κ) (v : α) :
    (t.set k v).get? k' = if k = k' then some v else t.get? k' := by
  rcases t with ⟨entries⟩
  induction entries with
  | nil => simp [set, setEntries, get?]
  | cons entry rest ih =>
    simp only [set] at ih ⊢
    by_cases hentry : entry.1 = k
    · rw [setEntries, if_pos hentry, get?_cons, get?_cons, hentry]
      by_cases hk : k = k' <;> simp [hk]
    · rw [setEntries, if_neg hentry, get?_cons, get?_cons, ih]
      by_cases hk : k = k'
      · subst hk
        simp [hentry]
      · simp [hk]

theorem get?_erase (t : Table κ α) (k k' : κ) :
    (t.erase k).get? k' = if k = k' then none else t.get? k' := by
  rcases t with ⟨entries⟩
  induction entries with
  | nil => simp [erase, get?]
  | cons entry rest ih =>
    simp only [erase] at ih ⊢
    by_cases hentry : entry.1 = k
    · rw [List.filter_cons_of_neg (by simpa using hentry), ih, get?_cons, hentry]
      by_cases hk : k = k' <;> simp [hk]
    · rw [List.filter_cons_of_pos (by simpa using hentry), get?_cons, get?_cons, ih]
      by_cases hk : k = k'
      · subst hk
        simp [hentry]
      · simp [hk]

@[simp]
theorem get?_set_self (t : Table κ α) (k : κ) (v : α) : (t.set k v).get? k = some v := by
  rw [get?_set, if_pos rfl]

theorem contains_eq_isSome (t : Table κ α) (k : κ) : t.contains k = (t.get? k).isSome := by
  rw [contains, get?, Option.isSome_map, Bool.eq_iff_iff, List.any_eq_true, List.find?_isSome]

theorem mem_keys_setEntries (k k' : κ) (v : α) (entries : List (κ × α)) :
    k' ∈ (setEntries k v entries).map Prod.fst ↔ k' = k ∨ k' ∈ entries.map Prod.fst := by
  induction entries with
  | nil => simp [setEntries]
  | cons entry rest ih =>
    by_cases hentry : entry.1 = k
    · simp [setEntries, hentry]
    · rw [setEntries, if_neg hentry, List.map_cons, List.mem_cons, ih, List.map_cons,
        List.mem_cons]
      exact or_left_comm

theorem nodup_keys_set {t : Table κ α} (h : t.keys.Nodup) (k : κ) (v : α) :
    (t.set k v).keys.Nodup := by
  rcases t with ⟨entries⟩
  simp only [keys, set] at h ⊢
  induction entries with
  | nil => simp [setEntries]
  | cons entry rest ih =>
    obtain ⟨hnew, hrest⟩ := List.nodup_cons.mp h
    by_cases hentry : entry.1 = k
    · simpa [setEntries, hentry] using h
    · rw [setEntries, if_neg hentry, List.map_cons, List.nodup_cons, mem_keys_setEntries]
      refine ⟨?_, ih hrest⟩
      rintro (hk | hk)
      · exact hentry hk
      · exact hnew hk

theorem nodup_keys_erase {t : Table κ α} (h : t.keys.Nodup) (k : κ) : (t.erase k).keys.Nodup :=
  h.sublist (List.filter_sublist.map Prod.fst)

theorem mem_keys_of_get? {t : Table κ α} {k : κ} {v : α} (h : t.get? k = some v) : k ∈ t.keys := by
  obtain ⟨entry, hentry, -⟩ := Option.map_eq_some_iff.mp h
  refine List.mem_map.mpr ⟨entry, List.mem_of_find?_eq_some hentry, ?_⟩
  simpa using List.find?_some hentry

theorem get?_of_mem_entries {t : Table κ α} (h : t.keys.Nodup) {entry : κ × α}
    (hentry : entry ∈ t.entries) : t.get? entry.1 = some entry.2 := by
  rcases t with ⟨entries⟩
  induction entries with
  | nil => exact absurd hentry List.not_mem_nil
  | cons first rest ih =>
    obtain ⟨hnew, hrest⟩ := List.nodup_cons.mp h
    rw [get?_cons]
    rcases List.mem_cons.mp hentry with rfl | hmem
    · rw [if_pos rfl]
    · have hother : first.1 ≠ entry.1 := fun hsame ↦
        hnew (hsame ▸ List.mem_map.mpr ⟨entry, hmem, rfl⟩)
      rw [if_neg hother, ih hrest hmem]

theorem map_get?_keys {t : Table κ α} (h : t.keys.Nodup) :
    t.keys.map t.get? = t.values.map some := by
  rw [keys, values, List.map_map, List.map_map]
  exact List.map_congr_left fun entry hentry ↦ get?_of_mem_entries h hentry

end Relabel.Table
