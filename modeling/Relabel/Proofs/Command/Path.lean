import Mathlib.Data.List.Basic
import Mathlib.Data.List.TakeWhile
import Relabel.Command.Path

/-!
# Names in paths

The pieces of a text between slashes, the names among them, and the stem of a name.
-/

namespace Relabel

theorem endsWith_iff {text ending : String} :
    text.endsWith ending = true ↔ ending.toList <:+ text.toList := by
  rw [← String.endsWith_toSlice, String.Slice.endsWith_string_iff, String.copy_toSlice]

/-- A name that an entry of a directory can have. -/
structure IsFileName (name : String) : Prop where
  ne_empty : name ≠ ""
  ne_dot : name ≠ "."
  ne_up : name ≠ ".."
  single : '/' ∉ name.toList

instance (name : String) : Decidable (IsFileName name) :=
  decidable_of_iff (name ≠ "" ∧ name ≠ "." ∧ name ≠ ".." ∧ '/' ∉ name.toList)
    ⟨fun h ↦ ⟨h.1, h.2.1, h.2.2.1, h.2.2.2⟩, fun h ↦ ⟨h.1, h.2, h.3, h.4⟩⟩

namespace Path

theorem splitSlashes_eq_singleton {cs : List Char} (h : '/' ∉ cs) : splitSlashes cs = [cs] := by
  induction cs with
  | nil => rfl
  | cons c rest ih =>
    rw [List.mem_cons, not_or] at h
    rw [splitSlashes, if_neg (by simpa using Ne.symm h.1), ih h.2]

theorem splitSlashes_append {a : List Char} (b : List Char) (h : '/' ∉ a) :
    splitSlashes (a ++ '/' :: b) = a :: splitSlashes b := by
  induction a with
  | nil => rfl
  | cons c rest ih =>
    rw [List.mem_cons, not_or] at h
    rw [List.cons_append, splitSlashes, if_neg (by simpa using Ne.symm h.1), ih h.2]

theorem splitSlashes_ne_nil (cs : List Char) : splitSlashes cs ≠ [] := by
  induction cs with
  | nil => simp [splitSlashes]
  | cons c rest ih =>
    rw [splitSlashes]
    split
    · simp
    · split <;> simp

/-- The pieces of a text with an ending that is no directory. -/
theorem exists_splitSlashes_append (a : List Char) {b : List Char} (h : '/' ∉ b) :
    ∃ before piece, splitSlashes (a ++ b) = before ++ [piece ++ b] ∧ '/' ∉ piece := by
  induction hlength : a.length using Nat.strongRecOn generalizing a with
  | _ n ih =>
    by_cases ha : '/' ∈ a
    · obtain ⟨first, rest, rfl, hfirst⟩ := List.eq_append_cons_of_mem ha
      obtain ⟨before, piece, hsplit, hpiece⟩ :=
        ih rest.length (by simp at hlength; omega) rest rfl
      refine ⟨first :: before, piece, ?_, hpiece⟩
      rw [List.append_assoc, List.cons_append, splitSlashes_append _ hfirst, hsplit,
        List.cons_append]
    · refine ⟨[], a, splitSlashes_eq_singleton ?_, ha⟩
      simp [ha, h]

/-- The pieces of the name of a program: what it leads through, and the name of a file. -/
theorem exists_pieces {text : String} (h : text.endsWith ".js" = true) :
    ∃ before name, (splitSlashes text.toList).map String.ofList = before ++ [name] ∧
      IsFileName name ∧ (ofText text).name = name ∧
      (ofText text).parts = (before.filter fun piece ↦ piece != "" && piece != ".") ++ [name] := by
  obtain ⟨start, htext⟩ := endsWith_iff.mp h
  obtain ⟨before, piece, hsplit, hpiece⟩ :=
    exists_splitSlashes_append start (b := ".js".toList) (by decide)
  rw [htext] at hsplit
  have hne (other : List Char) (hlast : other.getLast? ≠ some 's') :
      String.ofList (piece ++ ".js".toList) ≠ String.ofList other := by
    intro hsame
    rw [← String.ofList_inj.mp hsame] at hlast
    simp at hlast
  have hname : IsFileName (String.ofList (piece ++ ".js".toList)) :=
    ⟨hne [] (by simp), hne ['.'] (by decide), hne ['.', '.'] (by decide), by
      rw [String.toList_ofList, List.mem_append, not_or]
      exact ⟨hpiece, by decide⟩⟩
  have hparts : (ofText text).parts =
      ((before.map String.ofList).filter fun piece ↦ piece != "" && piece != ".") ++
        [String.ofList (piece ++ ".js".toList)] := by
    simp only [ofText, hsplit, List.map_append, List.filter_append, List.map_cons, List.map_nil]
    generalize String.ofList (piece ++ ".js".toList) = last at hname
    simp [hname.ne_empty, hname.ne_dot]
  refine ⟨before.map String.ofList, _, by rw [hsplit]; simp, hname, ?_, hparts⟩
  rw [name, hparts, List.getLastD_concat]

theorem slash_not_mem_piece {cs piece : List Char} (h : piece ∈ splitSlashes cs) : '/' ∉ piece := by
  induction hlength : cs.length using Nat.strongRecOn generalizing cs with
  | _ n ih =>
    by_cases hslash : '/' ∈ cs
    · obtain ⟨first, rest, rfl, hfirst⟩ := List.eq_append_cons_of_mem hslash
      rw [splitSlashes_append rest hfirst] at h
      rcases List.mem_cons.mp h with rfl | hrest
      · exact hfirst
      · exact ih rest.length (by simp at hlength; omega) hrest rfl
    · rw [splitSlashes_eq_singleton hslash, List.mem_singleton] at h
      exact h ▸ hslash

/-- The names of a path are names of entries, and steps up. -/
theorem isFileName_of_mem_parts {text part : String} (h : part ∈ (ofText text).parts)
    (hup : part ≠ "..") : IsFileName part := by
  obtain ⟨hpiece, hkept⟩ := List.mem_filter.mp h
  obtain ⟨piece, hmem, rfl⟩ := List.mem_map.mp hpiece
  rw [Bool.and_eq_true, bne_iff_ne, bne_iff_ne] at hkept
  exact ⟨hkept.1, hkept.2, hup, by simpa using slash_not_mem_piece hmem⟩

section Stem

variable {cs stem ending : List Char}

theorem stemOf_append (h : '.' ∉ ending) : stemOf (stem ++ '.' :: ending) =
    if ending = [] ∨ stem = [] then stem ++ '.' :: ending else stem := by
  have hending : (stem ++ '.' :: ending).reverse.takeWhile (· != '.') = ending.reverse := by
    rw [List.reverse_append, List.reverse_cons, List.append_assoc,
      List.takeWhile_append_of_pos, List.singleton_append, List.takeWhile_cons_of_neg (by simp),
      List.append_nil]
    intro c hc
    rw [bne_iff_ne]
    rintro rfl
    exact h (List.mem_reverse.mp hc)
  have hlength : (stem ++ '.' :: ending).length - ending.length - 1 = stem.length := by
    rw [List.length_append, List.length_cons]
    omega
  unfold stemOf
  dsimp only
  rw [hending, List.length_reverse, hlength, List.take_left]
  simp

theorem stemOf_of_not_mem (h : '.' ∉ cs) : stemOf cs = cs := by
  have hending : cs.reverse.takeWhile (· != '.') = cs.reverse := by
    rw [List.takeWhile_eq_self_iff]
    intro c hc
    rw [bne_iff_ne]
    rintro rfl
    exact h (List.mem_reverse.mp hc)
  unfold stemOf
  dsimp only
  rw [hending, List.length_reverse]
  simp

/-- A text up to its last dot. -/
theorem exists_append_dot (h : '.' ∈ cs) :
    ∃ stem ending, cs = stem ++ '.' :: ending ∧ '.' ∉ ending := by
  obtain ⟨after, before, hsplit, hafter⟩ :=
    List.eq_append_cons_of_mem (List.mem_reverse.mpr h)
  refine ⟨before.reverse, after.reverse, ?_, by simpa using hafter⟩
  rw [← List.reverse_reverse cs, hsplit]
  simp

theorem stemOf_eq_or (cs : List Char) : stemOf cs = cs ∨
    ∃ ending, cs = stemOf cs ++ '.' :: ending ∧ '.' ∉ ending ∧ ending ≠ [] ∧ stemOf cs ≠ [] := by
  by_cases hdot : '.' ∈ cs
  · obtain ⟨stem, ending, rfl, hending⟩ := exists_append_dot hdot
    rw [stemOf_append hending]
    split
    · exact .inl rfl
    · rename_i h
      rw [not_or] at h
      exact .inr ⟨ending, rfl, hending, h⟩
  · exact .inl (stemOf_of_not_mem hdot)

end Stem

variable {p : Path}

theorem exists_name_eq (p : Path) : p.stem = p.name ∨ ∃ ending,
    p.name = p.stem ++ "." ++ ending ∧ '.' ∉ ending.toList ∧ ending ≠ "" ∧ p.stem ≠ "" := by
  rcases stemOf_eq_or p.name.toList with hwhole | ⟨ending, hname, hending, hne, hstem⟩
  · exact .inl (by rw [stem, hwhole, String.ofList_toList])
  · refine .inr ⟨String.ofList ending, ?_, by simpa using hending, by simpa using hne,
      by simpa [stem] using hstem⟩
    rw [← String.toList_inj, hname, stem]
    simp

theorem stem_ne_empty (h : IsFileName p.name) : p.stem ≠ "" := by
  rcases exists_name_eq p with hwhole | ⟨_, -, -, -, hstem⟩
  · exact hwhole ▸ h.ne_empty
  · exact hstem

theorem slash_not_mem_stem (h : IsFileName p.name) : '/' ∉ p.stem.toList := by
  rcases exists_name_eq p with hwhole | ⟨_, hname, -⟩
  · exact hwhole ▸ h.single
  · intro hmem
    refine h.single ?_
    rw [hname]
    simp [hmem]

/-- The stem of a program's name. -/
theorem stem_eq_of_name {stem : String} (h : p.name = stem ++ ".js") :
    p.stem = if stem = "" then ".js" else stem := by
  have hsplit : p.name.toList = stem.toList ++ '.' :: ['j', 's'] := by
    rw [h, String.toList_append]
    rfl
  rw [Path.stem, hsplit, stemOf_append (by decide)]
  by_cases hstem : stem = ""
  · rw [if_pos hstem, if_pos (by simp [hstem]), hstem]
    rfl
  · rw [if_neg hstem, if_neg (by simpa using hstem), String.ofList_toList]

theorem exists_stem_of_endsWith {text : String} (h : text.endsWith ".js" = true) :
    ∃ stem, text = stem ++ ".js" := by
  obtain ⟨start, hstart⟩ := endsWith_iff.mp h
  exact ⟨String.ofList start, by rw [← String.toList_inj, ← hstart]; simp⟩

/-- The stem and an ending of programs give back the name. -/
theorem stem_append_eq_name_iff {suffix : String} (hsuffix : suffix.endsWith ".js" = true) :
    p.stem ++ suffix = p.name ↔ suffix = ".js" ∧ ∃ stem ≠ "", p.name = stem ++ ".js" := by
  constructor
  · intro h
    rcases exists_name_eq p with hwhole | ⟨ending, hname, hending, -, hstem⟩
    · rw [hwhole, String.append_eq_left_iff] at h
      rw [h] at hsuffix
      exact absurd hsuffix (by decide +kernel)
    · rw [hname, String.append_assoc, String.append_right_inj] at h
      have hjs : suffix = ".js" := by
        have hlist : suffix.toList = '.' :: ending.toList := by
          rw [h, String.toList_append]
          rfl
        rw [endsWith_iff, hlist, List.suffix_cons_iff] at hsuffix
        rcases hsuffix with hwhole | hlater
        · exact String.toList_inj.mp (hlist.trans hwhole.symm)
        · exact absurd (hlater.subset List.mem_cons_self) hending
      exact ⟨hjs, p.stem, hstem, by rw [hname, String.append_assoc, ← h, hjs]⟩
  · rintro ⟨rfl, stem, hstem, hname⟩
    rw [stem_eq_of_name hname, if_neg hstem, hname]

/-- Two programs have one stem if they have one name, or one name is the ending of programs and the
other one is that ending twice. -/
theorem stem_eq_stem_iff {q : Path} (hp : p.name.endsWith ".js" = true)
    (hq : q.name.endsWith ".js" = true) : p.stem = q.stem ↔ p.name = q.name ∨
      (p.name = ".js" ∧ q.name = ".js.js") ∨ (p.name = ".js.js" ∧ q.name = ".js") := by
  obtain ⟨stem, hstem⟩ := exists_stem_of_endsWith hp
  obtain ⟨stem', hstem'⟩ := exists_stem_of_endsWith hq
  have hone (text : String) : text ++ ".js" = ".js" ↔ text = "" := by
    rw [← @String.append_left_inj text "" ".js", String.empty_append]
  have htwo (text : String) : text ++ ".js" = ".js.js" ↔ text = ".js" := by
    rw [show ".js.js" = ".js" ++ ".js" by decide, String.append_left_inj]
  rw [stem_eq_of_name hstem, stem_eq_of_name hstem', hstem, hstem', String.append_left_inj,
    hone, hone, htwo, htwo]
  by_cases h : stem = "" <;> by_cases h' : stem' = ""
  · simp [h, h']
  · rw [if_pos h, if_neg h', h, eq_comm]
    simp [h', Ne.symm h']
  · simp [h, h']
  · simp [h, h']

/-- A path that ends in a name, taken apart. -/
theorem eq_parent_append (h : p.name ≠ "") :
    p = { p.parent with parts := p.parent.parts ++ [p.name] } := by
  have hparts : p.parts ≠ [] := by
    intro hnone
    exact h (by simp [name, hnone])
  obtain ⟨root, parts⟩ := p
  simp only [parent, name, mk.injEq, true_and]
  rw [List.getLastD_eq_getLast?, List.getLast?_eq_some_getLast hparts, Option.getD_some,
    List.dropLast_append_getLast]

end Path

end Relabel
