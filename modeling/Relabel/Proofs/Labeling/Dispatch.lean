import Mathlib.Data.List.Sort
import Relabel.Proofs.Labeling.Order

/-!
# The idioms that a pass tries on a node

A pass can be made of a list of idioms if no two of them look at one kind of node with one priority.
So the order of the list does not matter: the idioms for a node are tried in the order of their
priorities, no two of which are the same, and passes that differ in the order of their idioms alone
do the same.
-/

namespace Relabel

namespace Pass

/-- No two idioms of a list would be tried at the same time. -/
def Apart (idioms : List Idiom) : Prop :=
  idioms.Pairwise fun a b ↦ sharePlace a b = false

theorem sharePlace_eq_false_iff {a b : Idiom} :
    sharePlace a b = false ↔ (a.kind = b.kind → a.priority ≠ b.priority) := by
  simp [sharePlace]

theorem sharePlace_comm (a b : Idiom) : sharePlace a b = sharePlace b a := by
  unfold sharePlace
  rw [BEq.comm, BEq.comm (a := a.priority)]

theorem apart_perm {idioms others : List Idiom} (h : idioms.Perm others) :
    Apart idioms ↔ Apart others :=
  h.pairwise_iff fun {a b} hab ↦ (sharePlace_comm b a).trans hab

theorem conflict?_eq_none_iff {seen idioms : List Idiom} :
    conflict? seen idioms = none ↔
      (∀ idiom ∈ idioms, ∀ earlier ∈ seen, sharePlace idiom earlier = false) ∧ Apart idioms := by
  induction idioms generalizing seen with
  | nil => simp [conflict?, Apart]
  | cons idiom rest ih =>
    unfold conflict?
    cases hfound : seen.find? (sharePlace idiom) with
    | some earlier =>
      have hshares := List.find?_some hfound
      simp only [reduceCtorEq, List.forall_mem_cons, false_iff, not_and]
      intro hfree
      exact absurd (hshares.symm.trans (hfree.1 earlier (List.mem_of_find?_eq_some hfound)))
        (by simp)
    | none =>
      have hfree : ∀ earlier ∈ seen, sharePlace idiom earlier = false := by
        simpa using List.find?_eq_none.mp hfound
      rw [ih, Apart, Apart, List.pairwise_cons, List.forall_mem_cons]
      constructor
      · rintro ⟨hall, hapart⟩
        refine ⟨⟨hfree, fun other hother earlier hearlier ↦ ?_⟩, fun other hother ↦ ?_, hapart⟩
        · exact hall other hother earlier (List.mem_append_left _ hearlier)
        · rw [sharePlace_comm]
          exact hall other hother idiom (List.mem_append_right _ (List.mem_singleton_self idiom))
      · rintro ⟨⟨-, hrest⟩, hfirst, hapart⟩
        refine ⟨fun other hother earlier hearlier ↦ ?_, hapart⟩
        rcases List.mem_append.mp hearlier with hseen | hlast
        · exact hrest other hother earlier hseen
        · rw [List.mem_singleton.mp hlast, sharePlace_comm]
          exact hfirst other hother

/-- A pass is made of idioms that have places of their own. -/
theorem create_eq_ok_iff {name description : String} {idioms : List Idiom} {pass : Pass} :
    create name description idioms = .ok pass ↔
      Apart idioms ∧ pass = { name, description, idioms } := by
  have hconflict : conflict? [] idioms = none ↔ _ := conflict?_eq_none_iff
  simp only [List.not_mem_nil, IsEmpty.forall_iff, implies_true, true_and] at hconflict
  rw [← hconflict, create]
  cases conflict? [] idioms with
  | none => simp [eq_comm]
  | some places => simp

/-- The idioms of a pass that look at a node, in strictly increasing priority. -/
structure Tries (pass : Pass) (n : Node) (idioms : List Idiom) : Prop where
  mem : ∀ idiom, idiom ∈ idioms ↔ idiom ∈ pass.idioms ∧ n.kind = some idiom.kind
  increasing : idioms.Pairwise fun a b ↦ a.priority < b.priority

/-- There is one way to try the idioms of a pass on a node. -/
theorem Tries.eq {pass pass' : Pass} {n : Node} {idioms idioms' : List Idiom}
    (h : Tries pass n idioms) (h' : Tries pass' n idioms')
    (hmem : ∀ idiom, idiom ∈ pass.idioms ↔ idiom ∈ pass'.idioms) : idioms = idioms' := by
  have hnodup {xs : List Idiom} (hxs : xs.Pairwise fun a b ↦ a.priority < b.priority) :
      xs.Nodup := hxs.imp fun hlt hsame ↦ absurd (hsame ▸ hlt) (Nat.lt_irrefl _)
  have hperm : idioms.Perm idioms' := by
    refine (List.perm_ext_iff_of_nodup (hnodup h.increasing) (hnodup h'.increasing)).mpr ?_
    intro idiom
    rw [h.mem, h'.mem, hmem]
  exact hperm.eq_of_pairwise (fun a b _ _ hab hba ↦ absurd hab (Nat.lt_asymm hba)) h.increasing
    h'.increasing

/-- Idioms with places of their own, sorted by priority, are in strictly increasing priority. -/
theorem tries_of_perm {pass : Pass} {n : Node} {idioms : List Idiom} (h : Apart pass.idioms)
    (hperm : idioms.Perm (pass.idioms.filter fun idiom ↦ n.kind == some idiom.kind))
    (hsorted : idioms.Pairwise fun a b ↦ a.priority ≤ b.priority) : Tries pass n idioms := by
  have hmem (idiom : Idiom) :
      idiom ∈ idioms ↔ idiom ∈ pass.idioms ∧ n.kind = some idiom.kind := by
    rw [hperm.mem_iff]
    simp
  refine ⟨hmem, ?_⟩
  have hapart : Apart idioms := (apart_perm hperm).mpr (h.sublist List.filter_sublist)
  refine (hsorted.and hapart).imp_of_mem fun {a b} ha hb hboth ↦ ?_
  have hkind : a.kind = b.kind :=
    Option.some.inj (((hmem a).mp ha).2.symm.trans ((hmem b).mp hb).2)
  exact lt_of_le_of_ne hboth.1 (sharePlace_eq_false_iff.mp hboth.2 hkind)

/-- The idioms of a pass for a node, sorted by priority. -/
def candidates (pass : Pass) (n : Node) : List Idiom :=
  (pass.idioms.filter fun idiom ↦ n.kind == some idiom.kind).mergeSort
    fun a b ↦ a.priority ≤ b.priority

theorem pairwise_mergeSort_priority (idioms : List Idiom) :
    (idioms.mergeSort fun a b ↦ a.priority ≤ b.priority).Pairwise
      fun a b ↦ a.priority ≤ b.priority := by
  have htrans (a b c : Idiom) (hab : decide (a.priority ≤ b.priority) = true)
      (hbc : decide (b.priority ≤ c.priority) = true) : decide (a.priority ≤ c.priority) = true :=
    decide_eq_true ((of_decide_eq_true hab).trans (of_decide_eq_true hbc))
  have htotal (a b : Idiom) :
      (decide (a.priority ≤ b.priority) || decide (b.priority ≤ a.priority)) = true := by
    simpa using Nat.le_total a.priority b.priority
  simpa using List.pairwise_mergeSort htrans htotal idioms

theorem tries_candidates {pass : Pass} (h : Apart pass.idioms) (n : Node) :
    Tries pass n (pass.candidates n) :=
  tries_of_perm h (List.mergeSort_perm _ _) (pairwise_mergeSort_priority _)

/-- A table has the idioms of each kind in the order in which it was given them. -/
theorem getD_get?_foldl (idioms : List Idiom) (table : Table Kind (List Idiom)) (kind : Kind) :
    ((idioms.foldl (fun table idiom ↦
        table.set idiom.kind ((table.get? idiom.kind).getD [] ++ [idiom])) table).get? kind).getD [] =
      (table.get? kind).getD [] ++ idioms.filter fun idiom ↦ kind == idiom.kind := by
  induction idioms generalizing table with
  | nil => simp
  | cons idiom rest ih =>
    rw [List.foldl_cons, ih, Table.get?_set]
    by_cases hkind : idiom.kind = kind
    · subst hkind
      simp
    · simp [hkind, Ne.symm hkind]

/-- The table of a pass has the idioms for a node in strictly increasing priority. -/
theorem tries_table {pass : Pass} (h : Apart pass.idioms) (n : Node) :
    Tries pass n ((n.kind.bind pass.table.get?).getD []) := by
  have hlookup : (n.kind.bind pass.table.get?).getD [] =
      (pass.idioms.mergeSort fun a b ↦ a.priority ≤ b.priority).filter
        fun idiom ↦ n.kind == some idiom.kind := by
    cases n.kind with
    | none => simp
    | some kind =>
      have hkind := getD_get?_foldl (pass.idioms.mergeSort fun a b ↦ a.priority ≤ b.priority) {} kind
      simpa [table] using hkind
  rw [hlookup]
  exact tries_of_perm h ((List.mergeSort_perm _ _).filter _)
    ((pairwise_mergeSort_priority _).filter _)

theorem table_eq_candidates {pass : Pass} (h : Apart pass.idioms) (n : Node) :
    (n.kind.bind pass.table.get?).getD [] = pass.candidates n :=
  (tries_table h n).eq (tries_candidates h n) fun _ ↦ Iff.rfl

/-- Passes of one name and the same idioms, listed in some order. -/
structure Reorders (pass pass' : Pass) : Prop where
  name : pass'.name = pass.name
  idioms : pass.idioms.Perm pass'.idioms

theorem Reorders.table_eq {pass pass' : Pass} (h : Reorders pass pass')
    (hapart : Apart pass.idioms) (n : Node) :
    (n.kind.bind pass.table.get?).getD [] = (n.kind.bind pass'.table.get?).getD [] :=
  (tries_table hapart n).eq (tries_table ((apart_perm h.idioms).mp hapart) n)
    fun _ ↦ h.idioms.mem_iff

end Pass

namespace Labeling

/-- A walk depends on a table through what it gives for a node. -/
theorem sweep_congr {table table' : Table Kind (List Idiom)}
    (h : ∀ n : Node, (n.kind.bind table.get?).getD [] = (n.kind.bind table'.get?).getD [])
    (l : Labeling) (stack : List (Node × Option Node)) :
    l.sweep table stack = l.sweep table' stack := by
  fun_induction Labeling.sweep l table stack with
  | case1 => rw [Labeling.sweep]
  | case2 l n parent rest htyped idioms mid fault hvisit =>
    rw [sweep_cons _ _ htyped, ← h n, hvisit]
    rfl
  | case3 l n parent rest htyped idioms mid hvisit ih =>
    rw [sweep_cons _ _ htyped, ← h n, hvisit]
    exact ih
  | case4 l n parent rest huntyped => rw [Labeling.sweep, if_neg huntyped]

/-- Whatever the tree and the state, the order in which idioms are listed makes no difference. -/
theorem runPasses_reorder {passes passes' : List Pass}
    (h : List.Forall₂ Pass.Reorders passes passes')
    (hapart : ∀ pass ∈ passes, Pass.Apart pass.idioms) (l : Labeling) (tree : Node) :
    l.runPasses tree passes' = l.runPasses tree passes := by
  induction h generalizing l with
  | nil => rfl
  | @cons pass pass' rest rest' hpass _ ih =>
    obtain ⟨hfirst, hmore⟩ := List.forall_mem_cons.mp hapart
    have hrun : l.runPass tree pass' = l.runPass tree pass := by
      unfold runPass
      rw [hpass.name, sweep_congr fun n ↦ (hpass.table_eq hfirst n).symm]
    rw [runPasses_cons, runPasses_cons, hrun]
    exact congrArg _ (funext fun mid ↦ ih hmore mid)

end Labeling

end Relabel
