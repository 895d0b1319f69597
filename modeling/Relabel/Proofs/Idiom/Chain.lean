import Mathlib.Data.Fintype.Pigeonhole
import Mathlib.Tactic.Choose
import Relabel.Proofs.Naming.Growth

/-!
# Chains of getters

A getter leads to the binding of the identifier that it returns, and from there to the next one, as
long as these are getters. The name of a getter is settled by where this path ends and after how
many steps. A path that comes back to where it was has no end, and no names are issued on it.
-/

namespace Relabel.Recognition

section Paths

variable (c : Context) (r : Registry)

/-- The identifier that a binding returns, if it is a getter. -/
def returned? (id : BindingId) : Option Node :=
  c.store.bindings[id]?.bind (returnedBy? c r)

/-- The binding of the identifier that a getter returns. -/
def next? (id : BindingId) : Option BindingId :=
  (returned? c r id).bind c.store.bindingOf?

/-- The binding that is reached in a number of steps. -/
def follow : Nat → BindingId → Option BindingId
  | 0, id => some id
  | k + 1, id => (next? c r id).bind (follow k)

/-- The path from a binding leads to a spelling in a number of steps: to that of a binding that is
no getter, or to that of an identifier that belongs to no binding, and ends there. -/
inductive Leads : BindingId → Nat → String → Prop
  | other {id : BindingId} {b : Binding} : c.store.bindings[id]? = some b →
      returnedBy? c r b = none → Leads id 0 b.name
  | free {id : BindingId} {argument : Node} {text : String} : returned? c r id = some argument →
      c.store.bindingOf? argument = none → argument.head.name = some text → Leads id 1 text
  | step {id returned : BindingId} {argument : Node} {k : Nat} {text : String} :
      returned? c r id = some argument → c.store.bindingOf? argument = some returned →
      Leads returned k text → Leads id (k + 1) text

/-- The path from a binding comes to a binding again. -/
def Circles (id : BindingId) : Prop :=
  ∃ i j x, i < j ∧ follow c r i id = some x ∧ follow c r j id = some x

/-- The path from a binding leads to an identifier of no binding that has no spelling. -/
def Strands (id : BindingId) : Prop :=
  ∃ k x argument, follow c r k id = some x ∧ returned? c r x = some argument ∧
    c.store.bindingOf? argument = none ∧ argument.head.name = none

end Paths

variable {c : Context} {r : Registry} {id x : BindingId} {i j k : Nat} {text : String}

namespace Leads

theorem unique (h : Leads c r id k text) {k' : Nat} {text' : String} (h' : Leads c r id k' text') :
    k = k' ∧ text = text' := by
  induction h generalizing k' text' with
  | other hb hnone =>
    cases h' with
    | other hb' => exact ⟨rfl, congrArg Binding.name (Option.some.inj (hb.symm.trans hb'))⟩
    | free hreturned | step hreturned => simp [returned?, hb, hnone] at hreturned
  | free hreturned hfree hname =>
    cases h' with
    | other hb' hnone' => simp [returned?, hb', hnone'] at hreturned
    | free hreturned' _ hname' =>
      obtain rfl := Option.some.inj (hreturned.symm.trans hreturned')
      exact ⟨rfl, Option.some.inj (hname.symm.trans hname')⟩
    | step hreturned' hbound =>
      obtain rfl := Option.some.inj (hreturned.symm.trans hreturned')
      exact absurd (hfree.symm.trans hbound) (by simp)
  | step hreturned hbound _ ih =>
    cases h' with
    | other hb' hnone' => simp [returned?, hb', hnone'] at hreturned
    | free hreturned' hfree =>
      obtain rfl := Option.some.inj (hreturned.symm.trans hreturned')
      exact absurd (hfree.symm.trans hbound) (by simp)
    | step hreturned' hbound' hrest =>
      obtain rfl := Option.some.inj (hreturned.symm.trans hreturned')
      obtain rfl := Option.some.inj (hbound.symm.trans hbound')
      obtain ⟨rfl, rfl⟩ := ih hrest
      exact ⟨rfl, rfl⟩

theorem exists_returned? (h : Leads c r id (k + 1) text) :
    ∃ argument, returned? c r id = some argument := by
  cases h with
  | free hreturned | step hreturned => exact ⟨_, hreturned⟩

theorem of_next? {returned : BindingId} (hnext : next? c r id = some returned)
    (h : Leads c r returned k text) : Leads c r id (k + 1) text := by
  obtain ⟨argument, hreturned, hbound⟩ := Option.bind_eq_some_iff.mp hnext
  exact .step hreturned hbound h

/-- Further along the path, the end is closer. -/
theorem of_follow (h : Leads c r id k text) (hfollow : follow c r j id = some x) :
    ∃ rest, k = j + rest ∧ Leads c r x rest text := by
  induction j generalizing id k with
  | zero =>
    obtain rfl := Option.some.inj hfollow
    exact ⟨k, (Nat.zero_add k).symm, h⟩
  | succ j ih =>
    obtain ⟨returned, hnext, hrest⟩ := Option.bind_eq_some_iff.mp hfollow
    obtain ⟨argument, hreturned, hbound⟩ := Option.bind_eq_some_iff.mp hnext
    cases h with
    | other hb hnone => simp [returned?, hb, hnone] at hreturned
    | free hreturned' hfree =>
      obtain rfl := Option.some.inj (hreturned.symm.trans hreturned')
      exact absurd (hfree.symm.trans hbound) (by simp)
    | step hreturned' hbound' hleads =>
      obtain rfl := Option.some.inj (hreturned.symm.trans hreturned')
      obtain rfl := Option.some.inj (hbound.symm.trans hbound')
      obtain ⟨rest, rfl, hrest⟩ := ih hleads hrest
      exact ⟨rest, by omega, hrest⟩

theorem not_circles (h : Leads c r id k text) : ¬ Circles c r id := by
  rintro ⟨i, j, x, hij, hi, hj⟩
  obtain ⟨rest, rfl, hrest⟩ := h.of_follow hi
  obtain ⟨rest', hsum, hrest'⟩ := h.of_follow hj
  obtain ⟨rfl, -⟩ := hrest.unique hrest'
  omega

end Leads

theorem follow_succ (c : Context) (r : Registry) (k : Nat) (id : BindingId) :
    follow c r (k + 1) id = (follow c r k id).bind (next? c r) := by
  induction k generalizing id with
  | zero =>
    rw [follow, follow, Option.bind_some]
    exact Option.bind_fun_some _
  | succ k ih =>
    rw [follow, follow, Option.bind_assoc]
    exact congrArg _ (funext ih)

theorem isSome_follow_of_le (hij : i ≤ j) (hj : (follow c r j id).isSome = true) :
    (follow c r i id).isSome = true := by
  induction hij with
  | refl => exact hj
  | step _ ih =>
    rw [follow_succ, Option.isSome_bind] at hj
    apply ih
    cases hfollow : follow c r _ id with
    | none => simp [hfollow] at hj
    | some => rfl

/-- A path that comes back goes on for ever. -/
theorem Circles.endless (h : Circles c r id) (k : Nat) : (follow c r k id).isSome = true := by
  obtain ⟨i, j, x, hij, hi, hj⟩ := h
  have hback : ∃ m < j, follow c r k id = follow c r m id := by
    induction k with
    | zero => exact ⟨0, by omega, rfl⟩
    | succ k ih =>
      obtain ⟨m, hm, hsame⟩ := ih
      have hmore : follow c r (k + 1) id = follow c r (m + 1) id := by
        rw [follow_succ, follow_succ, hsame]
      by_cases hlast : m + 1 = j
      · exact ⟨i, hij, by rw [hmore, hlast, hj, hi]⟩
      · exact ⟨m + 1, by omega, hmore⟩
  obtain ⟨m, hm, hsame⟩ := hback
  rw [hsame]
  exact isSome_follow_of_le hm.le (by rw [hj]; rfl)

/-- A path leads to bindings of the store. -/
theorem exists_of_follow
    (hbound : ∀ n id, c.store.bindingOf? n = some id → ∃ b, c.store.bindings[id]? = some b)
    (hid : ∃ b, c.store.bindings[id]? = some b) (hfollow : follow c r k id = some x) :
    ∃ b, c.store.bindings[x]? = some b := by
  induction k generalizing id with
  | zero => rwa [← Option.some.inj hfollow]
  | succ k ih =>
    obtain ⟨returned, hnext, hrest⟩ := Option.bind_eq_some_iff.mp hfollow
    obtain ⟨argument, -, hreturned⟩ := Option.bind_eq_some_iff.mp hnext
    exact ih (hbound argument returned hreturned) hrest

/-- Where a path neither ends nor strands, it goes on. -/
theorem exists_next? (hid : ∃ b, c.store.bindings[id]? = some b)
    (hleads : ¬ ∃ k text, Leads c r id k text) (hstrands : ¬ Strands c r id) :
    ∃ returned, next? c r id = some returned ∧ (¬ ∃ k text, Leads c r returned k text) ∧
      ¬ Strands c r returned := by
  obtain ⟨b, hb⟩ := hid
  cases hreturned : returned? c r id with
  | none =>
    have hnone : returnedBy? c r b = none := by simpa [returned?, hb] using hreturned
    exact absurd ⟨0, b.name, .other hb hnone⟩ hleads
  | some argument =>
    cases hbound : c.store.bindingOf? argument with
    | none =>
      cases hname : argument.head.name with
      | none => exact absurd ⟨0, id, argument, rfl, hreturned, hbound, hname⟩ hstrands
      | some text => exact absurd ⟨1, text, .free hreturned hbound hname⟩ hleads
    | some returned =>
      have hnext : next? c r id = some returned := by simp [next?, hreturned, hbound]
      refine ⟨returned, hnext, ?_, ?_⟩
      · rintro ⟨k, text, hrest⟩
        exact hleads ⟨k + 1, text, .step hreturned hbound hrest⟩
      · rintro ⟨k, x, argument', hfollow, hrest⟩
        refine hstrands ⟨k + 1, x, argument', ?_, hrest⟩
        rw [follow, hnext, Option.bind_some, hfollow]

/-- A path comes to an end, strands or runs in a circle, as there are only so many bindings. -/
theorem leads_or_circles_or_strands
    (hbound : ∀ n id, c.store.bindingOf? n = some id → ∃ b, c.store.bindings[id]? = some b)
    (hid : ∃ b, c.store.bindings[id]? = some b) :
    (∃ k text, Leads c r id k text) ∨ Circles c r id ∨ Strands c r id := by
  by_contra hnot
  rw [not_or, not_or] at hnot
  obtain ⟨hleads, hcircles, hstrands⟩ := hnot
  have hpath (k : Nat) : ∃ x, follow c r k id = some x ∧ (¬ ∃ k text, Leads c r x k text) ∧
      ¬ Strands c r x := by
    induction k with
    | zero => exact ⟨id, rfl, hleads, hstrands⟩
    | succ k ih =>
      obtain ⟨x, hfollow, hleads, hstrands⟩ := ih
      obtain ⟨y, hnext, hrest⟩ :=
        exists_next? (exists_of_follow hbound hid hfollow) hleads hstrands
      refine ⟨y, ?_, hrest⟩
      rw [follow_succ, hfollow, Option.bind_some, hnext]
  choose place hplace using hpath
  have hlt (k : Nat) : place k < c.store.bindings.size := by
    obtain ⟨b, hb⟩ := exists_of_follow hbound hid (hplace k).1
    exact (Array.getElem?_eq_some_iff.mp hb).1
  obtain ⟨i, j, hne, hsame⟩ := Fintype.exists_ne_map_eq_of_card_lt
    (fun k : Fin (c.store.bindings.size + 1) ↦ (⟨place k, hlt k⟩ : Fin c.store.bindings.size))
    (by simp)
  have hmeet : place i = place j := congrArg Fin.val hsame
  rcases Nat.lt_or_gt_of_ne (Fin.val_ne_of_ne hne) with hij | hij
  · exact hcircles ⟨i, j, place i, hij, (hplace i).1, hmeet ▸ (hplace j).1⟩
  · exact hcircles ⟨j, i, place j, hij, (hplace j).1, hmeet ▸ (hplace i).1⟩

/-! ## The name that a getter ends up with -/

/-- The name of the getter of a field, if there is a field. -/
def getterOf (field : Option String) : Issuing (Option String) := do
  match field with
  | some text => return some (← Issuing.getterName text)
  | none => return none

theorem run_getterOf_of_admits {field : String} (h : r.Admits field) :
    ∃ next, (getterOf (some field)).run r = (.ok (some (r.getterName field)), next) ∧
      r.Grown next := by
  have hissue := Registry.issueGetter_eq_ok_iff.mpr ⟨h, rfl⟩
  refine ⟨_, ?_, .issueGetter hissue⟩
  simp only [getterOf]
  rw [Issuing.run_bind, Issuing.run_getterName, hissue]
  rfl

theorem run_getterOf_of_not_admits {field : String} (h : ¬ r.Admits field) :
    ∃ fault, (getterOf (some field)).run r = (.error (.registry fault), r) := by
  obtain ⟨fault, hissue⟩ := Registry.exists_issueGetter_eq_error h
  refine ⟨fault, ?_⟩
  simp only [getterOf]
  rw [Issuing.run_bind, Issuing.run_getterName, hissue]

section Run

variable {b : Binding} {argument : Node} {unvisited : List BindingId}

theorem run_finalName_of_other (hb : c.store.bindings[id]? = some b)
    (hnone : returnedBy? c r b = none) :
    (finalName c unvisited id).run r = (.ok (some b.name), r) := by
  rw [finalName]
  simp only [hb]
  rw [Issuing.run_bind, Issuing.run_registry]
  simp only [hnone]
  rfl

theorem run_finalName_of_returned (hreturned : returned? c r id = some argument) :
    (finalName c unvisited id).run r =
      if id ∈ unvisited then
        ((match c.store.bindingOf? argument with
          | some returned => finalName c (unvisited.erase id) returned
          | none => pure argument.head.name) >>= getterOf).run r
      else (.ok none, r) := by
  obtain ⟨b, hb, hby⟩ := Option.bind_eq_some_iff.mp hreturned
  rw [finalName]
  simp only [hb]
  rw [Issuing.run_bind, Issuing.run_registry]
  simp only [hby]
  split
  · cases c.store.bindingOf? argument <;> rfl
  · rfl

/-- On a path that goes on for ever no name is issued. -/
theorem run_finalName_of_endless {id : BindingId}
    (hendless : ∀ k, (follow c r k id).isSome = true) (unvisited : List BindingId) :
    (finalName c unvisited id).run r = (.ok none, r) := by
  obtain ⟨returned, hfollow⟩ := Option.isSome_iff_exists.mp (hendless 1)
  have hnext : next? c r id = some returned := by rwa [follow_succ] at hfollow
  obtain ⟨argument, hreturned, hbound⟩ := Option.bind_eq_some_iff.mp hnext
  have hrest (k : Nat) : (follow c r k returned).isSome = true := by
    have hmore := hendless (k + 1)
    rwa [follow, hnext, Option.bind_some] at hmore
  rw [run_finalName_of_returned hreturned]
  split
  · rw [hbound, Issuing.run_bind, run_finalName_of_endless hrest (unvisited.erase id)]
    rfl
  · rfl
termination_by unvisited.length
decreasing_by
  rename_i hmem
  have := List.length_erase_of_mem hmem
  have := List.length_pos_of_mem hmem
  omega

theorem run_finalName_of_strands (h : Strands c r id) (unvisited : List BindingId) :
    (finalName c unvisited id).run r = (.ok none, r) := by
  obtain ⟨k, x, argument, hfollow, hstrand⟩ := h
  induction k generalizing id unvisited with
  | zero =>
    obtain rfl := Option.some.inj hfollow
    obtain ⟨hreturned, hfree, hname⟩ := hstrand
    rw [run_finalName_of_returned hreturned]
    split
    · simp only [hfree, hname]
      rfl
    · rfl
  | succ k ih =>
    obtain ⟨returned, hnext, hrest⟩ := Option.bind_eq_some_iff.mp hfollow
    obtain ⟨argument', hreturned, hbound⟩ := Option.bind_eq_some_iff.mp hnext
    rw [run_finalName_of_returned hreturned]
    split
    · rw [hbound, Issuing.run_bind, ih (unvisited.erase id) hrest]
      rfl
    · rfl

/-- What a path leaves to visit after its first step. -/
theorem mem_erase_of_follow (h : Leads c r id k text)
    (hunvisited : ∀ j < k, ∀ x, follow c r j id = some x → x ∈ unvisited)
    {returned : BindingId} (hnext : next? c r id = some returned) :
    ∀ j < k - 1, ∀ x, follow c r j returned = some x → x ∈ unvisited.erase id := by
  intro j hj x hfollow
  have hmore : follow c r (j + 1) id = some x := by rw [follow, hnext, Option.bind_some, hfollow]
  have hne : x ≠ id := by
    rintro rfl
    exact h.not_circles ⟨0, j + 1, x, by omega, rfl, hmore⟩
  exact (List.mem_erase_of_ne hne).mpr (hunvisited (j + 1) (by omega) x hmore)

/-- The name of a getter whose path ends is the spelling at the end, once for each step led by
`get_`, if all names on the way can be issued. -/
theorem run_finalName_of_admits (h : Leads c r id k text)
    (hunvisited : ∀ j < k, ∀ x, follow c r j id = some x → x ∈ unvisited)
    (hadmits : ∀ j < k, r.Admits (r.chainName j text)) :
    ∃ next, (finalName c unvisited id).run r = (.ok (some (r.chainName k text)), next) ∧
      r.Grown next := by
  induction h generalizing unvisited with
  | other hb hnone =>
    exact ⟨r, by rw [run_finalName_of_other hb hnone, Registry.chainName_zero], .refl r⟩
  | free hreturned hfree hname =>
    have hmem := hunvisited 0 (by omega) _ rfl
    obtain ⟨next, hrun, hgrown⟩ := run_getterOf_of_admits (hadmits 0 (by omega))
    refine ⟨next, ?_, hgrown⟩
    rw [run_finalName_of_returned hreturned, if_pos hmem]
    simp only [hfree, hname, pure_bind]
    rw [Registry.chainName_zero] at hrun
    rw [hrun, Registry.chainName_succ, Registry.chainName_zero]
  | @step id returned argument k text hreturned hbound hleads ih =>
    have hmem := hunvisited 0 (by omega) _ rfl
    have hrest := mem_erase_of_follow (.step hreturned hbound hleads) hunvisited
      (show next? c r id = some returned by simp [next?, hreturned, hbound])
    obtain ⟨mid, hinner, hmid⟩ := ih hrest fun j hj ↦ hadmits j (by omega)
    obtain ⟨next, hrun, hgrown⟩ :=
      run_getterOf_of_admits (hmid.admits_iff.mpr (hadmits k (by omega)))
    refine ⟨next, ?_, hmid.trans hgrown⟩
    rw [run_finalName_of_returned hreturned, if_pos hmem]
    simp only [hbound]
    rw [Issuing.run_bind, hinner]
    simp only
    rw [hrun, hmid.getterName, Registry.chainName_succ]

theorem run_finalName_of_not_admits (h : Leads c r id k text)
    (hunvisited : ∀ j < k, ∀ x, follow c r j id = some x → x ∈ unvisited)
    (hrefused : ¬ ∀ j < k, r.Admits (r.chainName j text)) :
    ∃ fault next, (finalName c unvisited id).run r = (.error (.registry fault), next) ∧
      r.Grown next := by
  induction h generalizing unvisited with
  | other => exact absurd (fun j hj ↦ absurd hj (by omega)) hrefused
  | @free id argument text hreturned hfree hname =>
    have hmem := hunvisited 0 (by omega) _ rfl
    have hfirst : ¬ r.Admits text := by
      refine fun hadmits ↦ hrefused fun j hj ↦ ?_
      obtain rfl : j = 0 := by omega
      rwa [Registry.chainName_zero]
    obtain ⟨fault, hrun⟩ := run_getterOf_of_not_admits hfirst
    refine ⟨fault, r, ?_, .refl r⟩
    rw [run_finalName_of_returned hreturned, if_pos hmem]
    simp only [hfree, hname, pure_bind]
    exact hrun
  | @step id returned argument k text hreturned hbound hleads ih =>
    have hmem := hunvisited 0 (by omega) _ rfl
    have hrest := mem_erase_of_follow (.step hreturned hbound hleads) hunvisited
      (show next? c r id = some returned by simp [next?, hreturned, hbound])
    rw [run_finalName_of_returned hreturned, if_pos hmem]
    simp only [hbound]
    rw [Issuing.run_bind]
    by_cases hinner : ∀ j < k, r.Admits (r.chainName j text)
    · obtain ⟨mid, hrun, hmid⟩ := run_finalName_of_admits hleads hrest hinner
      have hlast : ¬ r.Admits (r.chainName k text) := by
        refine fun hadmits ↦ hrefused fun j hj ↦ ?_
        rcases Nat.lt_succ_iff_lt_or_eq.mp hj with hj | rfl
        · exact hinner j hj
        · exact hadmits
      obtain ⟨fault, hfault⟩ := run_getterOf_of_not_admits (hmid.admits_iff.not.mpr hlast)
      exact ⟨fault, mid, by rw [hrun]; exact hfault, hmid⟩
    · obtain ⟨fault, next, hrun, hgrown⟩ := ih hrest hinner
      exact ⟨fault, next, by rw [hrun], hgrown⟩

end Run

theorem run_simpleGetter (c : Context) (r : Registry) (n : Node) :
    (simpleGetter c n).run r = match (n.child? .id).bind c.store.bindingOf? with
      | none => (.ok none, r)
      | some id =>
        if (returnedIdentifier? r n).isSome then
          ((finalName c (List.range c.store.bindings.size) id) >>= fun found ↦ pure
            (found.map fun name ↦ [⟨id, name⟩])).run r
        else (.ok none, r) := by
  unfold simpleGetter
  cases (n.child? .id).bind c.store.bindingOf? with
  | none => rfl
  | some id =>
    simp only
    rw [Issuing.run_bind, Issuing.run_registry]
    simp only
    cases returnedIdentifier? r n with
    | none => rfl
    | some argument =>
      show (finalName c (List.range c.store.bindings.size) id >>= _ : Answer).run r = _
      rw [Issuing.run_bind, if_pos (Option.isSome_some), Issuing.run_bind]
      rcases (finalName c (List.range c.store.bindings.size) id).run r with ⟨_ | _ | _, _⟩ <;> rfl

section Asked

variable {n : Node}
  (hbound : ∀ n id, c.store.bindingOf? n = some id → ∃ b, c.store.bindings[id]? = some b)
  (hid : (n.child? .id).bind c.store.bindingOf? = some id)
  (hgetter : (returnedIdentifier? r n).isSome = true)

include hid hgetter

theorem run_simpleGetter_of_getter :
    (simpleGetter c n).run r =
      (finalName c (List.range c.store.bindings.size) id >>= fun found ↦ pure
        (found.map fun name ↦ [⟨id, name⟩])).run r := by
  rw [run_simpleGetter, hid]
  exact if_pos hgetter

/-- A getter whose path has no end asks for nothing. -/
theorem run_simpleGetter_of_endless (hendless : Circles c r id ∨ Strands c r id) :
    (simpleGetter c n).run r = (.ok none, r) := by
  have hnone : (finalName c (List.range c.store.bindings.size) id).run r = (.ok none, r) := by
    rcases hendless with hcircles | hstrands
    · exact run_finalName_of_endless hcircles.endless _
    · exact run_finalName_of_strands hstrands _
  rw [run_simpleGetter_of_getter hid hgetter, Issuing.run_bind, hnone]
  rfl

include hbound

omit hgetter in
theorem mem_range_of_follow {j : Nat} (hfollow : follow c r j id = some x) :
    x ∈ List.range c.store.bindings.size := by
  obtain ⟨name, -, hname⟩ := Option.bind_eq_some_iff.mp hid
  obtain ⟨b, hx⟩ := exists_of_follow hbound (hbound name id hname) hfollow
  exact List.mem_range.mpr (Array.getElem?_eq_some_iff.mp hx).1

/-- A getter whose path ends asks for the name that the path gives it. -/
theorem run_simpleGetter_of_admits (hleads : Leads c r id k text)
    (hadmits : ∀ j < k, r.Admits (r.chainName j text)) :
    ∃ next, (simpleGetter c n).run r = (.ok (some [⟨id, r.chainName k text⟩]), next) ∧
      r.Grown next := by
  obtain ⟨next, hname, hgrown⟩ :=
    run_finalName_of_admits hleads (fun j _ x ↦ mem_range_of_follow hbound hid) hadmits
  refine ⟨next, ?_, hgrown⟩
  rw [run_simpleGetter_of_getter hid hgetter, Issuing.run_bind, hname]
  rfl

theorem run_simpleGetter_of_not_admits (hleads : Leads c r id k text)
    (hrefused : ¬ ∀ j < k, r.Admits (r.chainName j text)) :
    ∃ fault next, (simpleGetter c n).run r = (.error (.registry fault), next) ∧
      r.Grown next := by
  obtain ⟨fault, next, hfault, hgrown⟩ :=
    run_finalName_of_not_admits hleads (fun j _ x ↦ mem_range_of_follow hbound hid) hrefused
  refine ⟨fault, next, ?_, hgrown⟩
  rw [run_simpleGetter_of_getter hid hgetter, Issuing.run_bind, hfault]

end Asked

end Relabel.Recognition
