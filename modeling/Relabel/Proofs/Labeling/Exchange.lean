import Relabel.Proofs.Labeling.Frame
import Relabel.Proofs.Scope.Apart
import Relabel.Proofs.Scope.Carrier
import Relabel.Proofs.Scope.Exchange

/-!
# Renames in either order

Two renames of different bindings lead to one store and one tree, whichever is made first. The store
needs nothing but consistency. The tree needs that no identifier belongs to both bindings: then they
write different spellings, and write out different properties, since a shorthand property carries
one identifier.
-/

namespace Relabel

namespace Edits

/-- The edited tree depends on the spellings and on what is written out in the tree. -/
theorem apply_congr {e e' : Edits} {tree : Node}
    (hspellings : ∀ x, e.spellings.get? x = e'.spellings.get? x)
    (hwritten : ∀ p ∈ tree.nodes, e.writtenOut.get? p.id = e'.writtenOut.get? p.id) :
    e.apply tree = e'.apply tree := by
  induction tree using Node.induction with
  | step n ih =>
    have hparts : (n.branches.map fun b ↦ (b.1, b.2.map e.apply)) =
        n.branches.map fun b ↦ (b.1, b.2.map e'.apply) := by
      apply List.map_congr_left
      rintro ⟨field, child⟩ hbranch
      cases child with
      | none => rfl
      | some child =>
        have hbelow := ih field child hbranch fun p hp ↦
          hwritten p (Node.mem_nodes_iff.mpr (.inr ⟨field, child, hbranch, hp⟩))
        rw [Option.map_some, Option.map_some, hbelow]
    have hhere := hwritten n n.mem_nodes_self
    have hhead : e.applyHead n.head = e'.applyHead n.head := by
      simp only [applyHead, spelling?, hspellings, Table.contains_eq_isSome]
      rw [show n.head.id = n.id from rfl, hhere]
    have hkeys (parts : List (Field × Option Node)) :
        e.withKey n.id parts = e'.withKey n.id parts := by
      have hnew (name : String) : e.newKey n.id name = e'.newKey n.id name := by
        simp [newKey, applyHead, spelling?, hspellings]
      simp only [withKey, hhere, hnew]
    rw [apply_eq, apply_eq, hparts, hhead, hkeys]

end Edits

namespace Store

variable {s s₁ s₂ s₁₂ : Store} {e e₁ e₂ e₁₂ : Edits} {references : List Reference}
  {i j : BindingId} {b c : Binding} {m n : String} {tree : Node}

theorem Rearranged.refl (h : s.Consistent references) : s.Rearranged s :=
  h.rearranged h (fun _ ↦ rfl) (fun _ ↦ rfl) rfl rfl rfl

theorem bindings_rekey_rekey (hij : i ≠ j) :
    ((s.rekey i b n).rekey j c m).bindings = ((s.rekey j c m).rekey i b n).bindings := by
  apply Array.ext_getElem?
  intro id
  simp only [getElem?_bindings_rekey]
  by_cases hi : i = id
  · subst hi
    simp [Ne.symm hij]
  · simp [hi]

/-- The store in which two bindings were renamed in one order is the store in which they were
renamed in the other order. -/
theorem Consistent.rearranged_rekey (h : s.Consistent references) (hb : s.bindings[i]? = some b)
    (hc : s.bindings[j]? = some c) (hij : i ≠ j) (hn : n ≠ b.name) (hm : m ≠ c.name)
    (hfirst : s.refusal? i b n = none) (hother : s.refusal? j c m = none)
    (hsecond : (s.rekey i b n).refusal? j c m = none)
    (hexchanged : (s.rekey j c m).refusal? i b n = none) :
    ((s.rekey j c m).rekey i b n).Rearranged ((s.rekey i b n).rekey j c m) := by
  have hc' : (s.rekey i b n).bindings[j]? = some c := by
    rw [getElem?_bindings_rekey, if_neg hij, hc]
  have hb' : (s.rekey j c m).bindings[i]? = some b := by
    rw [getElem?_bindings_rekey, if_neg (Ne.symm hij), hb]
  have hdirect := (h.rekey hb hn hfirst).rekey hc' hm hsecond
  have hreverse := (h.rekey hc hm hother).rekey hb' hn hexchanged
  refine hreverse.rearranged hdirect (fun id ↦ ?_) (fun id ↦ ?_) rfl rfl rfl
  · rw [frame_rekey, frame_rekey, frame_rekey, frame_rekey]
  · rw [bindings_rekey_rekey hij]

/-- A rename writes out what no other binding writes out. -/
theorem not_both_carried (hidentity : ∀ m ∈ tree.nodes, ∀ n ∈ tree.nodes, m.id = n.id → m = n)
    (hb : ∀ site ∈ b.sites, site.Sound (· ∈ tree.nodes))
    (hc : ∀ site ∈ c.sites, site.Sound (· ∈ tree.nodes)) (hapart : b.Apart c) (x : NodeId) :
    ¬ ((b.sites.any fun site ↦ site.owner.any (·.id == x)) = true ∧
      (c.sites.any fun site ↦ site.owner.any (·.id == x)) = true) := by
  simp only [List.any_eq_true, Option.any_eq_true, beq_iff_eq]
  rintro ⟨⟨site, hsite, p, howner, hp⟩, other, hother, q, howner', hq⟩
  obtain ⟨hmem, -, hcarries⟩ := (hb site hsite).owned p howner
  obtain ⟨hmem', -, hcarries'⟩ := (hc other hother).owned q howner'
  obtain rfl := hidentity p hmem q hmem' (hp.trans hq.symm)
  have hsame := hcarries.eq_of_isIdentifier hcarries' (hb site hsite).isIdentifier
    (hc other hother).isIdentifier
  exact hapart site hsite other hother (congrArg Node.id hsame)

/-- Respelling two bindings without a common identifier gives one tree in either order. -/
theorem apply_respellSites_comm
    (hidentity : ∀ m ∈ tree.nodes, ∀ n ∈ tree.nodes, m.id = n.id → m = n)
    (hb : ∀ site ∈ b.sites, site.Sound (· ∈ tree.nodes))
    (hc : ∀ site ∈ c.sites, site.Sound (· ∈ tree.nodes)) (hapart : b.Apart c) :
    (respellSites b n (respellSites c m e)).apply tree =
      (respellSites c m (respellSites b n e)).apply tree := by
  apply Edits.apply_congr
  · intro x
    simp only [spellings_respellSites]
    by_cases hx : x ∈ b.sites.map Site.id
    · have hx' : x ∉ c.sites.map Site.id := by
        intro hother
        obtain ⟨site, hsite, rfl⟩ := List.mem_map.mp hx
        obtain ⟨other, hother, hid⟩ := List.mem_map.mp hother
        exact hapart site hsite other hother hid.symm
      simp [hx, hx']
    · simp [hx]
  · intro p hp
    have hsame {c : Binding} (hc : ∀ site ∈ c.sites, site.Sound (· ∈ tree.nodes)) :
        ∀ site ∈ c.sites, ∀ q, site.owner = some q → q.id = p.id → q = p :=
      fun site hsite q howner ↦ hidentity q ((hc site hsite).owned q howner).1 p hp
    have hone := not_both_carried hidentity hb hc hapart p.id
    rw [writtenOut_respellSites _ _ _ (hsame hb), writtenOut_respellSites _ _ _ (hsame hc),
      writtenOut_respellSites _ _ _ (hsame hc), writtenOut_respellSites _ _ _ (hsame hb),
      Option.or_assoc, Option.or_assoc]
    congr 1
    by_cases hours : (b.sites.any fun site ↦ site.owner.any (·.id == p.id)) = true
    · have htheirs : ¬ (c.sites.any fun site ↦ site.owner.any (·.id == p.id)) = true :=
        fun htheirs ↦ hone ⟨hours, htheirs⟩
      simp [htheirs]
    · simp [hours]

/-- A rename to the name that a binding has changes nothing. -/
theorem rename_of_name_eq (hb : s.bindings[i]? = some b) (hname : b.name = n) :
    s.rename e i n = .ok (s, e) := by
  simp [rename, hb, hname]

theorem rename_of_accepted (hb : s.bindings[i]? = some b) (hn : n ≠ b.name)
    (haccepted : s.refusal? i b n = none) :
    s.rename e i n = .ok (s.rekey i b n, respellSites b n e) :=
  rename_eq_ok_iff.mpr (.inr ⟨b, hb, hn, haccepted, rfl, rfl⟩)

/-- What a rename that is carried out does to a binding that is there. -/
theorem rename_cases (hb : s.bindings[i]? = some b) (hrename : s.rename e i n = .ok (s₁, e₁)) :
    (b.name = n ∧ s₁ = s ∧ e₁ = e) ∨
      (n ≠ b.name ∧ s.refusal? i b n = none ∧ s₁ = s.rekey i b n ∧ e₁ = respellSites b n e) := by
  rcases rename_eq_ok_iff.mp hrename with ⟨hname, rfl, rfl⟩ | ⟨b', hb', hn, haccepted, rfl, rfl⟩
  · exact .inl ⟨hname b hb, rfl, rfl⟩
  · obtain rfl : b = b' := Option.some.inj (hb.symm.trans hb')
    exact .inr ⟨hn, haccepted, rfl, rfl⟩

end Store

/-- If two bindings can be renamed one after the other, and the second of them also without the
first, then the first can be renamed after the second, provided that it is declared in its own scope
only. Both orders lead to the same bindings and, up to the order of entries, to the same store. They
lead to the same tree if no identifier belongs to both bindings. -/
theorem exchange_of_reachable {tree : Node} {s : Store} {engine : Engine}
    (h : engine.Reachable tree s) {i j : BindingId} (hij : i ≠ j) {b c : Binding}
    (hb : engine.store.bindings[i]? = some b) (hc : engine.store.bindings[j]? = some c)
    (hdirect : ∀ site ∈ b.declarations, site.scope = b.scope) {n m : String}
    {s₁ s₂ s₁₂ : Store} {e₁ e₂ e₁₂ : Edits}
    (hfirst : engine.store.rename engine.edits i n = .ok (s₁, e₁))
    (hother : engine.store.rename engine.edits j m = .ok (s₂, e₂))
    (hsecond : s₁.rename e₁ j m = .ok (s₁₂, e₁₂)) :
    ∃ s₂₁ e₂₁, s₂.rename e₂ i n = .ok (s₂₁, e₂₁) ∧ s₂₁.bindings = s₁₂.bindings ∧
      s₂₁.Rearranged s₁₂ ∧
      ((∀ m ∈ tree.nodes, ∀ n ∈ tree.nodes, m.id = n.id → m = n) → b.Apart c →
        e₂₁.apply tree = e₁₂.apply tree) := by
  have hconsistent := h.consistent
  have hconsistent₁ := (preserved_consistent _).store_rename hconsistent hfirst
  have hconsistent₁₂ := (preserved_consistent _).store_rename hconsistent₁ hsecond
  have hsame : s₁₂.Rearranged s₁₂ := .refl hconsistent₁₂
  rcases Store.rename_cases hb hfirst with ⟨hname, rfl, rfl⟩ | ⟨hn, haccepted, rfl, rfl⟩
  · -- The first rename does nothing, and neither does it afterwards.
    obtain ⟨rfl, rfl⟩ := Prod.mk.inj (Except.ok.inj (hother.symm.trans hsecond))
    have hb' : s₂.bindings[i]? = some b := by
      rcases Store.rename_cases hc hother with ⟨-, rfl, -⟩ | ⟨-, -, rfl, -⟩
      · exact hb
      · rw [Store.getElem?_bindings_rekey, if_neg (Ne.symm hij), hb]
    exact ⟨s₂, e₂, Store.rename_of_name_eq hb' hname, rfl, hsame, fun _ _ ↦ rfl⟩
  have hc' : (engine.store.rekey i b n).bindings[j]? = some c := by
    rw [Store.getElem?_bindings_rekey, if_neg hij, hc]
  rcases Store.rename_cases hc hother with ⟨hname, rfl, rfl⟩ | ⟨hm, haccepted', rfl, rfl⟩
  · -- The second rename does nothing.
    rw [Store.rename_of_name_eq hc' hname, Except.ok.injEq, Prod.mk.injEq] at hsecond
    obtain ⟨rfl, rfl⟩ := hsecond
    exact ⟨_, _, hfirst, rfl, hsame, fun _ _ ↦ rfl⟩
  rcases Store.rename_cases hc' hsecond with ⟨hname, -, -⟩ | ⟨-, hlater, rfl, rfl⟩
  · exact absurd hname.symm hm
  have hexchanged :=
    hconsistent.refusal?_exchange hb hc hij hdirect hn hm haccepted haccepted' hlater
  have hb' : (engine.store.rekey j c m).bindings[i]? = some b := by
    rw [Store.getElem?_bindings_rekey, if_neg (Ne.symm hij), hb]
  refine ⟨_, _, Store.rename_of_accepted hb' hn hexchanged,
    (Store.bindings_rekey_rekey hij).symm,
    hconsistent.rearranged_rekey hb hc hij hn hm haccepted haccepted' hlater hexchanged, ?_⟩
  exact fun hidentity hapart ↦
    Store.apply_respellSites_comm hidentity (h.sound_sites i b hb) (h.sound_sites j c hc) hapart

/-- A parameter that a shorthand property uses and the function around it are renamed in either
order. -/
theorem exchange_of_reachable_shorthand :
    ∃ s b c s₁ e₁ s₂ e₂ s₁₂ e₁₂ s₂₁ e₂₁, Store.analyze Sample.shorthand = .ok s ∧
      s.bindings[1]? = some b ∧ s.bindings[0]? = some c ∧ b.Apart c ∧
      (∀ site ∈ b.declarations, site.scope = b.scope) ∧ s.rename {} 1 "x" = .ok (s₁, e₁) ∧
      s.rename {} 0 "g" = .ok (s₂, e₂) ∧ s₁.rename e₁ 0 "g" = .ok (s₁₂, e₁₂) ∧
      s₂.rename e₂ 1 "x" = .ok (s₂₁, e₂₁) ∧ s₂₁.bindings = s₁₂.bindings ∧ s₂₁.Rearranged s₁₂ ∧
      e₂₁.apply Sample.shorthand = e₁₂.apply Sample.shorthand := by
  have hobserved : (fun s : Store ↦ do
      let b ← s.bindings[1]?
      let c ← s.bindings[0]?
      let (s₁, e₁) ← (s.rename {} 1 "x").toOption
      let _ ← (s.rename {} 0 "g").toOption
      let _ ← (s₁.rename e₁ 0 "g").toOption
      return decide (b.Apart c ∧ ∀ site ∈ b.declarations, site.scope = b.scope)) <$>
        Store.analyze Sample.shorthand = .ok (some true) := by
    decide +kernel
  obtain ⟨s, hs, hobserved⟩ := map_eq_ok_iff.mp hobserved
  obtain ⟨b, hb, hobserved⟩ := Option.bind_eq_some_iff.mp hobserved
  obtain ⟨c, hc, hobserved⟩ := Option.bind_eq_some_iff.mp hobserved
  obtain ⟨⟨s₁, e₁⟩, hfirst, hobserved⟩ := Option.bind_eq_some_iff.mp hobserved
  obtain ⟨⟨s₂, e₂⟩, hother, hobserved⟩ := Option.bind_eq_some_iff.mp hobserved
  obtain ⟨⟨s₁₂, e₁₂⟩, hsecond, hobserved⟩ := Option.bind_eq_some_iff.mp hobserved
  obtain ⟨hapart, hdirect⟩ := of_decide_eq_true (Option.some.inj hobserved)
  rw [toOption_eq_some_iff] at hfirst hother hsecond
  have hreachable : Engine.Reachable Sample.shorthand s { store := s } := ⟨hs, [], rfl⟩
  obtain ⟨s₂₁, e₂₁, hreversed, hbindings, hrearranged, htree⟩ :=
    exchange_of_reachable hreachable (by decide) hb hc hdirect hfirst hother hsecond
  exact ⟨s, b, c, s₁, e₁, s₂, e₂, s₁₂, e₁₂, s₂₁, e₂₁, hs, hb, hc, hapart, hdirect, hfirst, hother,
    hsecond, hreversed, hbindings, hrearranged, htree Sample.unshared_shorthand.identity hapart⟩

/-- An identifier that is held twice, as a reference to two bindings, has in the end the name that
was given last. -/
theorem order_shows_if_shared :
    ∃ s b c s₁ e₁ s₂ e₂ s₁₂ e₁₂, Store.analyze Sample.shared = .ok s ∧
      s.bindings[0]? = some b ∧ s.bindings[2]? = some c ∧
      (∀ site ∈ b.declarations, site.scope = b.scope) ∧ s.rename {} 0 "x" = .ok (s₁, e₁) ∧
      s.rename {} 2 "y" = .ok (s₂, e₂) ∧ s₁.rename e₁ 2 "y" = .ok (s₁₂, e₁₂) ∧
      ¬ ∃ s₂₁ e₂₁, s₂.rename e₂ 0 "x" = .ok (s₂₁, e₂₁) ∧
        e₂₁.apply Sample.shared = e₁₂.apply Sample.shared := by
  have hobserved : (fun s : Store ↦ do
      let b ← s.bindings[0]?
      let _ ← s.bindings[2]?
      let (s₁, e₁) ← (s.rename {} 0 "x").toOption
      let (s₂, e₂) ← (s.rename {} 2 "y").toOption
      let (_, e₁₂) ← (s₁.rename e₁ 2 "y").toOption
      let (_, e₂₁) ← (s₂.rename e₂ 0 "x").toOption
      return decide ((∀ site ∈ b.declarations, site.scope = b.scope) ∧
        (e₂₁.apply Sample.shared).nodes.map (·.head.name) ≠
          (e₁₂.apply Sample.shared).nodes.map (·.head.name))) <$>
        Store.analyze Sample.shared = .ok (some true) := by
    decide +kernel
  obtain ⟨s, hs, hobserved⟩ := map_eq_ok_iff.mp hobserved
  obtain ⟨b, hb, hobserved⟩ := Option.bind_eq_some_iff.mp hobserved
  obtain ⟨c, hc, hobserved⟩ := Option.bind_eq_some_iff.mp hobserved
  obtain ⟨⟨s₁, e₁⟩, hfirst, hobserved⟩ := Option.bind_eq_some_iff.mp hobserved
  obtain ⟨⟨s₂, e₂⟩, hother, hobserved⟩ := Option.bind_eq_some_iff.mp hobserved
  obtain ⟨⟨s₁₂, e₁₂⟩, hsecond, hobserved⟩ := Option.bind_eq_some_iff.mp hobserved
  obtain ⟨⟨s₂₁, e₂₁⟩, hreversed, hobserved⟩ := Option.bind_eq_some_iff.mp hobserved
  obtain ⟨hdirect, hdiffer⟩ := of_decide_eq_true (Option.some.inj hobserved)
  rw [toOption_eq_some_iff] at hfirst hother hsecond hreversed
  refine ⟨s, b, c, s₁, e₁, s₂, e₂, s₁₂, e₁₂, hs, hb, hc, hdirect, hfirst, hother, hsecond, ?_⟩
  rintro ⟨s', e', hreversed', htree⟩
  obtain ⟨-, rfl⟩ := Prod.mk.inj (Except.ok.inj (hreversed.symm.trans hreversed'))
  exact hdiffer (congrArg (fun tree : Node ↦ tree.nodes.map (·.head.name)) htree)

end Relabel
