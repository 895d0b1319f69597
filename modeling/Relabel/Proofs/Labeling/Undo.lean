import Relabel.Proofs.Labeling.Exchange
import Relabel.Proofs.Scope.Collection

/-!
# Taking a rename back

A binding that took a new name can take its old one again, and the store then says what it said
before. In the tree the old spellings return, and the shorthand properties that carry an identifier
of the binding stay written out, with the keys that they had.
-/

namespace Relabel

namespace Node

/-- A tree with some of its shorthand properties written out. A key that is also found in the value
gives way to an identifier of its own with the same spelling. -/
def expand (which : NodeId → Bool) : Node → Node :=
  fold fun n parts ↦
    .mk { n.head with shorthand := n.head.shorthand && !which n.id }
      (if n.head.shorthand && which n.id && Edits.sharesKey n then
        parts.map fun part ↦
          if part.1 = .key ∧ part.2.isSome then (.key, some n.keyApart) else part
      else parts)

theorem expand_eq (which : NodeId → Bool) (n : Node) :
    n.expand which = .mk { n.head with shorthand := n.head.shorthand && !which n.id }
      (if n.head.shorthand && which n.id && Edits.sharesKey n then
        (n.branches.map fun part ↦ (part.1, part.2.map (expand which))).map fun part ↦
          if part.1 = .key ∧ part.2.isSome then (.key, some n.keyApart) else part
      else n.branches.map fun part ↦ (part.1, part.2.map (expand which))) := by
  rw [expand, fold_eq]

/-- The identities of nodes tell them apart, and those kept for the keys of shorthand properties are
not in use. -/
structure Addressed (tree : Node) : Prop where
  identity : ∀ m ∈ tree.nodes, ∀ n ∈ tree.nodes, m.id = n.id → m = n
  reserved : ∀ p ∈ tree.nodes, p.head.shorthand = true → ∀ n ∈ tree.nodes,
    n.id ≠ ⟨p.id.index, true⟩

end Node

/-- Whether a property is a shorthand for an identifier of a binding. -/
def Binding.carriedBy (b : Binding) (property : NodeId) : Bool :=
  b.sites.any fun site ↦ site.owner.any (·.id == property)

/-- The edits of a program concern its nodes, and the shorthand properties of renamed bindings are
written out. -/
structure Store.Settled (tree : Node) (s : Store) (e : Edits) : Prop where
  sound : s.EachSite (Site.Sound (· ∈ tree.nodes))
  justified : e.Justified (· ∈ tree.nodes)
  spelled : ∀ x text, e.spellings.get? x = some text → ∃ n ∈ tree.nodes, n.id = x
  written : ∀ (id : BindingId) (b : Binding), s.bindings[id]? = some b → b.renamed = true →
    ∀ p ∈ tree.nodes, b.carriedBy p.id = true → (e.writtenOut.get? p.id).isSome = true

namespace Store

variable {tree : Node} {s : Store} {e : Edits} {id : BindingId} {b : Binding} {n : String}

/-- What a rename writes out in a program whose identities tell its nodes apart. -/
theorem writtenOut_respellSites_of_sound
    (hidentity : ∀ m ∈ tree.nodes, ∀ n ∈ tree.nodes, m.id = n.id → m = n)
    (hsound : ∀ site ∈ b.sites, site.Sound (· ∈ tree.nodes)) {p : Node} (hp : p ∈ tree.nodes) :
    (respellSites b n e).writtenOut.get? p.id = (e.writtenOut.get? p.id).or
      (if b.renamed = false ∧ b.carriedBy p.id = true then
        some (if Edits.sharesKey p then some b.name else none) else none) :=
  writtenOut_respellSites b n e fun site hsite q howner ↦
    hidentity q ((hsound site hsite).owned q howner).1 p hp

theorem Settled.rekey (h : s.Settled tree e)
    (hidentity : ∀ m ∈ tree.nodes, ∀ n ∈ tree.nodes, m.id = n.id → m = n)
    (hb : s.bindings[id]? = some b) :
    (s.rekey id b n).Settled tree (respellSites b n e) where
  sound := h.sound.rekey id b n
  justified := h.justified.respellSites (h.sound id b hb) n
  spelled x text hx := by
    rw [spellings_respellSites] at hx
    split at hx
    · rename_i hours
      obtain ⟨site, hsite, rfl⟩ := List.mem_map.mp hours
      exact ⟨site.identifier, (h.sound id b hb site hsite).mem, rfl⟩
    · exact h.spelled x text hx
  written i c hc hrenamed p hp hcarried := by
    rw [writtenOut_respellSites_of_sound hidentity (h.sound id b hb) hp, Option.isSome_or,
      Bool.or_eq_true]
    rw [getElem?_bindings_rekey] at hc
    split at hc
    · rename_i hid
      subst hid
      obtain ⟨b', hb', rfl⟩ := Option.map_eq_some_iff.mp hc
      obtain rfl : b = b' := Option.some.inj (hb.symm.trans hb')
      by_cases hbefore : b.renamed = true
      · exact .inl (h.written id b hb hbefore p hp hcarried)
      · right
        have hcarried : b.carriedBy p.id = true := hcarried
        simp [hbefore, hcarried]
    · exact .inl (h.written i c hc hrenamed p hp hcarried)

end Store

theorem Engine.Reachable.settled {tree : Node} {s : Store} {engine : Engine}
    (h : engine.Reachable tree s)
    (hidentity : ∀ m ∈ tree.nodes, ∀ n ∈ tree.nodes, m.id = n.id → m = n) :
    engine.store.Settled tree engine.edits := by
  have hpreserved : Preserved fun live e ↦ live.Settled tree e :=
    fun _ _ _ _ _ hsettled hb _ _ ↦ hsettled.rekey hidentity hb
  apply h.preserves hpreserved
  obtain ⟨-, facts, hfacts, rfl⟩ := Store.analyze_eq_ok_iff.mp h.analyze
  obtain ⟨hfit, hsound⟩ := Program.fit_facts hfacts
  refine ⟨Store.eachSite_ofFacts hfit hsound, Edits.justified_empty _, ?_, ?_⟩
  · intro x text hx
    simp at hx
  · intro id b hb hrenamed
    rw [(Store.collects_ofFacts hfit).renamed id b hb] at hrenamed
    exact absurd hrenamed (by simp)

/-- No identifier of a binding belongs to another binding, too. -/
def Store.Unmixed (s : Store) (id : BindingId) : Prop :=
  ∀ (b : Binding) (other : BindingId) (c : Binding), s.bindings[id]? = some b →
    s.bindings[other]? = some c → ∀ site ∈ b.sites, ∀ twin ∈ c.sites, twin.id = site.id → other = id

/-- The sites of a binding are spelled with its name, in a store that renames led to. -/
def Store.Spells (s : Store) (id : BindingId) (live : Store) (e : Edits) : Prop :=
  s.Kept live ∧ ∀ b, live.bindings[id]? = some b → ∀ site ∈ b.sites, site.spelling e = b.name

/-- Another binding never respells the sites of a binding that shares none of them, and the binding
itself respells them all. -/
theorem preserved_spells {s : Store} {id : BindingId} (hunmixed : s.Unmixed id) :
    Preserved (s.Spells id) := by
  rintro live e i d n ⟨hkept, hspelled⟩ hd - -
  refine ⟨hkept.rekey i d n, fun c hc site hsite ↦ ?_⟩
  obtain ⟨other, hother, hdsites⟩ := hkept.exists_sites hd
  rw [Store.spelling_respellSites]
  rw [Store.getElem?_bindings_rekey] at hc
  by_cases hi : i = id
  · subst hi
    rw [if_pos rfl, hd] at hc
    obtain rfl := Option.some.inj hc
    have hours : site ∈ d.sites := hsite
    rw [if_pos (List.mem_map.mpr ⟨site, hours, rfl⟩)]
  · rw [if_neg hi] at hc
    rw [if_neg, hspelled c hc site hsite]
    intro hmem
    obtain ⟨first, hfirst, hsites⟩ := hkept.exists_sites hc
    obtain ⟨twin, htwin, hid⟩ := List.mem_map.mp hmem
    exact hi (hunmixed first i other hfirst hother site (hsites ▸ hsite) twin (hdsites ▸ htwin) hid)

theorem Store.spells_of_analyze {tree : Node} {s : Store} (h : analyze tree = .ok s)
    (id : BindingId) : s.Spells id s {} := by
  refine ⟨.refl s, fun b hb site hsite ↦ ?_⟩
  obtain ⟨-, facts, hfacts, rfl⟩ := analyze_eq_ok_iff.mp h
  exact name_of_mem_sites (Program.fit_facts hfacts).1 hb hsite

namespace Engine.Reachable

variable {tree : Node} {s : Store} {engine : Engine}

theorem spells (h : engine.Reachable tree s) {id : BindingId} (hunmixed : s.Unmixed id) :
    s.Spells id engine.store engine.edits :=
  h.preserves (preserved_spells hunmixed) (Store.spells_of_analyze h.analyze id)

/-- The sites of a binding are spelled with its name, if each of them stands for a variable at one
place of the program. -/
theorem spelling_eq (h : engine.Reachable tree s) {id : BindingId} {b : Binding}
    (hb : engine.store.bindings[id]? = some b)
    (honce : ∀ site ∈ b.sites, tree.variableIds.count site.id ≤ 1) :
    ∀ site ∈ b.sites, site.spelling engine.edits = b.name := by
  obtain ⟨first, hfirst, hsites⟩ := h.kept.exists_sites hb
  refine (h.spells fun c other d hc hd site hsite twin htwin hid ↦ ?_).2 b hb
  obtain rfl : first = c := Option.some.inj (hfirst.symm.trans hc)
  obtain ⟨-, facts, hfacts, rfl⟩ := Store.analyze_eq_ok_iff.mp h.analyze
  have hcount := (Program.count_sites_le hfacts site.id).trans (honce site (hsites ▸ hsite))
  exact (Store.eq_of_count_sites_le_one (Program.fit_facts hfacts).1 hfirst hd hsite htwin
    hid.symm hcount).symm

end Engine.Reachable

/-! ## The tree after a rename was taken back -/

namespace Edits

variable {e : Edits} {which : NodeId → Bool}

theorem expand_newKey (id : NodeId) (text : String) :
    (e.newKey id text).expand which = e.newKey id text := by
  rw [Node.expand_eq]
  simp [newKey, Node.head, Node.branches, applyHead]

theorem map_expand_withKey (id : NodeId) (parts : List (Field × Option Node)) :
    (e.withKey id parts).map (fun part ↦ (part.1, part.2.map (Node.expand which))) =
      e.withKey id (parts.map fun part ↦ (part.1, part.2.map (Node.expand which))) := by
  unfold withKey
  split
  · rw [List.map_map, List.map_map]
    apply List.map_congr_left
    rintro ⟨field, child⟩ -
    by_cases hfield : field = .key <;> cases child <;> simp [hfield, expand_newKey]
  · rfl

/-- Whether a node has its key in two places does not depend on spellings. -/
theorem KeepsKey.sharesKey_apply {n : Node} (h : e.KeepsKey n) :
    sharesKey (e.apply n) = sharesKey n := by
  unfold sharesKey
  rw [h.child?_apply, h.child?_apply]
  cases n.child? .key with
  | none => rfl
  | some key =>
    cases n.child? .value with
    | none => rfl
    | some value =>
      have htarget := Edits.child?_apply e value (show Field.left ≠ .key by decide)
      simp only [Option.map_some, id_apply, hasKind_apply, htarget]
      cases value.child? .left <;> simp

end Edits

namespace Store

variable {tree : Node} {s : Store} {e e' : Edits} {references : List Reference} {id : BindingId}
  {b : Binding} {n : String}

/-- The edits after the binding was renamed and got its name back, told by what they answer. -/
structure Undone (tree : Node) (b : Binding) (e e' : Edits) : Prop where
  spellings : ∀ x, e'.spellings.get? x =
    if x ∈ b.sites.map Site.id then some b.name else e.spellings.get? x
  writtenOut : ∀ p ∈ tree.nodes, e'.writtenOut.get? p.id = (e.writtenOut.get? p.id).or
    (if b.renamed = false ∧ b.carriedBy p.id = true then
      some (if Edits.sharesKey p then some b.name else none) else none)

theorem undone_respellSites
    (hidentity : ∀ m ∈ tree.nodes, ∀ n ∈ tree.nodes, m.id = n.id → m = n)
    (hsound : ∀ site ∈ b.sites, site.Sound (· ∈ tree.nodes)) :
    Undone tree b e (respellSites { b with name := n, renamed := true } b.name
      (respellSites b n e)) where
  spellings x := by
    have hsites : ({ b with name := n, renamed := true } : Binding).sites = b.sites := rfl
    rw [spellings_respellSites, spellings_respellSites, hsites]
    by_cases hx : x ∈ b.sites.map Site.id <;> simp [hx]
  writtenOut p hp := by
    have hsound' : ∀ site ∈ ({ b with name := n, renamed := true } : Binding).sites,
        site.Sound (· ∈ tree.nodes) := hsound
    rw [writtenOut_respellSites_of_sound hidentity hsound' hp,
      writtenOut_respellSites_of_sound hidentity hsound hp]
    simp

namespace Undone

variable (h : Undone tree b e e') (hsettled : s.Settled tree e) (hb : s.bindings[id]? = some b)
  (haddressed : tree.Addressed)
include h hsettled hb haddressed

/-- The identity kept for the key of a shorthand property has no spelling of its own. -/
theorem newKey_eq {p : Node} (hp : p ∈ tree.nodes) (hshorthand : p.head.shorthand = true)
    (text : String) :
    e.newKey p.id text =
        .mk { id := ⟨p.id.index, true⟩, kind := some .identifier, name := some text } [] ∧
      e'.newKey p.id text = e.newKey p.id text := by
  have hfree : e.spellings.get? ⟨p.id.index, true⟩ = none := by
    rw [Option.eq_none_iff_forall_ne_some]
    intro text hsome
    obtain ⟨m, hm, hid⟩ := hsettled.spelled _ text hsome
    exact haddressed.reserved p hp hshorthand m hm hid
  have hother : (⟨p.id.index, true⟩ : NodeId) ∉ b.sites.map Site.id := by
    intro hours
    obtain ⟨site, hsite, hid⟩ := List.mem_map.mp hours
    exact haddressed.reserved p hp hshorthand _ (hsettled.sound id b hb site hsite).mem hid
  have hfree' : e'.spellings.get? ⟨p.id.index, true⟩ = none := by
    rw [h.spellings, if_neg hother, hfree]
  simp [Edits.newKey, Edits.applyHead, Edits.spelling?, hfree, hfree']

/-- What was written out before keeps the key that it got then. -/
theorem withKey_of_written {p : Node} (hp : p ∈ tree.nodes) {key : Option String}
    (hold : e.writtenOut.get? p.id = some key) (parts : List (Field × Option Node)) :
    e'.withKey p.id parts = e.withKey p.id parts := by
  have hwritten := h.writtenOut p hp
  rw [hold, Option.some_or] at hwritten
  cases key with
  | none => simp [Edits.withKey, hold, hwritten]
  | some text =>
    obtain ⟨q, hq, hid, hshorthand, -⟩ := hsettled.justified p.id text hold
    obtain rfl := haddressed.identity q hq p hp hid
    have hsame := (h.newKey_eq hsettled hb haddressed hq hshorthand text).2
    simp [Edits.withKey, hold, hwritten, hsame]

omit h in
theorem exists_site {p : Node} (hp : p ∈ tree.nodes) (hcarried : b.carriedBy p.id = true) :
    ∃ site ∈ b.sites, p.head.shorthand = true ∧ site.identifier.isIdentifier = true ∧
      p.Carries site.identifier := by
  simp only [Binding.carriedBy, List.any_eq_true, Option.any_eq_true, beq_iff_eq] at hcarried
  obtain ⟨site, hsite, q, howner, hid⟩ := hcarried
  have hsound := hsettled.sound id b hb site hsite
  obtain ⟨hmem, hshorthand, hcarries⟩ := hsound.owned q howner
  obtain rfl := haddressed.identity q hmem p hp hid
  exact ⟨site, hsite, hshorthand, hsound.isIdentifier, hcarries⟩

variable (hspelled : ∀ site ∈ b.sites, e.spelling? site.identifier.head = some b.name)
include hspelled

/-- Every identifier is spelled as before. -/
theorem spelling?_eq {m : Node} (hm : m ∈ tree.nodes) :
    e'.spelling? m.head = e.spelling? m.head := by
  rw [Edits.spelling?, h.spellings]
  by_cases hours : m.head.id ∈ b.sites.map Site.id
  · obtain ⟨site, hsite, hid⟩ := List.mem_map.mp hours
    obtain rfl := haddressed.identity _ (hsettled.sound id b hb site hsite).mem m hm hid
    rw [if_pos hours, Option.some_or, hspelled site hsite]
  · rw [if_neg hours, Edits.spelling?]

theorem applyHead_eq {m : Node} (hm : m ∈ tree.nodes) :
    e'.applyHead m.head = { e.applyHead m.head with
      shorthand := (e.applyHead m.head).shorthand && !b.carriedBy m.id } := by
  have hout : e'.writtenOut.contains m.head.id =
      (e.writtenOut.contains m.head.id || b.carriedBy m.id) := by
    rw [Table.contains_eq_isSome, Table.contains_eq_isSome, show m.head.id = m.id from rfl,
      h.writtenOut m hm, Option.isSome_or]
    by_cases hcarried : b.carriedBy m.id = true
    · cases hrenamed : b.renamed with
      | false => simp [hcarried]
      | true => simp [hcarried, hsettled.written id b hb hrenamed m hm hcarried]
    · simp [hcarried]
  rw [Edits.applyHead, h.spelling?_eq hsettled hb haddressed hspelled hm, hout]
  simp [Edits.applyHead, Bool.and_assoc]

/-- A property that is written out now, and has its key in two places, gets a key spelled like the
one it had. -/
theorem keyApart_apply (honce : ∀ site ∈ b.sites, tree.variableIds.count site.id ≤ 1)
    {p : Node} (hp : p ∈ tree.nodes) (hcarried : b.carriedBy p.id = true) (hkeeps : e.KeepsKey p)
    (hshares : Edits.sharesKey p = true) :
    (e.apply p).keyApart = e'.newKey p.id b.name := by
  obtain ⟨site, hsite, hshorthand, hidentifier, hcarries⟩ :=
    exists_site hsettled hb haddressed hp hcarried
  obtain ⟨hnew, hsame⟩ := h.newKey_eq hsettled hb haddressed hp hshorthand b.name
  have hkey := hcarries.key_eq hidentifier (honce site hsite) haddressed.identity hp hshares
  rw [hsame, hnew, Node.keyApart, hkeeps.child?_apply, hkey]
  simp [Edits.applyHead, hspelled site hsite]

theorem withKey_eq (honce : ∀ site ∈ b.sites, tree.variableIds.count site.id ≤ 1)
    {m : Node} (hm : m ∈ tree.nodes) (parts : List (Field × Option Node)) :
    e'.withKey m.id parts =
      if (e.applyHead m.head).shorthand && b.carriedBy m.id && Edits.sharesKey (e.apply m) then
        (e.withKey m.id parts).map fun part ↦
          if part.1 = .key ∧ part.2.isSome then (.key, some (e.apply m).keyApart) else part
      else e.withKey m.id parts := by
  have hwritten := h.writtenOut m hm
  cases hold : e.writtenOut.get? m.id with
  | some key =>
    have hshorthand : (e.applyHead m.head).shorthand = false := by
      have hcontains : e.writtenOut.contains m.head.id = true := by
        rw [Table.contains_eq_isSome, show m.head.id = m.id from rfl, hold, Option.isSome_some]
      simp [Edits.applyHead, hcontains]
    rw [hshorthand, h.withKey_of_written hsettled hb haddressed hm hold]
    rfl
  | none =>
    rw [hold, Option.none_or] at hwritten
    have hkeeps : e.KeepsKey m := by
      intro name hname
      rw [hold] at hname
      exact absurd hname (by simp)
    have hkept : e.withKey m.id parts = parts := by simp [Edits.withKey, hold]
    have hcontains : e.writtenOut.contains m.head.id = false := by
      rw [Table.contains_eq_isSome, show m.head.id = m.id from rfl, hold, Option.isSome_none]
    rw [hkept, hkeeps.sharesKey_apply]
    by_cases hcarried : b.carriedBy m.id = true
    · have hrenamed : b.renamed = false := by
        by_contra hrenamed
        have hsome := hsettled.written id b hb (by simpa using hrenamed) m hm hcarried
        rw [hold] at hsome
        exact absurd hsome (by simp)
      obtain ⟨-, -, hshorthand, -, -⟩ := exists_site hsettled hb haddressed hm hcarried
      rw [if_pos ⟨hrenamed, hcarried⟩] at hwritten
      by_cases hshares : Edits.sharesKey m = true
      · rw [h.keyApart_apply hsettled hb haddressed hspelled honce hm hcarried hkeeps hshares]
        simp [Edits.withKey, hwritten, hshares, hcarried, Edits.applyHead, hcontains, hshorthand]
      · simp [Edits.withKey, hwritten, hshares]
    · simp [Edits.withKey, hwritten, hcarried]

/-- The tree after the rename was taken back is the tree before it, with the shorthand properties of
the binding written out. -/
theorem apply_eq_expand (honce : ∀ site ∈ b.sites, tree.variableIds.count site.id ≤ 1)
    {m : Node} (hm : m ∈ tree.nodes) :
    e'.apply m = (e.apply m).expand b.carriedBy := by
  induction m using Node.induction with
  | step m ih =>
    have hparts : ((m.branches.map fun part ↦ (part.1, part.2.map e.apply)).map
          fun part ↦ (part.1, part.2.map (Node.expand b.carriedBy))) =
        m.branches.map fun part ↦ (part.1, part.2.map e'.apply) := by
      rw [List.map_map]
      apply List.map_congr_left
      rintro ⟨field, child⟩ hbranch
      cases child with
      | none => rfl
      | some child =>
        have hbelow := ih field child hbranch (Node.mem_nodes_of_mem_branches hm hbranch)
        simp [hbelow]
    have hbranches : ((e.apply m).branches.map
          fun part ↦ (part.1, part.2.map (Node.expand b.carriedBy))) =
        e.withKey m.id (m.branches.map fun part ↦ (part.1, part.2.map e'.apply)) := by
      rw [← hparts, ← Edits.map_expand_withKey, Edits.apply_eq]
      rfl
    rw [Node.expand_eq, hbranches, Edits.head_apply, Edits.id_apply, Edits.apply_eq,
      h.applyHead_eq hsettled hb haddressed hspelled hm,
      h.withKey_eq hsettled hb haddressed hspelled honce hm]

end Undone

end Store

/-- An accepted rename can be taken back, if the old name could name a binding and no declaration
stands in or inside a scope further in that has a binding of the old name. The store then says what
it said before. If no identifier of the binding stands for a variable at two places, the tree is the
one before, except that the shorthand properties of the binding are written out. -/
theorem undo_of_reachable {tree : Node} {s : Store} {engine : Engine}
    (h : engine.Reachable tree s) {id : BindingId} {b : Binding}
    (hb : engine.store.bindings[id]? = some b) (hidentifier : isIdentifier b.name = true)
    (hreserved : isReserved b.name = false)
    (hclear : ∀ site ∈ b.declarations, ∀ scope ∈ engine.store.between site b.scope,
      engine.store.own? scope b.name = none) {n : String} {s₁ : Store} {e₁ : Edits}
    (hrename : engine.store.rename engine.edits id n = .ok (s₁, e₁)) :
    ∃ s₂ e₂, s₁.rename e₁ id b.name = .ok (s₂, e₂) ∧ s₂.Rearranged engine.store ∧
      (tree.Addressed → (∀ site ∈ b.sites, tree.variableIds.count site.id ≤ 1) →
        e₂.apply tree = if n = b.name then engine.edits.apply tree
          else (engine.edits.apply tree).expand b.carriedBy) := by
  have hconsistent := h.consistent
  rcases Store.rename_cases hb hrename with ⟨rfl, rfl, rfl⟩ | ⟨hn, haccepted, rfl, rfl⟩
  · exact ⟨_, _, hrename, .refl hconsistent, fun _ _ ↦ (if_pos rfl).symm⟩
  have hback := hconsistent.refusal?_undo hb ⟨hidentifier, hreserved⟩ hclear hn haccepted
  have hb' : (engine.store.rekey id b n).bindings[id]? =
      some { b with name := n, renamed := true } := by
    rw [Store.getElem?_bindings_rekey, if_pos rfl, hb, Option.map_some]
  have hafter := (hconsistent.rekey hb hn haccepted).rekey hb' (Ne.symm hn) hback
  refine ⟨_, _, Store.rename_of_accepted hb' (Ne.symm hn) hback, ?_, ?_⟩
  · refine hafter.rearranged hconsistent (fun i ↦ ?_) (fun i ↦ ?_) rfl rfl rfl
    · rw [Store.frame_rekey, Store.frame_rekey]
    · rw [Store.getElem?_bindings_rekey, Store.getElem?_bindings_rekey]
      by_cases hi : id = i
      · subst hi
        simp [hb, Binding.unmarked]
      · simp [hi]
  · intro haddressed honce
    have hsettled := h.settled haddressed.identity
    have hundone := Store.undone_respellSites (e := engine.edits) (n := n) haddressed.identity
      (hsettled.sound id b hb)
    rw [if_neg hn]
    refine hundone.apply_eq_expand hsettled hb haddressed (fun site hsite ↦ ?_) honce
      tree.mem_nodes_self
    have hspelled := h.spelling_eq hb honce site hsite
    rw [Site.spelling] at hspelled
    cases hsome : engine.edits.spelling? site.identifier.head with
    | none =>
      rw [hsome] at hspelled
      rw [← hspelled] at hidentifier
      exact absurd hidentifier (by decide +kernel)
    | some text =>
      rw [hsome] at hspelled
      exact congrArg some hspelled

theorem Sample.addressed_shorthand : Sample.shorthand.Addressed where
  identity := Sample.unshared_shorthand.identity
  reserved := by decide +kernel

/-- A parameter that a shorthand property uses takes another name and its old one again. -/
theorem undo_of_reachable_shorthand :
    ∃ s b s₁ e₁ s₂ e₂, Store.analyze Sample.shorthand = .ok s ∧ s.bindings[1]? = some b ∧
      b.name = "a" ∧ isIdentifier b.name = true ∧ isReserved b.name = false ∧
      (∀ site ∈ b.declarations, ∀ scope ∈ s.between site b.scope,
        s.own? scope b.name = none) ∧
      s.rename {} 1 "b" = .ok (s₁, e₁) ∧ s₁.rename e₁ 1 b.name = .ok (s₂, e₂) ∧
      s₂.Rearranged s ∧ (∀ site ∈ b.sites, Sample.shorthand.variableIds.count site.id ≤ 1) ∧
      e₂.apply Sample.shorthand = Sample.shorthand.expand b.carriedBy := by
  have hobserved : (fun s : Store ↦ do
      let b ← s.bindings[1]?
      let _ ← (s.rename {} 1 "b").toOption
      return decide (b.name = "a" ∧ ∀ site ∈ b.declarations, ∀ scope ∈ s.between site b.scope,
        s.own? scope b.name = none)) <$> Store.analyze Sample.shorthand = .ok (some true) := by
    decide +kernel
  obtain ⟨s, hs, hobserved⟩ := map_eq_ok_iff.mp hobserved
  obtain ⟨b, hb, hobserved⟩ := Option.bind_eq_some_iff.mp hobserved
  obtain ⟨⟨s₁, e₁⟩, hrename, hobserved⟩ := Option.bind_eq_some_iff.mp hobserved
  obtain ⟨hname, hclear⟩ := of_decide_eq_true (Option.some.inj hobserved)
  rw [toOption_eq_some_iff] at hrename
  have hidentifier : isIdentifier b.name = true := by
    rw [hname]
    decide +kernel
  have hreserved : isReserved b.name = false := by
    rw [hname]
    decide +kernel
  have hunshared : Sample.shorthand.variableIds.Nodup := by decide +kernel
  have honce : ∀ site ∈ b.sites, Sample.shorthand.variableIds.count site.id ≤ 1 :=
    fun site _ ↦ List.nodup_iff_count.mp hunshared site.id
  have hreachable : Engine.Reachable Sample.shorthand s { store := s } := ⟨hs, [], rfl⟩
  obtain ⟨s₂, e₂, hback, hrearranged, htree⟩ :=
    undo_of_reachable hreachable hb hidentifier hreserved hclear hrename
  have hexpanded := htree Sample.addressed_shorthand honce
  rw [if_neg (by rw [hname]; decide), Edits.apply_empty] at hexpanded
  exact ⟨s, b, s₁, e₁, s₂, e₂, hs, hb, hname, hidentifier, hreserved, hclear, hrename, hback,
    hrearranged, honce, hexpanded⟩

/-- An identifier that is held twice, as a reference to two bindings, loses the name that the one
has when the other is renamed and gets its name back. -/
theorem undo_incomplete_if_shared :
    ∃ s b s₁ e₁ s₂ e₂, Store.analyze Sample.shared = .ok s ∧
      (Engine.calls Sample.shared { store := s } [.rename 2 "y"]).store.bindings[0]? = some b ∧
      b.name = "a" ∧ isIdentifier b.name = true ∧ isReserved b.name = false ∧
      (∀ site ∈ b.declarations, ∀ scope ∈ (Engine.calls Sample.shared { store := s }
        [.rename 2 "y"]).store.between site b.scope,
          (Engine.calls Sample.shared { store := s } [.rename 2 "y"]).store.own? scope b.name =
            none) ∧
      (Engine.calls Sample.shared { store := s } [.rename 2 "y"]).store.rename
        (Engine.calls Sample.shared { store := s } [.rename 2 "y"]).edits 0 "x" = .ok (s₁, e₁) ∧
      s₁.rename e₁ 0 b.name = .ok (s₂, e₂) ∧
      e₂.apply Sample.shared ≠ ((Engine.calls Sample.shared { store := s }
        [.rename 2 "y"]).edits.apply Sample.shared).expand b.carriedBy := by
  have hobserved : (fun s : Store ↦ do
      let engine := Engine.calls Sample.shared { store := s } [.rename 2 "y"]
      let b ← engine.store.bindings[0]?
      let (s₁, e₁) ← (engine.store.rename engine.edits 0 "x").toOption
      let (_, e₂) ← (s₁.rename e₁ 0 b.name).toOption
      return decide (b.name = "a" ∧ (∀ site ∈ b.declarations,
          ∀ scope ∈ engine.store.between site b.scope, engine.store.own? scope b.name = none) ∧
        (e₂.apply Sample.shared).nodes.map (·.head.name) ≠
          ((engine.edits.apply Sample.shared).expand b.carriedBy).nodes.map (·.head.name))) <$>
        Store.analyze Sample.shared = .ok (some true) := by
    decide +kernel
  obtain ⟨s, hs, hobserved⟩ := map_eq_ok_iff.mp hobserved
  obtain ⟨b, hb, hobserved⟩ := Option.bind_eq_some_iff.mp hobserved
  obtain ⟨⟨s₁, e₁⟩, hrename, hobserved⟩ := Option.bind_eq_some_iff.mp hobserved
  obtain ⟨⟨s₂, e₂⟩, hback, hobserved⟩ := Option.bind_eq_some_iff.mp hobserved
  obtain ⟨hname, hclear, hdiffer⟩ := of_decide_eq_true (Option.some.inj hobserved)
  rw [toOption_eq_some_iff] at hrename hback
  refine ⟨s, b, s₁, e₁, s₂, e₂, hs, hb, hname, ?_, ?_, hclear, hrename, hback, fun htree ↦ ?_⟩
  · rw [hname]
    decide +kernel
  · rw [hname]
    decide +kernel
  · exact hdiffer (congrArg (fun tree : Node ↦ tree.nodes.map (·.head.name)) htree)

end Relabel
