import Relabel.Proofs.Labeling.Recognition
import Relabel.Proofs.Labeling.Renames
import Relabel.Proofs.Labeling.Structure
import Relabel.Proofs.Scope.Apart
import Relabel.Proofs.Scope.Resolution
import Relabel.Proofs.Syntax.Preorder

/-!
# Idioms that do not see local names

Some idioms look at bindings, at the names of properties and at names that belong to no binding of
the program, but never at the text of anything. Renames leave all of that alone, so these idioms
find the same on a node before and after any renames, with the same requests.
-/

namespace Relabel

/-- No property has one node for its key and in its value. -/
def Node.KeysApart (tree : Node) : Prop :=
  ∀ n ∈ tree.nodes, Edits.sharesKey n = false

instance (tree : Node) : Decidable tree.KeysApart :=
  inferInstanceAs (Decidable (∀ n ∈ tree.nodes, Edits.sharesKey n = false))

theorem Node.KeysApart.namesKeys {tree : Node} (h : tree.KeysApart) : tree.NamesKeys :=
  fun n hn _ _ hshares ↦ absurd (h n hn ▸ hshares) (by simp)

namespace Node.Unshared

variable {tree : Node}

/-- An identifier that stands under a label of its own as something else than a variable stands for
a variable nowhere. -/
theorem not_mem_variableIds (h : tree.Unshared) (hkeys : tree.NamesKeys) {e : Edge}
    (he : e ∈ tree.edges) (hlent : e.isLent = false) (hname : e.isVariable = false) :
    e.child.id ∉ tree.variableIds := by
  intro hmem
  obtain ⟨other, hother, hid⟩ := List.mem_map.mp hmem
  obtain ⟨hedge, hvariable⟩ := List.mem_filter.mp hother
  have hnotLent : other.isLent = false := by
    by_contra hlent
    have hnot := not_isVariable_of_isLent hkeys hedge (Bool.not_eq_false _ ▸ hlent)
    exact absurd (hvariable.symm.trans hnot) (by simp)
  have hsame : other = e := List.inj_on_of_nodup_map h.distinct
    (List.mem_filter.mpr ⟨hedge, by simp [hnotLent]⟩)
    (List.mem_filter.mpr ⟨he, by simp [hlent]⟩) hid
  rw [hsame, hname] at hvariable
  exact absurd hvariable (by simp)

end Node.Unshared

/-! ## What renames leave alone -/

namespace Store

variable {tree : Node} {s : Store}

/-- The sites of bindings stand where the program has variables. -/
theorem mem_variableIds_of_analyze (h : analyze tree = .ok s) {id : BindingId} {b : Binding}
    (hb : s.bindings[id]? = some b) {site : Site} (hsite : site ∈ b.sites) :
    site.id ∈ tree.variableIds := by
  obtain ⟨-, facts, hfacts, rfl⟩ := analyze_eq_ok_iff.mp h
  have hfit := (Program.fit_facts hfacts).1
  have hmem : site ∈ Fact.declaredSites facts ++ Fact.referredSites facts := by
    rcases List.mem_append.mp hsite with hdeclared | hreferred
    · exact List.mem_append_left _ (Fact.mem_declaredSites hfit hb hdeclared)
    · exact List.mem_append_right _ (mem_referredSites_of_mem hfit hb hreferred).1
  have hmentioned : site.id ∈ (facts.flatMap Fact.sites).map Site.id :=
    List.mem_map.mpr ⟨site, (Fact.sites_perm facts).mem_iff.mpr hmem, rfl⟩
  have hcount := Program.count_sites_le hfacts site.id
  exact List.count_pos_iff.mp ((List.count_pos_iff.mpr hmentioned).trans_le hcount)

/-- An identifier that refers to no binding belongs to none. -/
theorem owner_eq_none_of_free (h : analyze tree = .ok s) (hunshared : tree.variableIds.Nodup)
    {x : NodeId} (hx : x ∈ s.free) : s.owners.get? x = none := by
  have htracks := tracks_analyze h hunshared
  obtain ⟨-, facts, hfacts, rfl⟩ := analyze_eq_ok_iff.mp h
  rw [Program.references_eq hfacts] at htracks
  rw [Surveyed.free_ofFacts, List.mem_reverse, List.mem_map] at hx
  obtain ⟨site, hsite, rfl⟩ := hx
  obtain ⟨hmem, hlookup⟩ := List.mem_filter.mp hsite
  have hunbound := of_decide_eq_true hlookup
  exact htracks.referrer ⟨site, none⟩ (List.mem_map.mpr ⟨site, hmem, by rw [hunbound]⟩)

/-- Only sites of bindings are respelled. -/
theorem preserved_respelled (s : Store) : Preserved fun live e ↦ s.Kept live ∧
    ∀ x, (e.spellings.get? x).isSome = true →
      ∃ (id : BindingId) (b : Binding), s.bindings[id]? = some b ∧ x ∈ b.sites.map Site.id := by
  rintro live e id b name ⟨hkept, hspelled⟩ hb - -
  refine ⟨hkept.rekey id b name, fun x hx ↦ ?_⟩
  rw [spellings_respellSites] at hx
  split at hx
  · rename_i hours
    obtain ⟨old, hold, hsites⟩ := hkept.exists_sites hb
    exact ⟨id, old, hold, hsites ▸ hours⟩
  · exact hspelled x hx

end Store

/-- What an engine shows of an analysed program after renames: other spellings, but the same
bindings, and the names of properties and of what belongs to no binding as they were. -/
structure Recognition.Context.Renamed (tree : Node) (s : Store) (c : Context) : Prop where
  owners : c.store.owners = s.owners
  free : c.store.free = s.free
  keepsKey : ∀ n ∈ tree.nodes, c.edits.KeepsKey n
  unbound : ∀ n ∈ tree.nodes, n.id ∈ s.free → c.edits.spelling? n.head = n.head.name
  naming : ∀ edge ∈ tree.edges, edge.isLent = false → edge.isVariable = false →
    c.edits.spelling? edge.child.head = edge.child.head.name

theorem Store.Grants.renamed {tree : Node} {s live : Store} {e : Edits} {requests : List Request}
    (h : s.Grants requests live e) (hs : analyze tree = .ok s) (hunshared : tree.Unshared)
    (hkeys : tree.KeysApart) : Recognition.Context.Renamed tree s ⟨live, e⟩ := by
  have hnodup := hunshared.nodup_variableIds hkeys.namesKeys
  have hkept := h.preserves (preserved_kept s) (.refl s)
  have hjustified := (h.preserves (preserved_justified _) (justified_of_analyze hs)).2
  have hrespelled := (h.preserves (preserved_respelled s) ⟨.refl s, by simp⟩).2
  have hplain {n : Node} (hnone : ∀ (id : BindingId) (b : Binding), s.bindings[id]? = some b →
      n.id ∉ b.sites.map Site.id) : e.spelling? n.head = n.head.name := by
    unfold Edits.spelling?
    cases hspelled : e.spellings.get? n.head.id with
    | none => rfl
    | some text =>
      obtain ⟨id, b, hb, hmem⟩ := hrespelled n.head.id (by rw [hspelled]; rfl)
      exact absurd hmem (hnone id b hb)
  refine ⟨hkept.owners, hkept.free, fun n hn name hname ↦ ?_, fun n _ hfree ↦ hplain ?_,
    fun edge hedge hlent hname ↦ hplain ?_⟩
  · obtain ⟨property, hproperty, hid, -, hshares, -⟩ := hjustified n.id name hname
    obtain rfl := hunshared.identity property hproperty n hn hid
    exact absurd (hkeys property hn ▸ hshares) (by simp)
  · rintro id b hb hmem
    obtain ⟨site, hsite, hid⟩ := List.mem_map.mp hmem
    have howner := (tracks_analyze hs hnodup).owner id b hb site hsite
    rw [hid, owner_eq_none_of_free hs hnodup hfree] at howner
    exact absurd howner (by simp)
  · rintro id b hb hmem
    obtain ⟨site, hsite, hid⟩ := List.mem_map.mp hmem
    have hvariable := mem_variableIds_of_analyze hs hb hsite
    rw [hid] at hvariable
    exact hunshared.not_mem_variableIds hkeys.namesKeys hedge hlent hname hvariable

theorem Engine.Reachable.renamed {tree : Node} {s : Store} {engine : Engine}
    (h : engine.Reachable tree s) (hunshared : tree.Unshared) (hkeys : tree.KeysApart) :
    Recognition.Context.Renamed tree s ⟨engine.store, engine.edits⟩ := by
  obtain ⟨requests, hgrants⟩ := h.grants
  exact hgrants.renamed h.analyze hunshared hkeys

namespace Node

/-- A visit as the edits leave it. -/
def Visit.apply (e : Edits) (visit : Visit) : Visit :=
  ⟨e.apply visit.node, visit.parent.map e.apply⟩

section Walks

variable {e : Edits} {skip : List Kind} {n : Node}

/-- The pre-order of an edited tree lists the edited nodes. -/
theorem preorder_apply (h : ∀ m ∈ n.nodes, e.KeepsKey m) (parent : Option Node) :
    (e.apply n).preorder skip (parent.map e.apply) =
      (n.preorder skip parent).map (Visit.apply e) := by
  induction n using Node.induction generalizing parent with
  | step n ih =>
    have hskipped : (e.apply n).isSkipped skip = n.isSkipped skip := by
      rw [isSkipped, isSkipped, Edits.kind_apply]
    have hbelow : ((n.children.map fun c ↦ (c.1, e.apply c.2)).flatMap
          fun c ↦ c.2.preorder skip (some (e.apply n))) =
        (n.children.flatMap fun c ↦ c.2.preorder skip (some n)).map (Visit.apply e) := by
      rw [List.flatMap_map, List.map_flatMap]
      refine List.flatMap_congr fun c hc ↦ ?_
      have hchild := mem_children_iff.mp hc
      exact ih c.1 c.2 hchild
        (fun m hm ↦ h m (mem_nodes_iff.mpr (.inr ⟨c.1, c.2, hchild, hm⟩))) (some n)
    rw [preorder_eq, preorder_eq, hskipped, (h n n.mem_nodes_self).children_apply, hbelow,
      Option.isSome_map, List.map_cons, apply_ite (List.map (Visit.apply e)), List.map_nil]
    rfl

theorem along_map_apply (listed : List Visit) :
    Walk.along (listed.map (Visit.apply e)) =
      ⟨(Walk.along listed).visits.map (Visit.apply e), (Walk.along listed).fault⟩ := by
  induction listed with
  | nil => rfl
  | cons visit rest ih =>
    have htyped : (visit.apply e).node.isTyped = visit.node.isTyped := e.isTyped_apply visit.node
    rw [List.map_cons]
    cases hvisit : visit.node.isTyped with
    | true =>
      rw [Walk.along_cons_of_typed (htyped.trans hvisit), Walk.along_cons_of_typed hvisit, ih]
      rfl
    | false =>
      have hparent : (visit.apply e).parent.bind kind = visit.parent.bind kind := by
        cases hholder : visit.parent <;> simp [Visit.apply, hholder, Edits.kind_apply]
      rw [Walk.along_cons_of_untyped (htyped.trans hvisit), Walk.along_cons_of_untyped hvisit,
        hparent]
      rfl

/-- A walk through an edited tree comes to the edited nodes, and stops where the walk through the
tree stops. -/
theorem walk_apply (h : ∀ m ∈ n.nodes, e.KeepsKey m) :
    (e.apply n).walk skip =
      ⟨(n.walk skip).visits.map (Visit.apply e), (n.walk skip).fault⟩ := by
  have hlisted : (e.apply n).preorder skip none = (n.preorder skip none).map (Visit.apply e) :=
    preorder_apply h none
  rw [walk_eq_along, walk_eq_along, hlisted, along_map_apply]

theorem mem_nodes_of_mem_walk {visit : Visit} (h : visit ∈ (n.walk skip).visits) :
    visit.node ∈ n.nodes := by
  rw [walk_eq_along] at h
  exact mem_nodes_of_mem_preorder ((List.takeWhile_sublist _).subset h)

end Walks

end Node

/-- A search through an edited tree finds what the search through the tree finds. -/
theorem Recognition.search_walk_apply {e : Edits} {skip : List Kind} {p p' : Node → Bool} {n : Node}
    (h : ∀ m ∈ n.nodes, e.KeepsKey m ∧ p' (e.apply m) = p m) :
    search ((e.apply n).walk skip) p' = search (n.walk skip) p := by
  have hfound : ((n.walk skip).visits.map (Node.Visit.apply e)).any (fun visit ↦ p' visit.node) =
      (n.walk skip).visits.any fun visit ↦ p visit.node := by
    rw [List.any_map, Bool.eq_iff_iff, List.any_eq_true, List.any_eq_true]
    refine exists_congr fun visit ↦ and_congr_right fun hvisit ↦ ?_
    rw [← (h visit.node (Node.mem_nodes_of_mem_walk hvisit)).2]
    rfl
  rw [Node.walk_apply fun m hm ↦ (h m hm).1]
  simp only [search, hfound]

/-! ## Recognisers -/

namespace Recognition

section Parts

variable (e : Edits) (n : Node)

theorem identifier?_apply {field : Field} (hfield : field ≠ .key) :
    identifier? (e.apply n) field = (identifier? n field).map e.apply := by
  rw [identifier?, identifier?, Edits.child?_apply e n hfield, Option.filter_map]
  simp only [Function.comp_def, Edits.isIdentifier_apply]

theorem ofKind?_apply {field : Field} (hfield : field ≠ .key) (kind : Kind) :
    ofKind? (e.apply n) field kind = (ofKind? n field kind).map e.apply := by
  rw [ofKind?, ofKind?, Edits.child?_apply e n hfield, Option.filter_map]
  simp only [Function.comp_def, Edits.hasKind_apply]

theorem firstDeclarator?_apply :
    (e.apply n).firstDeclarator? = n.firstDeclarator?.map e.apply := by
  unfold Node.firstDeclarator?
  rw [Edits.hasKind_apply, Edits.child?_apply _ _ (by decide : Field.declarations ≠ .key)]
  split <;> rfl

end Parts

section Members

variable {tree n m : Node}

theorem mem_nodes_of_mem_statements (hn : n ∈ tree.nodes) (hm : some m ∈ n.statements) :
    m ∈ tree.nodes :=
  Edits.shows_empty_iff.mp ((Edits.shows_empty_iff.mpr hn).statement hm)

theorem mem_nodes_of_firstDeclarator? (hn : n ∈ tree.nodes) (hm : n.firstDeclarator? = some m) :
    m ∈ tree.nodes := by
  unfold Node.firstDeclarator? at hm
  split at hm
  · exact Node.mem_nodes_of_mem_branches hn (Node.mem_branches_of_child? hm)
  · simp at hm

theorem any_init_apply {e : Edits} {p p' : Node → Bool} (hn : n ∈ tree.nodes)
    (hp : ∀ m ∈ tree.nodes, p' (e.apply m) = p m) :
    ((e.apply n).child? .init).any p' = (n.child? .init).any p := by
  rw [Edits.child?_apply _ _ (by decide : Field.init ≠ .key)]
  cases hinit : n.child? .init with
  | none => rfl
  | some init =>
    exact hp init (Node.mem_nodes_of_mem_branches hn (Node.mem_branches_of_child? hinit))

end Members

theorem of_guard_eq_some {p : Prop} [Decidable p] {u : Unit}
    (h : (guard p : Option Unit) = some u) : p := by
  unfold guard at h
  split at h
  · assumption
  · simp [failure] at h

theorem mapM_map_of_eq {α β γ : Type} (f : α → β) (g : α → Issuing γ) (g' : β → Issuing γ)
    (xs : List α) (h : ∀ x ∈ xs, g' (f x) = g x) : (xs.map f).mapM g' = xs.mapM g := by
  induction xs with
  | nil => rfl
  | cons x rest ih =>
    obtain ⟨hx, hrest⟩ := List.forall_mem_cons.mp h
    rw [List.map_cons, List.mapM_cons, List.mapM_cons, hx, ih hrest]

namespace Context.Renamed

variable {tree n : Node} {s : Store} {c : Context} (h : c.Renamed tree s)

include h

theorem bindingOf?_apply (m : Node) : c.store.bindingOf? (c.edits.apply m) = s.bindingOf? m := by
  rw [Store.bindingOf?, Store.bindingOf?, Edits.isIdentifier_apply, Edits.id_apply, h.owners]

theorem askFor_apply (m : Node) (role : Role) :
    askFor c (c.edits.apply m) role = askFor ⟨s, {}⟩ m role := by
  rw [askFor, askFor, h.bindingOf?_apply]

/-- A name that belongs to no binding is seen as it is. -/
theorem isNamed_and_isFree_apply (hn : n ∈ tree.nodes) (name : String) :
    ((c.edits.apply n).isNamed name && c.store.isFree (c.edits.apply n)) =
      (n.isNamed name && s.isFree n) := by
  unfold Store.isFree
  rw [Edits.isIdentifier_apply, Edits.id_apply, h.free]
  by_cases hfree : n.id ∈ s.free
  · rw [Node.isNamed, Node.isNamed, Edits.isIdentifier_apply, Edits.head_apply, Edits.applyHead,
      h.unbound n hn hfree]
  · simp [hfree]

/-- What stands for no variable is seen as it is. -/
theorem isNamed_apply (edge : Edge) (hedge : edge ∈ tree.edges) (hlent : edge.isLent = false)
    (hname : edge.isVariable = false) (name : String) :
    (c.edits.apply edge.child).isNamed name = edge.child.isNamed name := by
  rw [Node.isNamed, Node.isNamed, Edits.isIdentifier_apply, Edits.head_apply, Edits.applyHead,
    h.naming edge hedge hlent hname]

theorem isMemberCall_apply (hn : n ∈ tree.nodes) (name : String) :
    (c.edits.apply n).isMemberCall name = n.isMemberCall name := by
  unfold Node.isMemberCall
  rw [Edits.hasKind_apply, Edits.child?_apply _ _ (by decide : Field.callee ≠ .key)]
  cases hcallee : n.child? .callee with
  | none => rfl
  | some callee =>
    have hmem := Node.mem_nodes_of_mem_branches hn (Node.mem_branches_of_child? hcallee)
    simp only [Option.map_some, Edits.hasKind_apply, Edits.head_apply, Edits.applyHead,
      Edits.child?_apply _ callee (by decide : Field.property ≠ .key)]
    by_cases hmember : callee.hasKind .memberExpression = true ∧ callee.head.computed = false
    · cases hproperty : callee.child? .property with
      | none => rfl
      | some property =>
        obtain ⟨hmember, hcomputed⟩ := hmember
        have hkind : callee.kind = some .memberExpression := by simpa [Node.hasKind] using hmember
        have hnamed := h.isNamed_apply ⟨callee, .property, property⟩
          (Node.mem_edges_iff.mpr ⟨hmem, Node.mem_branches_of_child? hproperty⟩)
          (by simp [Edge.isLent, hkind])
          (by simp [Edge.isVariable, Task.isPropertyName, Node.hasKind, hkind, hcomputed]) name
        simp only [Option.map_some, Option.any_some, hnamed]
    · rw [not_and_or, Bool.not_eq_true, Bool.not_eq_false] at hmember
      rcases hmember with hkind | hcomputed
      · simp [hkind]
      · simp [hcomputed]

theorem callsGlobalAtob_apply (hn : n ∈ tree.nodes) :
    callsGlobalAtob c (c.edits.apply n) = callsGlobalAtob ⟨s, {}⟩ n := by
  unfold callsGlobalAtob
  rw [Edits.hasKind_apply, Edits.child?_apply _ _ (by decide : Field.callee ≠ .key)]
  cases hcallee : n.child? .callee with
  | none => rfl
  | some callee =>
    have hmem := Node.mem_nodes_of_mem_branches hn (Node.mem_branches_of_child? hcallee)
    simp only [Option.map_some, Option.any_some, h.isNamed_and_isFree_apply hmem]

theorem readsChartKey_apply (hn : n ∈ tree.nodes) :
    readsChartKey (c.edits.apply n) = readsChartKey n := by
  unfold readsChartKey
  rw [h.isMemberCall_apply hn, Edits.child?_apply _ _ (by decide : Field.callee ≠ .key)]
  cases n.child? .callee with
  | none => rfl
  | some callee =>
    simp only [Option.map_some, Option.bind_some,
      Edits.child?_apply _ callee (by decide : Field.object ≠ .key)]
    cases callee.child? .object with
    | none => rfl
    | some key =>
      simp only [Option.map_some, Edits.hasKind_apply, Edits.head_apply, Edits.applyHead]

theorem readsFirstCode_apply (decoded : Node) (hn : n ∈ tree.nodes) :
    readsFirstCode c (c.edits.apply decoded) (c.edits.apply n) =
      readsFirstCode ⟨s, {}⟩ decoded n := by
  have harguments : ((c.edits.apply n).arguments.head?.join).any
      (·.isNumberOf (.integer 0)) = (n.arguments.head?.join).any (·.isNumberOf (.integer 0)) := by
    rw [Node.arguments, Node.arguments, Edits.items_apply _ _ (by decide)]
    rcases n.items .arguments with _ | ⟨_ | argument, rest⟩
    · rfl
    · rfl
    · simp [Node.isNumberOf, Edits.hasKind_apply, Edits.head_apply, Edits.applyHead]
  unfold readsFirstCode
  rw [h.isMemberCall_apply hn, harguments, identifier?_apply _ _ (by decide),
    Edits.child?_apply _ _ (by decide : Field.callee ≠ .key)]
  cases n.child? .callee with
  | none => rfl
  | some callee =>
    simp only [Option.map_some, Option.bind_some, identifier?_apply _ callee
      (by decide : Field.object ≠ .key)]
    cases identifier? callee .object with
    | none => rfl
    | some target =>
      cases identifier? decoded .id with
      | none => rfl
      | some id => simp only [Option.map_some, h.bindingOf?_apply]

theorem polyfillAccessor_apply (hn : n ∈ tree.nodes) :
    polyfillAccessor c (c.edits.apply n) = polyfillAccessor ⟨s, {}⟩ n := by
  unfold polyfillAccessor
  rw [identifier?_apply _ _ (by decide), Edits.child?_apply _ _ (by decide : Field.init ≠ .key)]
  cases identifier? n .id with
  | none => rfl
  | some id =>
    cases hinit : n.child? .init with
    | none => rfl
    | some init =>
      have hmem := Node.mem_nodes_of_mem_branches hn (Node.mem_branches_of_child? hinit)
      simp only [Option.map_some, h.askFor_apply]
      rw [search_walk_apply fun m hm ↦ ⟨h.keepsKey m (Node.mem_nodes_trans hmem hm), ?_⟩]
      have hm' := Node.mem_nodes_trans hmem hm
      rw [Edits.hasKind_apply, Edits.child?_apply _ m (by decide : Field.argument ≠ .key)]
      cases hargument : m.child? .argument with
      | none => rfl
      | some argument =>
        have hargument := Node.mem_nodes_of_mem_branches hm' (Node.mem_branches_of_child? hargument)
        simp only [Option.map_some, Option.any_some, h.isNamed_and_isFree_apply hargument]

theorem chartDecode_apply (hn : n ∈ tree.nodes) :
    chartDecode c (c.edits.apply n) = chartDecode ⟨s, {}⟩ n := by
  unfold chartDecode
  rw [identifier?_apply _ _ (by decide), Edits.child?_apply _ _ (by decide : Field.body ≠ .key)]
  cases identifier? n .id with
  | none => rfl
  | some id =>
    cases hbody : n.child? .body with
    | none => rfl
    | some body =>
      have hmem := Node.mem_nodes_of_mem_branches hn (Node.mem_branches_of_child? hbody)
      simp only [Option.map_some, h.askFor_apply]
      rw [search_walk_apply fun m hm ↦ ⟨h.keepsKey m (Node.mem_nodes_trans hmem hm),
        h.readsChartKey_apply (Node.mem_nodes_trans hmem hm)⟩]

theorem catchParameter_apply (n : Node) :
    catchParameter c (c.edits.apply n) = catchParameter ⟨s, {}⟩ n := by
  unfold catchParameter
  rw [identifier?_apply _ _ (by decide)]
  cases identifier? n .param with
  | none => rfl
  | some param => simp only [Option.map_some, h.askFor_apply]

theorem standardDecode_apply (hn : n ∈ tree.nodes) :
    standardDecode c (c.edits.apply n) = standardDecode ⟨s, {}⟩ n := by
  unfold standardDecode
  rw [identifier?_apply _ _ (by decide), Edits.statements_apply]
  cases identifier? n .id with
  | none => rfl
  | some id =>
    rcases hstatements : n.statements with
      _ | ⟨_ | first, _ | ⟨_ | second, _ | ⟨_ | third, rest⟩⟩⟩
    case cons.some.cons.some.cons.some =>
      have hfirst := mem_nodes_of_mem_statements hn (hstatements ▸ List.mem_cons_self)
      have hsecond := mem_nodes_of_mem_statements hn
        (hstatements ▸ List.mem_cons_of_mem _ List.mem_cons_self)
      simp only [Option.map_some, List.map_cons, List.all_cons, Edits.hasKind_apply,
        firstDeclarator?_apply, h.askFor_apply]
      refine ite_congr rfl (fun _ ↦ rfl) fun _ ↦ ?_
      cases hdecoded : first.firstDeclarator? with
      | none => rfl
      | some decoded =>
        cases hcode : second.firstDeclarator? with
        | none => rfl
        | some code =>
          have hcalls := any_init_apply (mem_nodes_of_firstDeclarator? hfirst hdecoded)
            fun m hm ↦ h.callsGlobalAtob_apply hm
          have hreads := any_init_apply (mem_nodes_of_firstDeclarator? hsecond hcode)
            fun m hm ↦ h.readsFirstCode_apply decoded hm
          simp only [Option.map_some, hcalls, hreads]
    all_goals rfl

theorem identifierProperty?_apply (hn : n ∈ tree.nodes) :
    identifierProperty? (c.edits.apply n) =
      (identifierProperty? n).map fun found ↦ (c.edits.apply found.1, c.edits.apply found.2) := by
  have hkey : identifier? (c.edits.apply n) .key = (identifier? n .key).map c.edits.apply := by
    rw [identifier?, identifier?, (h.keepsKey n hn).child?_apply, Option.filter_map]
    simp only [Function.comp_def, Edits.isIdentifier_apply]
  unfold identifierProperty?
  rw [hkey, identifier?_apply _ _ (by decide), Edits.hasKind_apply, Edits.head_apply]
  simp only [Edits.applyHead]
  cases identifier? n .key <;> cases identifier? n .value <;> simp [guard]

/-- The key of a plain property is seen as it is. -/
theorem name_key_apply (hkeys : tree.KeysApart) (hn : n ∈ tree.nodes) {key value : Node}
    (hfound : identifierProperty? n = some (key, value)) :
    (c.edits.apply key).head.name = key.head.name := by
  unfold identifierProperty? at hfound
  simp only [Option.bind_eq_bind, Option.bind_eq_some_iff] at hfound
  obtain ⟨_, hkind, _, htests, k, hkey, v, -, hsame⟩ := hfound
  obtain ⟨rfl, rfl⟩ := Prod.mk.inj (Option.some.inj hsame)
  have hproperty : n.kind = some .property := by
    simpa [Node.hasKind] using of_guard_eq_some hkind
  have hcomputed : n.head.computed = false := by
    have htests := of_guard_eq_some htests
    simp only [Bool.and_eq_true, Bool.not_eq_true'] at htests
    exact htests.1.1
  have hchild := (Option.filter_eq_some_iff.mp hkey).1
  have hedge : ⟨n, .key, k⟩ ∈ tree.edges :=
    Node.mem_edges_iff.mpr ⟨hn, Node.mem_branches_of_child? hchild⟩
  have hname := h.naming ⟨n, .key, k⟩ hedge (by simp [Edge.isLent, hproperty, hkeys n hn])
    (by simp [Edge.isVariable, Task.isPropertyName, Node.hasKind, hproperty, hcomputed])
  rw [Edits.head_apply]
  exact hname

theorem handlerMap_apply (hkeys : tree.KeysApart) (hn : n ∈ tree.nodes) :
    handlerMap c (c.edits.apply n) = handlerMap ⟨s, {}⟩ n := by
  unfold handlerMap
  rw [ofKind?_apply _ _ (by decide), identifier?_apply _ _ (by decide)]
  cases hmap : ofKind? n .init .objectExpression with
  | none => rfl
  | some map =>
    have hmem := Node.mem_nodes_of_mem_branches hn
      (Node.mem_branches_of_child? (Option.filter_eq_some_iff.mp hmap).1)
    have hitem {item : Option Node} (hitem : item ∈ map.items .properties) {p : Node}
        (hp : item = some p) : p ∈ tree.nodes :=
      Node.mem_nodes_of_mem_branches hmem (Node.mem_items_iff.mp (hp ▸ hitem))
    have hproperties : ((c.edits.apply map).items .properties).filterMap
          (fun item ↦ item.bind identifierProperty?) =
        ((map.items .properties).filterMap fun item ↦ item.bind identifierProperty?).map
          fun found ↦ (c.edits.apply found.1, c.edits.apply found.2) := by
      rw [Edits.items_apply _ _ (by decide), List.filterMap_map, List.map_filterMap]
      apply List.filterMap_congr
      rintro (_ | p) hp
      · rfl
      · exact h.identifierProperty?_apply (hitem hp rfl)
    have hfound : ∀ found ∈ (map.items .properties).filterMap
        (fun item ↦ item.bind identifierProperty?),
        (c.edits.apply found.1).head.name = found.1.head.name := by
      rintro ⟨key, value⟩ hfound
      obtain ⟨_ | p, hp, hproperty⟩ := List.mem_filterMap.mp hfound
      · simp at hproperty
      · exact h.name_key_apply hkeys (hitem hp rfl) hproperty
    simp only [Option.map_some, hproperties]
    generalize (map.items .properties).filterMap (fun item ↦ item.bind identifierProperty?) =
      properties at hfound
    have hmarked : (properties.map fun found ↦ (c.edits.apply found.1, c.edits.apply found.2)).any
        (·.1.isNamed handlerMapMarker) = properties.any (·.1.isNamed handlerMapMarker) := by
      rw [List.any_map, Bool.eq_iff_iff, List.any_eq_true, List.any_eq_true]
      refine exists_congr fun found ↦ and_congr_right fun hmem ↦ ?_
      simp only [Function.comp_apply, Node.isNamed, Edits.isIdentifier_apply, hfound found hmem]
    have hhandlers := mapM_map_of_eq
      (fun found : Node × Node ↦ (c.edits.apply found.1, c.edits.apply found.2))
      (fun found ↦ do
        let name ← Issuing.handlerName (found.1.head.name.getD "")
        return (s.bindingOf? found.2, name))
      (fun found ↦ do
        let name ← Issuing.handlerName (found.1.head.name.getD "")
        return (c.store.bindingOf? found.2, name)) properties
      fun found hmem ↦ by simp only [hfound found hmem, h.bindingOf?_apply]
    rw [hmarked]
    refine ite_congr rfl (fun _ ↦ rfl) fun _ ↦ ?_
    rw [hhandlers]
    congr 1
    funext handlers
    cases identifier? n .id with
    | none => rfl
    | some id => simp only [Option.map_some, h.bindingOf?_apply]

end Context.Renamed

end Recognition

namespace Idiom

/-- The idioms that look at bindings and at names that renames leave alone, and at no text. -/
def scopeBased : List Idiom :=
  [polyfillAccessor, chartDecode, standardDecode, catchParameter, handlerMap]

/-- Such an idiom finds on an edited node what it finds on the node of the analysed program. -/
theorem recognise_apply {tree n : Node} {s : Store} {c : Recognition.Context}
    (h : c.Renamed tree s) (hkeys : tree.KeysApart) {idiom : Idiom} (hidiom : idiom ∈ scopeBased)
    (hn : n ∈ tree.nodes) :
    idiom.recognise c (c.edits.apply n) = idiom.recognise ⟨s, {}⟩ n := by
  cases idiom with
  | polyfillAccessor => exact h.polyfillAccessor_apply hn
  | chartDecode => exact h.chartDecode_apply hn
  | standardDecode => exact h.standardDecode_apply hn
  | catchParameter => exact h.catchParameter_apply n
  | handlerMap => exact h.handlerMap_apply hkeys hn
  | _ => simp [scopeBased] at hidiom

end Idiom

/-- An idiom that is based on scopes gives the same answer about a node before and after any
renames: the same requests or none, or the same fault, and it leaves the same registry. -/
theorem recognise_eq_of_reachable {tree n : Node} {s : Store} {before after : Engine}
    (hbefore : before.Reachable tree s) (hafter : after.Reachable tree s)
    (hunshared : tree.Unshared) (hkeys : tree.KeysApart) {idiom : Idiom}
    (hidiom : idiom ∈ Idiom.scopeBased) (hn : n ∈ tree.nodes) (registry : Registry) :
    (idiom.recognise ⟨after.store, after.edits⟩ (after.edits.apply n)).run registry =
      (idiom.recognise ⟨before.store, before.edits⟩ (before.edits.apply n)).run registry := by
  rw [Idiom.recognise_apply (hbefore.renamed hunshared hkeys) hkeys hidiom hn,
    Idiom.recognise_apply (hafter.renamed hunshared hkeys) hkeys hidiom hn]

namespace Sample

/-- `var m = { bake };` -/
def handlers : Node :=
  node 2 .variableDeclarator [(.id, some (name 3 "m")),
    (.init, some (node 4 .objectExpression [(.properties, some (.mk
      { id := ⟨5, false⟩, kind := some .property, shorthand := true, variety := some "init" }
      [(.key, some (name 6 "bake")), (.value, some (name 7 "bake"))]))]))]

/-- `var m = { bake }; function bake() { }` -/
def handled : Node :=
  node 0 .program
    [(.body, some (.mk
        { id := ⟨1, false⟩, kind := some .variableDeclaration, variety := some "var" }
        [(.declarations, some handlers)])),
      (.body, some (node 8 .functionDeclaration
        [(.id, some (name 9 "bake")), (.body, some (node 10 .blockStatement []))]))]

theorem unshared_handled : handled.Unshared where
  identity := eq_of_id_eq handled.nodes (List.range 11) rfl (by
    show ((List.range 11).map fun index ↦ (⟨index, false⟩ : NodeId)).Nodup
    decide +kernel)
  distinct := by
    show ((List.range' 1 10).map fun index ↦ (⟨index, false⟩ : NodeId)).Nodup
    decide +kernel

end Sample

/-- A map of handlers is known by its key also when the handler has another name. -/
theorem recognise_eq_of_reachable_handled :
    ∃ s, Store.analyze Sample.handled = .ok s ∧ Sample.handled.Unshared ∧
      Sample.handled.KeysApart ∧ Sample.handlers ∈ Sample.handled.nodes ∧
      (let registry : Registry := ⟨"___", Role.defaultDescriptor, [], {}⟩
      let before : Engine := { store := s }
      let after := before.calls Sample.handled [.rename 1 "decode"]
      (after.edits.apply Sample.handled).identifierNames =
          .ok ["m", "bake", "decode", "decode"] ∧
        ((Idiom.handlerMap.recognise ⟨before.store, before.edits⟩
            (before.edits.apply Sample.handlers)).run registry).1.toOption =
          some (some [⟨1, "___bakeHandler"⟩, ⟨0, "___responseHandlers"⟩]) ∧
        (Idiom.handlerMap.recognise ⟨after.store, after.edits⟩
            (after.edits.apply Sample.handlers)).run registry =
          (Idiom.handlerMap.recognise ⟨before.store, before.edits⟩
            (before.edits.apply Sample.handlers)).run registry) := by
  have hobserved : (fun s : Store ↦
      let registry : Registry := ⟨"___", Role.defaultDescriptor, [], {}⟩
      let before : Engine := { store := s }
      let after := before.calls Sample.handled [.rename 1 "decode"]
      decide ((after.edits.apply Sample.handled).identifierNames.toOption =
          some ["m", "bake", "decode", "decode"] ∧
        ((Idiom.handlerMap.recognise ⟨before.store, before.edits⟩
            (before.edits.apply Sample.handlers)).run registry).1.toOption =
          some (some [⟨1, "___bakeHandler"⟩, ⟨0, "___responseHandlers"⟩]))) <$>
      Store.analyze Sample.handled = .ok true := by
    decide +kernel
  obtain ⟨s, hs, hobserved⟩ := map_eq_ok_iff.mp hobserved
  obtain ⟨hrenamed, hfound⟩ := of_decide_eq_true hobserved
  have hkeys : Sample.handled.KeysApart := by decide +kernel
  have hmem : Sample.handlers ∈ Sample.handled.nodes :=
    List.mem_of_getElem? (show Sample.handled.nodes[2]? = some Sample.handlers from rfl)
  exact ⟨s, hs, Sample.unshared_handled, hkeys, hmem, toOption_eq_some_iff.mp hrenamed, hfound,
    recognise_eq_of_reachable ⟨hs, [], rfl⟩ ⟨hs, [.rename 1 "decode"], rfl⟩
      Sample.unshared_handled hkeys (by decide) hmem _⟩

end Relabel
