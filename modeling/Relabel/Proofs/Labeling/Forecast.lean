import Relabel.Proofs.Idiom.Chain
import Relabel.Proofs.Labeling.Visit
import Relabel.Proofs.Scope.Declaration

/-!
# Names that are foreseen

A getter is named after names that other getters may not have yet. The paths from getters are those
of the program before anything was renamed, as long as all renames give getters the names that their
paths lead to, and the registry has issued nothing but such names since. So a getter asks for one
and the same name, whenever it is asked.
-/

namespace Relabel

open Recognition

namespace Recognition

theorem returnedIdentifier?_eq_some_iff {r : Registry} {n argument : Node} :
    returnedIdentifier? r n = some argument ↔ n.hasKind .functionDeclaration = true ∧
      ∃ name, n.child? .id = some name ∧ name.isIdentifier = true ∧
        isNamedByOther r (name.head.name.getD "") = false ∧ n.soleReturn? = some argument ∧
        argument.isIdentifier = true := by
  simp [returnedIdentifier?, identifier?, Option.bind_eq_some_iff, Option.filter_eq_some_iff,
    and_assoc]

/-- A getter is a getter under edits, if its name is somebody else's before and after or neither. -/
theorem returnedIdentifier?_apply {r now : Registry} {e : Edits} {n : Node}
    (hname : ∀ name, n.child? .id = some name →
      isNamedByOther now ((e.apply name).head.name.getD "") =
        isNamedByOther r (name.head.name.getD "")) :
    returnedIdentifier? now (e.apply n) = (returnedIdentifier? r n).map e.apply := by
  ext argument
  simp only [Option.map_eq_some_iff, returnedIdentifier?_eq_some_iff,
    Edits.hasKind_apply, Edits.child?_apply e n (by decide : Field.id ≠ .key),
    Edits.soleReturn?_apply]
  constructor
  · rintro ⟨hkind, _, ⟨name, hid, rfl⟩, hidentifier, hother, ⟨returned, hreturned, rfl⟩, hargument⟩
    rw [Edits.isIdentifier_apply] at hidentifier hargument
    rw [hname name hid] at hother
    exact ⟨returned, ⟨hkind, name, hid, hidentifier, hother, hreturned, hargument⟩, rfl⟩
  · rintro ⟨returned, ⟨hkind, name, hid, hidentifier, hother, hreturned, hargument⟩, rfl⟩
    refine ⟨hkind, _, ⟨name, hid, rfl⟩, by rwa [Edits.isIdentifier_apply], ?_,
      ⟨returned, hreturned, rfl⟩, by rwa [Edits.isIdentifier_apply]⟩
    rwa [hname name hid]

theorem isNamedByOther_of_admits {r : Registry} {field : String} (h : r.Admits field) :
    isNamedByOther r (r.getterName field) = false := by
  unfold isNamedByOther
  cases howner : r.ownerOf? (r.getterName field) with
  | none => rfl
  | some owner =>
    rw [h.owner owner howner, Option.any_some, Registry.startsWith_owner_getter]
    rfl

end Recognition

/-- A request for the name that the path from its binding leads to before anything is renamed, where
all names on the path can be issued. -/
def Request.Foreseen (s : Store) (r : Registry) (request : Request) : Prop :=
  ∃ k text, Leads ⟨s, {}⟩ r request.binding k text ∧ (∀ j < k, r.Admits (r.chainName j text)) ∧
    request.name = r.chainName k text

/-- A request for a getter's name, or for the name that the binding has. -/
theorem Request.Foreseen.cases {s : Store} {r : Registry} {request : Request}
    (h : request.Foreseen s r) :
    (∃ b, s.bindings[request.binding]? = some b ∧ request.name = b.name) ∨
      ∃ k text, Leads ⟨s, {}⟩ r request.binding (k + 1) text ∧ r.Admits (r.chainName k text) ∧
        request.name = r.chainName (k + 1) text := by
  obtain ⟨k, text, hleads, hadmits, hname⟩ := h
  cases hleads with
  | other hb hnone => exact .inl ⟨_, hb, by rw [hname, Registry.chainName_zero]⟩
  | free hreturned hfree hspelled =>
    exact .inr ⟨0, text, .free hreturned hfree hspelled, hadmits 0 (by omega), hname⟩
  | @step _ _ _ k _ hreturned hbound hrest =>
    exact .inr ⟨k, text, .step hreturned hbound hrest, hadmits k (by omega), hname⟩

namespace Store

variable {tree : Node} {s : Store} (hs : analyze tree = .ok s) (hformed : tree.WellFormed)
  (hunshared : tree.Unshared) {r : Registry} {id : BindingId} {b : Binding} {argument : Node}

include hs hformed hunshared

/-- A binding that leads on is declared first by a function declaration that is a getter. -/
theorem exists_getter_of_returned? (hreturned : returned? ⟨s, {}⟩ r id = some argument) :
    ∃ b site, s.bindings[id]? = some b ∧ b.declarations.head? = some site ∧
      site.parent ∈ tree.nodes ∧ site.parent.child? .id = some site.identifier ∧
      returnedIdentifier? r site.parent = some argument := by
  obtain ⟨b, hb, hby⟩ := Option.bind_eq_some_iff.mp hreturned
  obtain ⟨hkind, site, hsite, hgetter⟩ : b.kind = .function ∧ ∃ site,
      b.declarations.head? = some site ∧ returnedIdentifier? r site.parent = some argument := by
    simpa [returnedBy?, Option.bind_eq_some_iff] using hby
  have hparent := (returnedIdentifier?_eq_some_iff.mp hgetter).1
  obtain ⟨hmem, hname⟩ := child?_id_of_function hs hformed hunshared hb hkind hsite hparent
  exact ⟨b, site, hb, hsite, hmem, hname, hgetter⟩

/-- A getter that is the first declaration of a binding is the one by which the binding leads on. -/
theorem returned?_of_getter {site : Site} {n : Node} (hb : s.bindings[id]? = some b)
    (hsite : b.declarations.head? = some site) (hn : n ∈ tree.nodes)
    (hname : n.child? .id = some site.identifier)
    (hgetter : returnedIdentifier? r n = some argument) :
    returned? ⟨s, {}⟩ r id = some argument := by
  have hkind := (returnedIdentifier?_eq_some_iff.mp hgetter).1
  obtain ⟨hfunction, rfl⟩ :=
    function_of_child?_id hs hformed hunshared hb hsite hn hkind hname
  simp [returned?, returnedBy?, hb, hfunction, hsite, hgetter, guard]

theorem mem_nodes_of_returned? (hreturned : returned? ⟨s, {}⟩ r id = some argument) :
    argument ∈ tree.nodes ∧ argument.isIdentifier = true := by
  obtain ⟨-, site, -, -, hmem, -, hgetter⟩ :=
    exists_getter_of_returned? hs hformed hunshared hreturned
  obtain ⟨-, -, -, -, -, hargument, hidentifier⟩ := returnedIdentifier?_eq_some_iff.mp hgetter
  have hshows := (Edits.shows_empty_iff.mpr hmem).soleReturn? hargument
  exact ⟨Edits.shows_empty_iff.mp hshows, hidentifier⟩

/-- In a well-formed program every path ends or runs in a circle. -/
theorem leads_or_circles (hb : ∃ b, s.bindings[id]? = some b) :
    (∃ k text, Leads ⟨s, {}⟩ r id k text) ∨ Circles ⟨s, {}⟩ r id := by
  have hhoused := housed_of_analyze hs
  rcases leads_or_circles_or_strands (c := ⟨s, {}⟩) (r := r)
    (fun _ _ hn ↦ hhoused.exists_of_bindingOf? hn) hb with hleads | hcircles | hstrands
  · exact .inl hleads
  · exact .inr hcircles
  · obtain ⟨k, x, argument, -, hreturned, -, hname⟩ := hstrands
    obtain ⟨hmem, hidentifier⟩ := mem_nodes_of_returned? hs hformed hunshared hreturned
    obtain ⟨name, hnamed⟩ := Node.exists_name_of_isShaped (hformed.shaped _ hmem) hidentifier
    rw [hname] at hnamed
    exact absurd hnamed (by simp)

end Store

/-! ## What can be foreseen -/

/-- A program was analysed, and since then only what was foreseen has been renamed, and only names
of getters have been issued. -/
structure Forecast (tree : Node) (s : Store) (r : Registry) (c : Context) (now : Registry) :
    Prop where
  analyze : Store.analyze tree = .ok s
  wellFormed : tree.WellFormed
  unshared : tree.Unshared
  grown : r.Grown now
  granted : ∃ requests, s.Grants requests c.store c.edits ∧
    ∀ request ∈ requests, request.Foreseen s r

namespace Forecast

variable {tree n name argument : Node} {s : Store} {r now : Registry} {c : Context}
  {id : BindingId} {b : Binding} {k : Nat} {text : String}

theorem later (h : Forecast tree s r c now) {next : Registry} (hgrown : now.Grown next) :
    Forecast tree s r c next :=
  { h with grown := h.grown.trans hgrown }

theorem covers (h : Forecast tree s r c now) : s.Covers tree :=
  Store.covers_of_analyze h.analyze h.wellFormed h.unshared

theorem bindingOf?_eq (h : Forecast tree s r c now) (n : Node) :
    c.store.bindingOf? n = s.bindingOf? n := by
  obtain ⟨requests, hgrants, -⟩ := h.granted
  rw [Store.bindingOf?, hgrants.owners_eq, Store.bindingOf?]

theorem bindingOf?_apply (h : Forecast tree s r c now) (n : Node) :
    c.store.bindingOf? (c.edits.apply n) = s.bindingOf? n := by
  rw [← h.bindingOf?_eq, Store.bindingOf?, Edits.isIdentifier_apply, Edits.id_apply,
    Store.bindingOf?]

/-- A binding keeps all but its name, and its name as well unless it is a getter. -/
theorem exists_binding (h : Forecast tree s r c now) (hb : s.bindings[id]? = some b) :
    ∃ live, c.store.bindings[id]? = some live ∧ live.kind = b.kind ∧
      live.declarations = b.declarations ∧
      (live.name = b.name ∨ ∃ k text, Leads ⟨s, {}⟩ r id (k + 1) text ∧
        r.Admits (r.chainName k text) ∧ live.name = r.chainName (k + 1) text) := by
  obtain ⟨requests, hgrants, hforeseen⟩ := h.granted
  refine ⟨Store.granted requests id b, by rw [hgrants.bindings, hb, Option.map_some], ?_⟩
  unfold Store.granted
  cases hlast : lastName? requests id with
  | none => exact ⟨rfl, rfl, .inl rfl⟩
  | some name =>
    refine ⟨rfl, rfl, ?_⟩
    rcases (hforeseen _ (mem_of_lastName? hlast)).cases with ⟨old, hold, hname⟩ | hgetter
    · obtain rfl : b = old := Option.some.inj (hb.symm.trans hold)
      exact .inl hname
    · exact .inr hgetter

/-- An identifier keeps its spelling unless it belongs to a getter. -/
theorem name_apply_cases (h : Forecast tree s r c now) (hn : n ∈ tree.nodes) :
    (c.edits.apply n).head.name = n.head.name ∨
      ∃ id k text, s.bindingOf? n = some id ∧ Leads ⟨s, {}⟩ r id (k + 1) text ∧
        r.Admits (r.chainName k text) ∧
        (c.edits.apply n).head.name = some (r.chainName (k + 1) text) := by
  obtain ⟨requests, hgrants, hforeseen⟩ := h.granted
  have hspelled : (c.edits.apply n).head.name = (s.newName? requests n).or n.head.name := by
    rw [Edits.head_apply]
    exact hgrants.spelling?_eq h.covers h.unshared hn
  rw [hspelled, Store.newName?]
  cases hid : s.bindingOf? n with
  | none => exact .inl rfl
  | some id =>
    rw [Option.bind_some]
    cases hlast : lastName? requests id with
    | none => exact .inl rfl
    | some name =>
      rcases (hforeseen _ (mem_of_lastName? hlast)).cases with ⟨b, hb, hname⟩ | hgetter
      · obtain ⟨b', hb', hnamed⟩ := h.covers.exists_name h.unshared hn hid
        obtain rfl : b = b' := Option.some.inj (hb.symm.trans hb')
        rw [hnamed]
        exact .inl (congrArg some hname)
      · obtain ⟨k, text, hleads, hadmits, hname⟩ := hgetter
        exact .inr ⟨id, k, text, rfl, hleads, hadmits, congrArg some hname⟩

/-- Names of getters are nobody else's, neither those that they had nor those that they get. -/
theorem isNamedByOther_apply (h : Forecast tree s r c now) (hn : n ∈ tree.nodes) :
    isNamedByOther now ((c.edits.apply n).head.name.getD "") =
      isNamedByOther r (n.head.name.getD "") := by
  rw [h.grown.isNamedByOther_eq]
  rcases h.name_apply_cases hn with hsame | ⟨id, k, text, hid, hleads, hadmits, hname⟩
  · rw [hsame]
  · rw [hname, Option.getD_some, Registry.chainName_succ, isNamedByOther_of_admits hadmits]
    obtain ⟨argument, hreturned⟩ := hleads.exists_returned?
    obtain ⟨b, first, hb, hfirst, -, hfirstName, hgetter⟩ :=
      Store.exists_getter_of_returned? h.analyze h.wellFormed h.unshared hreturned
    obtain ⟨-, name, hname, -, hother, -⟩ := returnedIdentifier?_eq_some_iff.mp hgetter
    obtain rfl := Option.some.inj (hfirstName.symm.trans hname)
    obtain ⟨b', hb', hnamed⟩ := h.covers.exists_name h.unshared hn hid
    obtain rfl : b = b' := Option.some.inj (hb.symm.trans hb')
    rw [(h.covers.named id b hb).2 first (List.mem_append_left _ (List.mem_of_head? hfirst))]
      at hother
    rw [hnamed, hother]

theorem returnedIdentifier?_apply (h : Forecast tree s r c now) (hn : n ∈ tree.nodes) :
    returnedIdentifier? now (c.edits.apply n) = (returnedIdentifier? r n).map c.edits.apply :=
  Recognition.returnedIdentifier?_apply fun _ hname ↦
    h.isNamedByOther_apply (Node.mem_nodes_of_mem_branches hn (Node.mem_branches_of_child? hname))

/-- A binding leads on as it did before. -/
theorem returned?_eq (h : Forecast tree s r c now) (id : BindingId) :
    returned? c now id = (returned? ⟨s, {}⟩ r id).map c.edits.apply := by
  unfold returned?
  cases hb : s.bindings[id]? with
  | none =>
    obtain ⟨requests, hgrants, -⟩ := h.granted
    rw [hgrants.bindings, hb]
    rfl
  | some b =>
    obtain ⟨live, hlive, hkind, hdeclarations, -⟩ := h.exists_binding hb
    rw [hlive, Option.bind_some, Option.bind_some]
    unfold returnedBy?
    rw [hkind, hdeclarations]
    by_cases hfunction : b.kind = .function
    · simp only [hfunction, guard, if_true]
      cases hsite : b.declarations.head? with
      | none => rfl
      | some site =>
        have hmem := Store.parent_mem_nodes h.analyze h.wellFormed h.unshared hb hsite
        simp only [Option.bind_eq_bind, Option.bind_some, Option.pure_def, Edits.apply_empty]
        exact h.returnedIdentifier?_apply hmem
    · simp [hfunction, guard]

theorem next?_eq (h : Forecast tree s r c now) (id : BindingId) :
    next? c now id = next? ⟨s, {}⟩ r id := by
  rw [next?, h.returned?_eq, Option.bind_map, next?]
  exact congrArg _ (funext h.bindingOf?_apply)

theorem follow_eq (h : Forecast tree s r c now) (k : Nat) (id : BindingId) :
    follow c now k id = follow ⟨s, {}⟩ r k id := by
  induction k generalizing id with
  | zero => rfl
  | succ k ih => rw [follow, follow, h.next?_eq, funext ih]

theorem circles (h : Forecast tree s r c now) (hcircles : Circles ⟨s, {}⟩ r id) :
    Circles c now id := by
  obtain ⟨i, j, x, hij, hi, hj⟩ := hcircles
  exact ⟨i, j, x, hij, (h.follow_eq i id).trans hi, (h.follow_eq j id).trans hj⟩

/-- A path ends where it ended before, and the name there is the same. -/
theorem leads (h : Forecast tree s r c now) (hleads : Leads ⟨s, {}⟩ r id k text) :
    Leads c now id k text := by
  have hled {id : BindingId} {argument : Node}
      (hreturned : returned? ⟨s, {}⟩ r id = some argument) :
      returned? c now id = some (c.edits.apply argument) := by
    rw [h.returned?_eq, hreturned, Option.map_some]
  induction hleads with
  | @other id b hb hnone =>
    obtain ⟨live, hlive, -, -, hname | ⟨k, text, hgetter, -⟩⟩ := h.exists_binding hb
    · have hreturned := h.returned?_eq id
      rw [returned?, returned?, hlive, hb, Option.bind_some, Option.bind_some, hnone] at hreturned
      exact hname ▸ .other hlive hreturned
    · obtain ⟨hzero, -⟩ := (Leads.other hb hnone).unique hgetter
      exact absurd hzero (by omega)
  | @free id argument text hreturned hfree hname =>
    have hmem := (Store.mem_nodes_of_returned? h.analyze h.wellFormed h.unshared hreturned).1
    refine .free (hled hreturned) ((h.bindingOf?_apply argument).trans hfree) ?_
    rcases h.name_apply_cases hmem with hsame | ⟨id, -, -, hid, -⟩
    · exact hsame.trans hname
    · exact absurd (hfree.symm.trans hid) (by simp)
  | step hreturned hbound _ ih =>
    exact .step (hled hreturned) ((h.bindingOf?_apply _).trans hbound) ih

/-- A node asks for the name that was foreseen, or for nothing if it is no getter or its path runs
in a circle. -/
theorem simpleGetter_cases (h : Forecast tree s r c now) (hn : n ∈ tree.nodes) :
    ((∀ id, (n.child? .id).bind s.bindingOf? = some id →
        (returnedIdentifier? r n).isSome = true → Circles ⟨s, {}⟩ r id) ∧
      (simpleGetter c (c.edits.apply n)).run now = (.ok none, now)) ∨
    ∃ id k text, (n.child? .id).bind s.bindingOf? = some id ∧
      (returnedIdentifier? r n).isSome = true ∧ Leads ⟨s, {}⟩ r id k text ∧
      ((∀ j < k, r.Admits (r.chainName j text)) ∧
          (∃ next, (simpleGetter c (c.edits.apply n)).run now =
            (.ok (some [⟨id, r.chainName k text⟩]), next) ∧ now.Grown next) ∨
        (¬ ∀ j < k, r.Admits (r.chainName j text)) ∧
          ∃ fault next, (simpleGetter c (c.edits.apply n)).run now = (.error fault, next) ∧
            now.Grown next) := by
  have hbinding : ((c.edits.apply n).child? .id).bind c.store.bindingOf? =
      (n.child? .id).bind s.bindingOf? := by
    rw [Edits.child?_apply _ _ (by decide), Option.bind_map]
    exact congrArg _ (funext h.bindingOf?_apply)
  have hgetter : (returnedIdentifier? now (c.edits.apply n)).isSome =
      (returnedIdentifier? r n).isSome := by
    rw [h.returnedIdentifier?_apply hn, Option.isSome_map]
  rcases hid : (n.child? .id).bind s.bindingOf? with _ | id
  · refine .inl ⟨by simp, ?_⟩
    rw [run_simpleGetter, hbinding, hid]
  by_cases hshape : (returnedIdentifier? r n).isSome = true
  · have hbound : ∀ n id, c.store.bindingOf? n = some id →
        ∃ b, c.store.bindings[id]? = some b := by
      intro n id hn
      obtain ⟨b, hb⟩ := (Store.housed_of_analyze h.analyze).exists_of_bindingOf?
        ((h.bindingOf?_eq n).symm.trans hn)
      obtain ⟨live, hlive, -⟩ := h.exists_binding hb
      exact ⟨live, hlive⟩
    have hlive := hbinding.trans hid
    have hliveShape := hgetter.trans hshape
    obtain ⟨name, -, hname⟩ := Option.bind_eq_some_iff.mp hid
    rcases Store.leads_or_circles h.analyze h.wellFormed h.unshared (r := r)
      ((Store.housed_of_analyze h.analyze).exists_of_bindingOf? hname) with
      ⟨k, text, hleads⟩ | hcircles
    · refine .inr ⟨id, k, text, rfl, hshape, hleads, ?_⟩
      simp only [← h.grown.chainName_eq, ← h.grown.admits_iff]
      by_cases hadmits : ∀ j < k, now.Admits (now.chainName j text)
      · obtain ⟨next, hrun, hgrown⟩ :=
          run_simpleGetter_of_admits hbound hlive hliveShape (h.leads hleads) hadmits
        exact .inl ⟨hadmits, next, hrun, hgrown⟩
      · obtain ⟨fault, next, hrun, hgrown⟩ :=
          run_simpleGetter_of_not_admits hbound hlive hliveShape (h.leads hleads) hadmits
        exact .inr ⟨hadmits, .registry fault, next, hrun, hgrown⟩
    · refine .inl ⟨?_, run_simpleGetter_of_endless hlive hliveShape (.inl (h.circles hcircles))⟩
      rintro _ hsame -
      exact Option.some.inj hsame ▸ hcircles
  · refine .inl ⟨fun _ _ hsome ↦ absurd hsome hshape, ?_⟩
    rw [run_simpleGetter, hbinding, hid]
    exact if_neg (hgetter ▸ hshape)

end Forecast

end Relabel
