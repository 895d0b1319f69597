import Mathlib.Data.List.Nodup
import Mathlib.Data.Option.Basic
import Relabel.Labeling.Run
import Relabel.Proofs.Scope.Collection
import Relabel.Proofs.Scope.Isomorphism

/-!
# What recognisers can see

A recogniser sees the edited program, and of the store only who owns an identifier, what is free,
and of a binding its name, its kind and the node of its first declaration. The store that was kept
up to date during the edits and the analysis of the edited program look the same in this way, so
every idiom gives one answer about both.
-/

namespace Relabel

/-- What recognisers see of a binding in a program with edits. -/
def Binding.seen (e : Edits) (b : Binding) : String × BindingKind × Option Node :=
  (b.name, b.kind, b.declarations.head?.map fun site ↦ e.apply site.parent)

namespace Recognition

/-- Two contexts that recognisers cannot tell apart. -/
structure Context.Alike (c c' : Context) : Prop where
  owners : c'.store.owners = c.store.owners
  free : c'.store.free = c.store.free
  bindings : ∀ id : BindingId, c'.store.bindings[id]?.map (Binding.seen c'.edits) =
    c.store.bindings[id]?.map (Binding.seen c.edits)

namespace Context.Alike

variable {c c' : Context}

theorem bindingOf?_eq (h : c.Alike c') : c'.store.bindingOf? = c.store.bindingOf? := by
  funext n
  rw [Store.bindingOf?, Store.bindingOf?, h.owners]

theorem isFree_eq (h : c.Alike c') : c'.store.isFree = c.store.isFree := by
  funext n
  rw [Store.isFree, Store.isFree, h.free]

theorem size_eq (h : c.Alike c') : c'.store.bindings.size = c.store.bindings.size :=
  Store.size_eq_of_getElem?_map h.bindings

theorem names_eq (h : c.Alike c') (id : BindingId) :
    c'.store.bindings[id]?.map (·.name) = c.store.bindings[id]?.map (·.name) := by
  have hnames := congrArg (Option.map Prod.fst) (h.bindings id)
  rwa [Option.map_map, Option.map_map] at hnames

theorem callsGlobalAtob_eq (h : c.Alike c') : callsGlobalAtob c' = callsGlobalAtob c := by
  funext n
  rw [callsGlobalAtob, callsGlobalAtob, h.isFree_eq]

theorem readsFirstCode_eq (h : c.Alike c') : readsFirstCode c' = readsFirstCode c := by
  funext decoded n
  simp only [readsFirstCode, h.bindingOf?_eq]

theorem returnedBy?_eq (r : Registry) {b b' : Binding}
    (hseen : b'.seen c'.edits = b.seen c.edits) : returnedBy? c' r b' = returnedBy? c r b := by
  have hmatch (c : Context) (b : Binding) : returnedBy? c r b =
      if (b.seen c.edits).2.1 = .function then
        (b.seen c.edits).2.2.bind (returnedIdentifier? r) else none := by
    have hkinds : (b.seen c.edits).2.1 = .function ↔ b.kind = .function := Iff.rfl
    by_cases hkind : b.kind = .function
    · rw [returnedBy?, guard, if_pos hkind, if_pos (hkinds.mpr hkind), Binding.seen]
      cases b.declarations.head? <;> rfl
    · rw [returnedBy?, guard, if_neg hkind, if_neg (hkinds.not.mpr hkind)]
      rfl
  rw [hmatch, hmatch, hseen]

theorem finalName_eq (h : c.Alike c') (unvisited : List BindingId) (id : BindingId) :
    finalName c' unvisited id = finalName c unvisited id := by
  have hseen := h.bindings id
  rw [finalName, finalName]
  cases hb : c.store.bindings[id]? with
  | none =>
    rw [hb, Option.map_none, Option.map_eq_none_iff] at hseen
    rw [hseen]
  | some b =>
    rw [hb, Option.map_some] at hseen
    obtain ⟨b', hb', hsame⟩ := Option.map_eq_some_iff.mp hseen
    have hname : b'.name = b.name := congrArg (·.1) hsame
    have hnext (hfresh : id ∈ unvisited) (returned : BindingId) :
        finalName c' (unvisited.erase id) returned = finalName c (unvisited.erase id) returned :=
      finalName_eq h (unvisited.erase id) returned
    simp only [hb', returnedBy?_eq _ hsame, hname, h.bindingOf?_eq]
    by_cases hfresh : id ∈ unvisited
    · simp only [hnext hfresh]
    · simp only [dif_neg hfresh]
termination_by unvisited.length
decreasing_by
  have hshorter := List.length_erase_of_mem hfresh
  have hpositive := List.length_pos_of_mem hfresh
  omega

/-- Every idiom gives one answer about two contexts that look alike. -/
theorem recognise_eq (h : c.Alike c') (idiom : Idiom) :
    idiom.recognise c' = idiom.recognise c := by
  funext n
  cases idiom <;>
    simp only [Idiom.recognise, polyfillAccessor, guardedInvoker, wrapper, stringGuard,
      catchParameter, chartDecode, standardDecode, performanceNow, simpleGetter, handlerParameters,
      handlerMap, askFor, h.callsGlobalAtob_eq, h.readsFirstCode_eq, h.bindingOf?_eq, h.isFree_eq,
      h.size_eq, h.finalName_eq]

end Context.Alike

end Recognition

/-- What a sketch says about a declaration. -/
def Sketch.declaration? : Sketch → Option (NodeId × Node)
  | declared _ _ identifier _ _ parent => some (identifier, parent)
  | _ => none

namespace Fact

theorem declarations_eq (e : Edits) (facts : List Fact) :
    (declaredSites facts).map (fun site ↦ (site.id, e.apply site.parent)) =
      (sketches e facts).filterMap Sketch.declaration? := by
  induction facts with
  | nil => rfl
  | cons fact rest ih =>
    cases fact with
    | opened => exact ih
    | placed => exact ih
    | declared => exact congrArg (_ :: ·) ih
    | referred => exact ih

theorem mem_declaredSites {facts : List Fact} (hfit : Fit {} facts) {id : BindingId} {b : Binding}
    (hb : (Store.ofFacts facts).bindings[id]? = some b) {site : Site}
    (hsite : site ∈ b.declarations) : site ∈ declaredSites facts := by
  rw [(Store.collects_ofFacts hfit).declarations id b hb] at hsite
  obtain ⟨d, hd, rfl⟩ := List.mem_map.mp hsite
  rw [declaredSites_eq]
  exact List.mem_map_of_mem (List.mem_of_mem_filter hd)

end Fact

/-- The declarations of a binding stand under nodes of the program. -/
theorem Store.declaredUnder {tree : Node} {s : Store} (h : analyze tree = .ok s) {id : BindingId}
    {b : Binding} (hb : s.bindings[id]? = some b) {site : Site} (hsite : site ∈ b.declarations) :
    site.parent ∈ tree.nodes := by
  obtain ⟨-, facts, hfacts, rfl⟩ := analyze_eq_ok_iff.mp h
  have hdeclared := Fact.mem_declaredSites (Program.fit_facts hfacts).1 hb hsite
  obtain ⟨fact, hfact, hsame⟩ := List.mem_filterMap.mp hdeclared
  cases fact with
  | declared target kind other =>
    obtain rfl := Option.some.inj hsame
    exact Program.declaredUnder hfacts hfact
  | _ => simp at hsame

namespace Reanalysed

open Store

variable {facts facts' : List Fact} {e : Edits} {live : Store}

/-- A declaration stands in the edited program under the node under which it stood before. -/
theorem parent_eq (h : Reanalysed facts facts' e live)
    (hnodup : ((facts.flatMap Fact.sites).map Site.id).Nodup) {site site' : Site}
    (hsite : site ∈ Fact.declaredSites facts) (hsite' : site' ∈ Fact.declaredSites facts')
    (hid : site'.id = site.id) : site'.parent = e.apply site.parent := by
  have hdeclared : (Fact.declaredSites facts').map (fun site ↦ (site.id, site.parent)) =
      (Fact.declaredSites facts).map fun site ↦ (site.id, e.apply site.parent) := by
    have hempty := Fact.declarations_eq {} facts'
    simp only [Edits.apply_empty] at hempty
    rw [hempty, h.sketches, Fact.declarations_eq]
  have hmem := List.mem_map_of_mem (f := fun site : Site ↦ (site.id, site.parent)) hsite'
  rw [hdeclared] at hmem
  obtain ⟨other, hother, heq⟩ := List.mem_map.mp hmem
  obtain ⟨hotherId, hparent⟩ := Prod.mk.inj heq
  rw [((Fact.sites_perm facts).map Site.id).nodup_iff, List.map_append] at hnodup
  have hsame : other = site :=
    List.inj_on_of_nodup_map (List.nodup_append.mp hnodup).1 hother hsite (hotherId.trans hid)
  rw [← hparent, hsame]

/-- A binding of the kept store and its counterpart in the new analysis have one first
declaration. -/
theorem head?_eq (h : Reanalysed facts facts' e live)
    (hnodup : ((facts.flatMap Fact.sites).map Site.id).Nodup) {id : BindingId} {b b' : Binding}
    (hb : live.bindings[id]? = some b) (hb' : (ofFacts facts').bindings[id]? = some b')
    (hdeclarations : b'.declarations.map Site.outline = b.declarations.map Site.outline) :
    (b'.declarations.head?.map fun site ↦ site.parent) =
      b.declarations.head?.map fun site ↦ e.apply site.parent := by
  have hkept := h.kept.bindings id
  rw [hb, Option.map_some] at hkept
  obtain ⟨old, hold, hsame⟩ := Option.map_eq_some_iff.mp hkept.symm
  have holdDeclarations : old.declarations = b.declarations := congrArg (·.2.2.1) hsame
  have hheads := congrArg List.head? hdeclarations
  rw [List.head?_map, List.head?_map] at hheads
  cases hsite : b.declarations.head? with
  | none =>
    rw [hsite, Option.map_none, Option.map_eq_none_iff] at hheads
    rw [hheads]
    rfl
  | some site =>
    rw [hsite, Option.map_some] at hheads
    obtain ⟨site', hsite', houtline⟩ := Option.map_eq_some_iff.mp hheads
    have hmem : site ∈ Fact.declaredSites facts :=
      Fact.mem_declaredSites h.fit hold (holdDeclarations ▸ List.mem_of_head? hsite)
    have hmem' := Fact.mem_declaredSites h.fit' hb' (List.mem_of_head? hsite')
    rw [hsite', Option.map_some, Option.map_some,
      h.parent_eq hnodup hmem hmem' (congrArg Prod.fst houtline)]

/-- The store that was kept up to date and the analysis of the edited program look alike. -/
theorem alike (h : Reanalysed facts facts' e live)
    (hnodup : ((facts.flatMap Fact.sites).map Site.id).Nodup) :
    Recognition.Context.Alike ⟨live, e⟩ ⟨ofFacts facts', {}⟩ where
  owners := h.agrees.isomorphic.owners
  free := h.agrees.isomorphic.free
  bindings id := by
    have hnames := h.agrees.names id
    have houtlines := h.agrees.isomorphic.bindings id
    cases hb : live.bindings[id]? with
    | none =>
      rw [hb, Option.map_none, Option.map_eq_none_iff] at hnames
      rw [hnames]
      rfl
    | some b =>
      rw [hb, Option.map_some] at hnames houtlines
      obtain ⟨b', hb', hname⟩ := Option.map_eq_some_iff.mp hnames
      rw [hb', Option.map_some, Option.some.injEq] at houtlines
      simp only [Binding.outline, Prod.mk.injEq] at houtlines
      obtain ⟨hkind, -, hdeclarations, -⟩ := houtlines
      simp only [hb', Option.map_some, Binding.seen, hname, hkind, Edits.apply_empty,
        h.head?_eq hnodup hb hb' hdeclarations]

end Reanalysed

end Relabel
