import Relabel.Proofs.Idiom.Echo
import Relabel.Proofs.Labeling.Forecast
import Relabel.Proofs.Labeling.Getter

/-!
# Getters are settled by one run

A run that only names getters asks each of them for the name that was foreseen before the run. If it
comes to its end without a collision, every getter whose path ends is named after the name that the
identifier it returns has then, wherever the returned function stands; the others keep their names.
A second run finds all names in place.
-/

namespace Relabel

open Recognition

namespace Labeling

variable {tree n : Node} {s : Store} {r : Registry} {l next : Labeling}

theorem visit_simpleGetter (l : Labeling) (n : Node) :
    l.visit n [.simpleGetter] =
      match (simpleGetter l.context (l.context.edits.apply n)).run l.registry with
      | (.error fault, registry) => ({ l with registry }, some fault)
      | (.ok none, registry) => ({ l with registry }, none)
      | (.ok (some requests), registry) =>
        ({ l with
          registry
          engine := (l.engine.apply Idiom.simpleGetter.label requests).1
          found := l.found ++ [⟨.simpleGetter, n, requests⟩] }, none) :=
  visit_singleton l n .simpleGetter

/-- A run that has asked for nothing but what was foreseen. -/
structure Foresees (tree : Node) (s : Store) (r : Registry) (l : Labeling) : Prop where
  forecast : Forecast tree s r l.context l.registry
  asked : ∀ request ∈ l.requests, request.Foreseen s r

/-- If a node is a getter whose path ends, all names on the path can be issued, and the run has
asked for the last of them. -/
def Attended (s : Store) (r : Registry) (n : Node) (l : Labeling) : Prop :=
  ∀ id k text, (n.child? .id).bind s.bindingOf? = some id →
    (returnedIdentifier? r n).isSome = true → Leads ⟨s, {}⟩ r id k text →
      (∀ j < k, r.Admits (r.chainName j text)) ∧ Request.mk id (r.chainName k text) ∈ l.requests

namespace Foresees

theorem visit (h : l.Foresees tree s r) (hn : n ∈ tree.nodes) :
    (l.visit n [.simpleGetter]).1.Foresees tree s r := by
  rw [visit_simpleGetter]
  rcases h.forecast.simpleGetter_cases hn with ⟨-, hrun⟩ |
    ⟨id, k, text, -, -, hleads, ⟨hadmits, next, hrun, hgrown⟩ | ⟨-, fault, next, hrun, hgrown⟩⟩
  · rw [hrun]
    exact h
  · rw [hrun]
    have hforeseen : Request.Foreseen s r ⟨id, r.chainName k text⟩ :=
      ⟨k, text, hleads, hadmits, rfl⟩
    obtain ⟨granted, hgrants, hgranted⟩ := h.forecast.granted
    obtain ⟨more, hmore, hsource⟩ :=
      Store.Grants.engine_rename hgrants Idiom.simpleGetter.label ⟨id, r.chainName k text⟩
    refine ⟨{ h.forecast.later hgrown with granted := ⟨more, hmore, fun request hrequest ↦ ?_⟩ },
      fun request hrequest ↦ ?_⟩
    · rcases hsource request hrequest with hold | rfl
      · exact hgranted request hold
      · exact hforeseen
    · simp only [requests, List.flatMap_append, List.mem_append, List.flatMap_singleton,
        List.mem_singleton] at hrequest
      rcases hrequest with hold | rfl
      · exact h.asked request hold
      · exact hforeseen
  · rw [hrun]
    exact ⟨h.forecast.later hgrown, h.asked⟩

theorem attended (h : l.Foresees tree s r) (hn : n ∈ tree.nodes)
    (hvisit : l.visit n [.simpleGetter] = (next, none)) : Attended s r n next := by
  intro id k text hid hgetter hleads
  rw [visit_simpleGetter] at hvisit
  rcases h.forecast.simpleGetter_cases hn with ⟨hnone, -⟩ |
    ⟨id', k', text', hid', -, hleads', ⟨hadmits, next', hrun, -⟩ | ⟨-, fault, next', hrun, -⟩⟩
  · exact absurd (hnone id hid hgetter) hleads.not_circles
  · obtain rfl := Option.some.inj (hid.symm.trans hid')
    obtain ⟨rfl, rfl⟩ := hleads.unique hleads'
    rw [hrun] at hvisit
    obtain ⟨rfl, -⟩ := Prod.mk.inj hvisit
    exact ⟨hadmits, by simp [requests]⟩
  · rw [hrun] at hvisit
    simp at hvisit

end Foresees

/-- What a getter asked for stays asked for. -/
theorem Attended.sweep {table : Table Kind (List Idiom)} (h : Attended s r n l)
    (stack : List (Node × Option Node)) : Attended s r n (l.sweep table stack).1 := by
  have hcarried (request : Request) : Carried fun _ requests ↦ request ∈ requests :=
    { request := fun _ _ _ _ h ↦ List.mem_append_left _ h
      note := fun _ _ _ _ h ↦ h }
  intro id k text hid hgetter hleads
  obtain ⟨hadmits, hasked⟩ := h id k text hid hgetter hleads
  exact ⟨hadmits, (hcarried _).sweep table hasked stack⟩

/-- The getters' pass asks one idiom about function declarations. -/
theorem table_getters : Pass.getters.table = ⟨[(.functionDeclaration, [.simpleGetter])]⟩ := by
  cbv

theorem asked_functionDeclaration (hkind : n.kind = some .functionDeclaration) :
    (n.kind.bind Pass.getters.table.get?).getD [] = [.simpleGetter] := by
  rw [hkind, table_getters]
  rfl

theorem eq_simpleGetter_of_asked {idiom : Idiom}
    (h : idiom ∈ (n.kind.bind Pass.getters.table.get?).getD []) : idiom = .simpleGetter :=
  List.mem_singleton.mp (Pass.asked h).2

theorem foresees_walks :
    Invariant (Foresees tree s r) (fun _ _ ↦ True) (Visitable tree) Pass.getters.table where
  step l n idiom h hn hidiom := by
    rcases hn with hn | ⟨hidentifier, -⟩
    · obtain rfl := eq_simpleGetter_of_asked hidiom
      exact ⟨h.visit hn, fun _ _ ↦ trivial⟩
    · rw [Pass.getters.asked_nothing hidentifier] at hidiom
      exact absurd hidiom List.not_mem_nil
  descents l _ hn _ hentry := visitable_of_mem_descents l hn hentry
  untyped _ _ _ _ _ _ := trivial

/-- A run of one pass is a walk over the program. -/
theorem exists_sweep_of_runPasses {pass : Pass} (h : l.runPasses tree [pass] = (next, none)) :
    ∃ walked, (l.note (.passStarted pass.name)).sweep pass.table [(tree, none)] = (walked, none) ∧
      next.context = walked.context ∧ next.registry = walked.registry ∧
      next.requests = walked.requests := by
  unfold runPasses runPass at h
  rcases hsweep : (l.note (.passStarted pass.name)).sweep pass.table [(tree, none)] with
    ⟨walked, fault | _⟩
  · simp only [hsweep, runPasses] at h
    obtain ⟨rfl, -⟩ := Prod.mk.inj h
    exact ⟨walked, rfl, rfl, rfl, rfl⟩
  · simp [hsweep] at h

section Run

variable (hs : Store.analyze tree = .ok s) (hformed : tree.WellFormed) (hunshared : tree.Unshared)
  (hrun : (start s {} r).runPasses tree [Pass.getters] = (l, none))

include hs hformed hunshared hrun

/-- A run of the getters' pass asks for what was foreseen only, and it asks every getter. -/
theorem foresees_of_run :
    l.Foresees tree s r ∧
      ∀ n ∈ tree.nodes, n.kind = some .functionDeclaration → Attended s r n l := by
  obtain ⟨walked, hsweep, hcontext, hregistry, hrequests⟩ := exists_sweep_of_runPasses hrun
  have hstart : ((start s {} r).note (.passStarted Pass.getters.name)).Foresees tree s r :=
    ⟨⟨hs, hformed, hunshared, .refl r, [], .start, by simp⟩, by simp [requests, note, start]⟩
  have hstack : ∀ entry ∈ [(tree, (none : Option Node))], Visitable tree entry.1 := by
    simp [Visitable, Node.mem_nodes_self]
  have hwalked : walked.Foresees tree s r := by
    have hswept := foresees_walks.sweep hstart hstack
    rw [hsweep] at hswept
    exact hswept.1
  refine ⟨⟨?_, ?_⟩, fun n hn hkind ↦ ?_⟩
  · rw [hcontext, hregistry]
    exact hwalked.forecast
  · rw [hrequests]
    exact hwalked.asked
  · have hattended : Attended s r n walked := by
      refine foresees_walks.of_visit (fun l stack h ↦ h.sweep stack) (fun l next hl hvisit ↦ ?_)
        (fun l m hl hm hmem hne ↦ ?_) hstart hstack ⟨_, List.mem_singleton_self _, hn⟩ hsweep
      · rw [asked_functionDeclaration hkind] at hvisit
        exact hl.attended hn hvisit
      · obtain ⟨granted, hgrants, -⟩ := hl.forecast.granted
        refine Store.Grants.exists_descent hgrants hl.forecast.covers hformed hunshared hm hmem
          hne ?_
        simp [Node.isIdentifier, Node.hasKind, hkind]
    unfold Attended
    rw [hrequests]
    exact hattended

variable (hcollisions : l.engine.collisions = [])

include hcollisions

/-- After a run without collisions a binding has the name that its path leads to. -/
theorem name_of_leads {id : BindingId} {k : Nat} {text : String}
    (hleads : Leads ⟨s, {}⟩ r id k text) :
    l.engine.store.bindings[id]?.map (·.name) = some (r.chainName k text) := by
  obtain ⟨hforesees, hattended⟩ := foresees_of_run hs hformed hunshared hrun
  have hcovers := hforesees.forecast.covers
  have hlast {name : String} (hname : lastName? l.requests id = some name) :
      name = r.chainName k text := by
    obtain ⟨k', text', hleads', -, rfl⟩ := hforesees.asked _ (mem_of_lastName? hname)
    obtain ⟨rfl, rfl⟩ := hleads.unique hleads'
    rfl
  rw [names_of_run hrun hcollisions]
  cases k with
  | zero =>
    cases hleads with
    | other hb hnone =>
      rw [show s.bindings[id]? = some _ from hb, Option.map_some]
      cases hname : lastName? l.requests id with
      | none => rw [Option.getD_none, Registry.chainName_zero]
      | some name => rw [Option.getD_some, hlast hname]
  | succ k =>
    -- The binding is a getter, and its first declaration was asked.
    obtain ⟨argument, hreturned⟩ := hleads.exists_returned?
    obtain ⟨b, site, hb, hsite, hmem, hname, hgetter⟩ :=
      Store.exists_getter_of_returned? hs hformed hunshared hreturned
    have hkind : site.parent.kind = some .functionDeclaration := by
      simpa [Node.hasKind] using (returnedIdentifier?_eq_some_iff.mp hgetter).1
    have hid : (site.parent.child? .id).bind s.bindingOf? = some id := by
      rw [hname, Option.bind_some]
      exact hcovers.bindingOf?_of_mem_sites hunshared hb
        (List.mem_append_left _ (List.mem_of_head? hsite))
    obtain ⟨-, hasked⟩ := hattended site.parent hmem hkind id (k + 1) text hid
      (by rw [hgetter]; rfl) hleads
    obtain ⟨name, hlastName⟩ := exists_lastName?_of_mem hasked
    rw [hb, Option.map_some, hlastName, Option.getD_some, hlast hlastName]

omit hcollisions in
/-- An identifier of a binding is spelled with the name that the binding has after the run. -/
theorem name_apply_of_run (hn : n ∈ tree.nodes) {id : BindingId}
    (hid : s.bindingOf? n = some id) :
    (l.engine.edits.apply n).head.name = l.engine.store.bindings[id]?.map (·.name) := by
  obtain ⟨hforesees, -⟩ := foresees_of_run hs hformed hunshared hrun
  obtain ⟨granted, hgrants, -⟩ := hforesees.forecast.granted
  exact hgrants.name_apply hforesees.forecast.covers hunshared hn hid

/-- The name that a path leads to is that of a getter of the name that the returned identifier has
after the run. -/
theorem exists_name_of_returned {id : BindingId} {argument : Node} {k : Nat} {text : String}
    (hreturned : returned? ⟨s, {}⟩ r id = some argument) (hleads : Leads ⟨s, {}⟩ r id k text) :
    ∃ field, (l.engine.edits.apply argument).head.name = some field ∧
      r.chainName k text = r.getterName field := by
  have hmem := (Store.mem_nodes_of_returned? hs hformed hunshared hreturned).1
  cases hleads with
  | other hb hnone => simp [returned?, hb, hnone] at hreturned
  | free hreturned' hfree hname =>
    obtain rfl := Option.some.inj (hreturned.symm.trans hreturned')
    obtain ⟨hforesees, -⟩ := foresees_of_run hs hformed hunshared hrun
    refine ⟨text, ?_, by rw [Registry.chainName_succ, Registry.chainName_zero]⟩
    rcases hforesees.forecast.name_apply_cases hmem with hsame | ⟨id, -, -, hid, -⟩
    · exact hsame.trans hname
    · exact absurd (hfree.symm.trans hid) (by simp)
  | @step _ returned _ k _ hreturned' hbound hrest =>
    obtain rfl := Option.some.inj (hreturned.symm.trans hreturned')
    refine ⟨r.chainName k text, ?_, r.chainName_succ k text⟩
    rw [name_apply_of_run hs hformed hunshared hrun hmem hbound]
    exact name_of_leads hs hformed hunshared hrun hcollisions hrest

/-- A binding whose path runs in a circle keeps its name. -/
theorem name_of_circles {id : BindingId} {b : Binding} (hb : s.bindings[id]? = some b)
    (hcircles : Circles ⟨s, {}⟩ r id) :
    l.engine.store.bindings[id]?.map (·.name) = some b.name := by
  obtain ⟨hforesees, -⟩ := foresees_of_run hs hformed hunshared hrun
  rw [names_of_run hrun hcollisions, hb, Option.map_some]
  cases hname : lastName? l.requests id with
  | none => rfl
  | some name =>
    obtain ⟨k, text, hleads, -⟩ := hforesees.asked _ (mem_of_lastName? hname)
    exact absurd hcircles hleads.not_circles

end Run

/-! ## A second run -/

/-- A run that goes on with what another run has left, and has attempted nothing. -/
structure Idles (r : Registry) (left now : Labeling) : Prop where
  rows : now.engine.rows = []
  context : now.context = left.context
  grown : r.Grown now.registry

section Again

variable (hs : Store.analyze tree = .ok s) (hformed : tree.WellFormed) (hunshared : tree.Unshared)
  (hrun : (start s {} r).runPasses tree [Pass.getters] = (l, none))
  (hcollisions : l.engine.collisions = [])

include hs hformed hunshared hrun hcollisions

/-- A getter asks again for the name that it has. -/
theorem Idles.visit {now : Labeling} (h : Idles r l now) (hn : n ∈ tree.nodes)
    (hkind : n.kind = some .functionDeclaration) :
    Ends (Idles r l) (fun _ _ ↦ False) (now.visit n [.simpleGetter]) := by
  obtain ⟨hforesees, hattended⟩ := foresees_of_run hs hformed hunshared hrun
  have hforecast : Forecast tree s r now.context now.registry :=
    h.context ▸ { hforesees.forecast with grown := h.grown }
  rw [visit_simpleGetter]
  rcases hforecast.simpleGetter_cases hn with ⟨-, hasked⟩ |
    ⟨id, k, text, hid, hgetter, hleads, ⟨-, next, hasked, hnext⟩ | ⟨hrefused, -⟩⟩
  · rw [hasked]
    exact .finished h
  · rw [hasked]
    have hplace : Request.InPlace now.engine.store ⟨id, r.chainName k text⟩ := by
      have hname := name_of_leads hs hformed hunshared hrun hcollisions hleads
      intro b hb
      rw [show l.engine.store = now.engine.store from (congrArg (·.store) h.context).symm, hb]
        at hname
      exact Option.some.inj hname
    obtain ⟨hrows, hsame⟩ := Engine.apply_of_idle h.rows Idiom.simpleGetter.label
      [⟨id, r.chainName k text⟩]
    have hnone := hrows.mpr fun request hrequest ↦ List.mem_singleton.mp hrequest ▸ hplace
    obtain ⟨hstore, hedits⟩ := hsame hnone
    refine .finished ⟨hnone, ?_, h.grown.trans hnext⟩
    rw [← h.context]
    exact congrArg₂ Context.mk hstore hedits
  · exact absurd (hattended n hn hkind id k text hid hgetter hleads).1 hrefused

theorem idles_walks :
    Invariant (Idles r l) (fun _ _ ↦ False) (Visitable tree) Pass.getters.table where
  step now n idiom h hn hidiom := by
    obtain ⟨hkind, -⟩ := Pass.asked hidiom
    obtain rfl := eq_simpleGetter_of_asked hidiom
    rcases hn with hn | ⟨hidentifier, -⟩
    · exact h.visit hs hformed hunshared hrun hcollisions hn hkind
    · rw [Node.isIdentifier_iff.mp hidentifier] at hkind
      exact absurd hkind (by decide)
  descents now _ hn _ hentry := visitable_of_mem_descents now hn hentry
  untyped _ _ _ _ hn huntyped := huntyped (hn.isTyped hformed.isTyped)

/-- A run that goes on with what a run without collisions has left comes to its end and attempts
nothing. -/
theorem exists_idle_run : ∃ again,
    (start l.engine.store l.engine.edits r).runPasses tree [Pass.getters] = (again, none) ∧
      again.engine.rows = [] := by
  have hthroughout : Throughout (Idles r l) (fun _ _ ↦ False) (Visitable tree) [Pass.getters] :=
    { walks := fun pass hpass ↦ List.mem_singleton.mp hpass ▸
        idles_walks hs hformed hunshared hrun hcollisions
      note := fun _ _ hevent h ↦
        ⟨(Engine.rows_note_of_not_attempted hevent).trans h.rows, h.context, h.grown⟩
      finish := fun _ _ h ↦ ⟨h.rows, h.context, h.grown⟩ }
  have hstart : Idles r l (start l.engine.store l.engine.edits r) := ⟨rfl, rfl, .refl r⟩
  obtain ⟨hidles, hfault⟩ := hthroughout.runPasses (.inl tree.mem_nodes_self) hstart
  exact ⟨_, Prod.ext rfl (Option.eq_none_iff_forall_ne_some.mpr hfault), hidles.rows⟩

end Again

end Labeling

/-- A getter as edits leave it. -/
theorem Recognition.getter?_apply_of_returned {r : Registry} {n name argument : Node}
    (h : returnedIdentifier? r n = some argument) (hname : n.child? .id = some name) (e : Edits) :
    getter? (e.apply n) = some ((e.apply name).head.name.getD "", e.apply argument) := by
  obtain ⟨hkind, own, hown, hidentifier, -, hargument, hreturned⟩ :=
    returnedIdentifier?_eq_some_iff.mp h
  obtain rfl := Option.some.inj (hown.symm.trans hname)
  simp [getter?, identifier?, Option.bind_eq_some_iff, Option.filter_eq_some_iff,
    Edits.child?_apply e n (by decide : Field.id ≠ .key), Edits.soleReturn?_apply, hkind, hown,
    hidentifier, hargument, hreturned]

/-- A run of the getters' pass that comes to its end without a collision names every getter that is
the only declaration of its binding after the name that the identifier it returns has then, unless
its path runs in a circle: then it keeps its name. A run on the labelled program with a registry as
it was before the first run comes to its end and attempts nothing. -/
theorem getters_settled {tree : Node} {s : Store} {r : Registry} {l : Labeling}
    (hs : Store.analyze tree = .ok s) (hformed : tree.WellFormed) (hunshared : tree.Unshared)
    (hrun : (Labeling.start s {} r).runPasses tree [Pass.getters] = (l, none))
    (hcollisions : l.engine.collisions = []) :
    (∀ n ∈ tree.nodes, ∀ (id : BindingId) (b : Binding) (name argument : Node),
      s.bindings[id]? = some b → n.child? .id = some name →
      b.declarations.map Site.id = [name.id] → returnedIdentifier? r n = some argument →
        (¬ Circles ⟨s, {}⟩ r id → ∃ text,
          (l.engine.edits.apply argument).head.name = some text ∧
            getter? (l.engine.edits.apply n) =
              some (r.getterName text, l.engine.edits.apply argument)) ∧
        (Circles ⟨s, {}⟩ r id →
          (getter? (l.engine.edits.apply n)).map (·.1) = name.head.name)) ∧
    ∃ fresh, Store.analyze (l.engine.edits.apply tree) = .ok fresh ∧
      Labeling.Rests (l.engine.edits.apply tree)
        ((Labeling.start fresh {} r).runPasses (l.engine.edits.apply tree) [Pass.getters]) := by
  have hreachable : l.engine.Reachable tree s :=
    ⟨hs, [.label r [Pass.getters]], congrArg (·.1.engine) hrun.symm⟩
  constructor
  · intro n hn id b name argument hb hname hdeclarations hgetter
    obtain ⟨hforesees, -⟩ := Labeling.foresees_of_run hs hformed hunshared hrun
    have hcovers := hforesees.forecast.covers
    have hnameMem := Node.mem_nodes_of_mem_branches hn (Node.mem_branches_of_child? hname)
    obtain ⟨site, hsites, hid⟩ := List.map_eq_singleton_iff.mp hdeclarations
    have hsite : site ∈ b.sites := by simp [Binding.sites, hsites]
    obtain rfl := hunshared.identity _ (hcovers.sound id b hb site hsite).1 name hnameMem hid
    have hown := Labeling.name_apply_of_run hs hformed hunshared hrun hnameMem
      (hcovers.bindingOf?_of_mem_sites hunshared hb hsite)
    have hreturned := Store.returned?_of_getter hs hformed hunshared hb (by rw [hsites]; rfl) hn
      hname hgetter
    rw [getter?_apply_of_returned hgetter hname, hown]
    refine ⟨fun hcircles ↦ ?_, fun hcircles ↦ ?_⟩
    · obtain ⟨k, text, hleads⟩ :=
        (Store.leads_or_circles hs hformed hunshared ⟨b, hb⟩).resolve_right hcircles
      obtain ⟨field, hfield, hchain⟩ := Labeling.exists_name_of_returned hs hformed hunshared hrun
        hcollisions hreturned hleads
      refine ⟨field, hfield, ?_⟩
      rw [Labeling.name_of_leads hs hformed hunshared hrun hcollisions hleads, hchain]
      rfl
    · rw [Labeling.name_of_circles hs hformed hunshared hrun hcollisions hb hcircles,
        (hcovers.named id b hb).2 site hsite]
      rfl
  · obtain ⟨again, hagain, hidle⟩ :=
      Labeling.exists_idle_run hs hformed hunshared hrun hcollisions
    obtain ⟨fresh, hfresh, hrests⟩ :=
      hreachable.rests_iff hunshared hformed.namesKeys hagain
    exact ⟨fresh, hfresh, hrests.mpr ⟨rfl, hidle⟩⟩

namespace Sample

/-- `function a() { return b; } function b() { return c; } var c; function d() { return d; }` -/
def gettersAndCircle : Node :=
  node 0 .program [(.body, some (returning 1 "a" "b")), (.body, some (returning 6 "b" "c")),
    (.body, some (.mk
      { id := ⟨11, false⟩, kind := some .variableDeclaration, variety := some "var" }
      [(.declarations, some (node 12 .variableDeclarator [(.id, some (name 13 "c"))]))])),
    (.body, some (returning 14 "d" "d"))]

theorem unshared_gettersAndCircle : gettersAndCircle.Unshared where
  identity := eq_of_id_eq gettersAndCircle.nodes (List.range 19) rfl (by decide +kernel)
  distinct := by decide +kernel

end Sample

/-- The first of two getters in a row, which is asked first, is named after the name that the second
one gets; a getter of itself keeps its name. -/
theorem getters_settled_gettersAndCircle :
    ∃ s r l, Store.analyze Sample.gettersAndCircle = .ok s ∧
      Sample.gettersAndCircle.WellFormed ∧ Sample.gettersAndCircle.Unshared ∧
      Registry.create "___" Role.defaultDescriptor defaultParameterRoles = .ok r ∧
      (Labeling.start s {} r).runPasses Sample.gettersAndCircle [Pass.getters] = (l, none) ∧
      l.engine.collisions = [] ∧
      (∃ argument text, (l.engine.edits.apply argument).head.name = some text ∧
        getter? (l.engine.edits.apply (Sample.returning 1 "a" "b")) =
          some (r.getterName text, l.engine.edits.apply argument)) ∧
      (getter? (l.engine.edits.apply (Sample.returning 14 "d" "d"))).map (·.1) = some "d" ∧
      ∃ fresh, Store.analyze (l.engine.edits.apply Sample.gettersAndCircle) = .ok fresh ∧
        Labeling.Rests (l.engine.edits.apply Sample.gettersAndCircle)
          ((Labeling.start fresh {} r).runPasses (l.engine.edits.apply Sample.gettersAndCircle)
            [Pass.getters]) := by
  have hobserved : ((Store.analyze Sample.gettersAndCircle).toOption.bind fun s ↦
      (Registry.create "___" Role.defaultDescriptor defaultParameterRoles).toOption.map fun r ↦
        let run := (Labeling.start s {} r).runPasses Sample.gettersAndCircle [Pass.getters]
        ([run.2.isNone, run.1.engine.collisions.isEmpty,
            (returnedIdentifier? r (Sample.returning 1 "a" "b")).isSome,
            (returnedIdentifier? r (Sample.returning 14 "d" "d")).isSome,
            s.bindings[2]?.any fun b ↦ (returnedBy? ⟨s, {}⟩ r b).isNone],
          [next? ⟨s, {}⟩ r 0, next? ⟨s, {}⟩ r 1, next? ⟨s, {}⟩ r 3])) =
      some ([true, true, true, true, true], [some 1, some 2, some 3]) := by
    simp only [Labeling.runPasses_eq_runTables, List.map_cons, List.map_nil,
      Labeling.table_getters]
    decide +kernel
  have hdeclared : ((Store.analyze Sample.gettersAndCircle).toOption.map fun s ↦
      [0, 3].map fun id : BindingId ↦ s.bindings[id]?.map fun b ↦ b.declarations.map Site.id) =
        some [some [⟨2, false⟩], some [⟨15, false⟩]] := by
    decide +kernel
  obtain ⟨s, hs, hcreated⟩ := Option.bind_eq_some_iff.mp hobserved
  obtain ⟨r, hr, hseen⟩ := Option.map_eq_some_iff.mp hcreated
  simp only [hs, Option.map_some, List.map_cons, List.map_nil, Option.some.injEq,
    List.cons.injEq, and_true] at hdeclared
  obtain ⟨hfirst, hlast⟩ := hdeclared
  obtain ⟨b, hb, hfirst⟩ := Option.map_eq_some_iff.mp hfirst
  obtain ⟨d, hd, hlast⟩ := Option.map_eq_some_iff.mp hlast
  simp only [Prod.mk.injEq, List.cons.injEq, and_true, Option.isNone_iff_eq_none,
    List.isEmpty_iff, Option.any_eq_true] at hseen
  obtain ⟨⟨hfinished, hcollisions, hgetter, hself, c, hc, hother⟩, hnext, hnext', hcircle⟩ := hseen
  have hformed : Sample.gettersAndCircle.WellFormed := ⟨rfl, by decide +kernel⟩
  have hs := toOption_eq_some_iff.mp hs
  obtain ⟨hsettled, hrests⟩ := getters_settled hs hformed Sample.unshared_gettersAndCircle
    (Prod.ext rfl hfinished) hcollisions
  obtain ⟨argument, hargument⟩ := Option.isSome_iff_exists.mp hgetter
  obtain ⟨self, hself⟩ := Option.isSome_iff_exists.mp hself
  have hleads := (Leads.other hc hother).of_next? hnext' |>.of_next? hnext
  have hcircles : Circles ⟨s, {}⟩ r 3 := ⟨0, 1, 3, by decide, rfl, by rwa [follow_succ]⟩
  have hmem {n : Node} (hn : (Field.body, some n) ∈ Sample.gettersAndCircle.branches) :
      n ∈ Sample.gettersAndCircle.nodes :=
    Node.mem_nodes_of_mem_branches (Node.mem_nodes_self _) hn
  have hnamed := hsettled (Sample.returning 1 "a" "b")
    (hmem (by simp [Sample.gettersAndCircle, Sample.node, Node.branches])) 0 b
    (Sample.name 2 "a") argument hb rfl hfirst hargument
  have hkept := hsettled (Sample.returning 14 "d" "d")
    (hmem (by simp [Sample.gettersAndCircle, Sample.node, Node.branches])) 3 d
    (Sample.name 15 "d") self hd rfl hlast hself
  exact ⟨s, r, _, hs, hformed, Sample.unshared_gettersAndCircle, toOption_eq_some_iff.mp hr,
    Prod.ext rfl hfinished, hcollisions, ⟨argument, hnamed.1 hleads.not_circles⟩,
    hkept.2 hcircles, hrests⟩

end Relabel
