import Relabel.Proofs.Labeling.Log
import Relabel.Proofs.Labeling.Order
import Relabel.Proofs.Labeling.Reuse
import Relabel.Proofs.Scope.Parameter

/-!
# Parameters have the names of their roles

The last of the standard passes names the parameters of handlers. A function can be renamed by then
only as a parameter of a function around it, and these are visited before it; so the name that it is
looked up by is the name that it has in the end. No other function asks for names for its
parameters, so nothing takes back what it asks for.
-/

namespace Relabel

open Issuing (Echoes)

namespace Recognition

/-! ## What is asked for parameters -/

theorem getD_requests (wanted : List (Option BindingId × String)) :
    (requests wanted).getD [] =
      wanted.filterMap fun (binding, name) ↦ binding.map (Request.mk · name) := by
  unfold requests
  split
  · rename_i hnone
    exact hnone.symm
  · rfl

theorem filterMap_zip_some (ids : List BindingId) (names : List String) :
    ((ids.map some).zip names).filterMap (fun (binding, name) ↦ binding.map (Request.mk · name)) =
      ids.zipWith Request.mk names := by
  induction ids generalizing names with
  | nil => rfl
  | cons id rest ih =>
    cases names with
    | nil => rfl
    | cons name names => simpa using ih names

/-- A binding is asked to take the name in its place. -/
theorem mem_zipWith_iff {ids : List BindingId} (hdistinct : ids.Nodup) {i : Nat} {id : BindingId}
    (hid : ids[i]? = some id) {names : List String} {name : String} :
    ⟨id, name⟩ ∈ ids.zipWith Request.mk names ↔ names[i]? = some name := by
  rw [List.mem_iff_getElem?]
  simp only [List.getElem?_zipWith_eq_some, Request.mk.injEq]
  constructor
  · rintro ⟨j, _, _, hj, hname, rfl, rfl⟩
    obtain ⟨hi, -⟩ := List.getElem?_eq_some_iff.mp hid
    obtain rfl := (List.getElem?_inj hi hdistinct).mp (hid.trans hj.symm)
    exact hname
  · exact fun hname ↦ ⟨i, id, name, hid, hname, rfl, rfl⟩

theorem map_binding_zipWith (ids : List BindingId) (names : List String) :
    ((ids.zipWith Request.mk names).map (·.binding)).Sublist ids := by
  induction ids generalizing names with
  | nil => exact .slnil
  | cons id rest ih =>
    cases names with
    | nil => exact List.nil_sublist _
    | cons name names => exact (ih names).cons_cons id

section Handler

variable {c : Context} {n name : Node} {now next : Registry} {answer : Option (List Request)}

/-- The requests that a table of names gives to the parameters of a function. -/
def parameterRequests? (c : Context) (n name : Node) (roles : Table String (List String)) :
    Option (List Request) :=
  (roles.get? (name.head.name.getD "")).bind fun names ↦
    if n.params.isEmpty || !n.params.all (·.any (·.isIdentifier)) then none
    else requests ((n.params.map fun param ↦ param.bind c.store.bindingOf?).zip names)

theorem run_handlerParameters (hname : identifier? n .id = some name) :
    (handlerParameters c n).run now = match Issuing.parameterRoles.run now with
      | (.ok roles, next) => (.ok (parameterRequests? c n name roles), next)
      | (.error fault, next) => (.error fault, next) := by
  have hread : handlerParameters c n = do
      let roles ← Issuing.parameterRoles
      return parameterRequests? c n name roles := by
    unfold handlerParameters parameterRequests?
    simp only [hname]
    congr 1
    funext roles
    cases roles.get? (name.head.name.getD "") with
    | none => rfl
    | some names =>
      simp only [Option.bind_some]
      split <;> rfl
  rw [hread, Issuing.run_bind]
  rcases Issuing.parameterRoles.run now with ⟨_ | _, _⟩ <;> rfl

/-- A function that has no known name, or other parameters than identifiers, asks for nothing. -/
theorem mem_of_run_handlerParameters (h : (handlerParameters c n).run now = (.ok answer, next))
    {request : Request} (hrequest : request ∈ answer.getD []) :
    ∃ p, some p ∈ n.params ∧ c.store.bindingOf? p = some request.binding := by
  cases hname : identifier? n .id with
  | none =>
    unfold handlerParameters at h
    simp only [hname] at h
    obtain ⟨hnone, -⟩ := Prod.mk.inj h
    obtain rfl := Except.ok.inj hnone
    exact absurd hrequest List.not_mem_nil
  | some name =>
    rw [run_handlerParameters hname] at h
    rcases hroles : Issuing.parameterRoles.run now with ⟨fault | roles, later⟩
    · rw [hroles] at h
      exact absurd (Prod.mk.inj h).1 (by simp)
    · rw [hroles] at h
      obtain ⟨hanswer, -⟩ := Prod.mk.inj h
      obtain rfl := Except.ok.inj hanswer
      unfold parameterRequests? at hrequest
      cases hnames : roles.get? (name.head.name.getD "") with
      | none => simp [hnames] at hrequest
      | some names =>
        simp only [hnames, Option.bind_some] at hrequest
        split at hrequest
        · exact absurd hrequest List.not_mem_nil
        · rw [getD_requests, List.mem_filterMap] at hrequest
          obtain ⟨⟨binding, text⟩, hentry, hsame⟩ := hrequest
          obtain ⟨id, rfl, rfl⟩ := Option.map_eq_some_iff.mp hsame
          obtain ⟨param, hparam, hid⟩ := List.mem_map.mp (List.of_mem_zip hentry).1
          obtain ⟨p, rfl, hp⟩ := Option.bind_eq_some_iff.mp hid
          exact ⟨p, hparam, hp⟩

/-- A function with a known name asks for the names of its parameters in order. -/
theorem getD_of_run_handlerParameters (h : (handlerParameters c n).run now = (.ok answer, next))
    (hname : identifier? n .id = some name)
    (hidentifiers : ∀ param ∈ n.params, param.any (·.isIdentifier) = true) :
    ∃ roles, (Issuing.parameterRoles.run now).1 = .ok roles ∧
      ∀ names, roles.get? (name.head.name.getD "") = some names →
        answer.getD [] = ((n.params.map fun param ↦ param.bind c.store.bindingOf?).zip names).filterMap
          fun (binding, name) ↦ binding.map (Request.mk · name) := by
  rw [run_handlerParameters hname] at h
  rcases hroles : Issuing.parameterRoles.run now with ⟨fault | roles, later⟩
  · rw [hroles] at h
    exact absurd (Prod.mk.inj h).1 (by simp)
  · rw [hroles] at h
    obtain ⟨hanswer, -⟩ := Prod.mk.inj h
    obtain rfl := Except.ok.inj hanswer
    refine ⟨roles, rfl, fun names hnames ↦ ?_⟩
    simp only [parameterRequests?, hnames, Option.bind_some, List.all_eq_true.mpr hidentifiers,
      Bool.not_true, Bool.or_false]
    split
    · rename_i hempty
      rw [List.isEmpty_iff.mp hempty]
      rfl
    · exact getD_requests _

end Handler

end Recognition

/-! ## How the last pass comes to a function -/

namespace Labeling

open Recognition

variable {tree f : Node} {s : Store} {l next : Labeling}

theorem asked_parameters (n : Node) :
    (n.kind.bind Pass.parameters.table.get?).getD [] =
      if n.kind = some .functionDeclaration then [.handlerParameters] else [] := by
  have htable : Pass.parameters.table = ⟨[(.functionDeclaration, [.handlerParameters])]⟩ := by cbv
  rw [htable]
  split
  · rename_i hkind
    rw [hkind]
    rfl
  · rename_i hkind
    cases hn : n.kind with
    | none => rfl
    | some kind =>
      have hne : kind ≠ .functionDeclaration := fun hsame ↦ hkind (hn.trans (congrArg some hsame))
      simp [Table.get?, Ne.symm hne]

theorem exists_answer_of_visit {n : Node} {idiom : Idiom} (h : l.visit n [idiom] = (next, none)) :
    ∃ answer registry, (idiom.recognise l.context (l.context.edits.apply n)).run l.registry =
      (.ok answer, registry) := by
  rw [visit_singleton] at h
  rcases hrun : (idiom.recognise l.context (l.context.edits.apply n)).run l.registry with
    ⟨fault | answer, registry⟩
  · rw [hrun] at h
    exact absurd (Prod.mk.inj h).2 (by simp)
  · exact ⟨answer, registry, rfl⟩

theorem bindingOf?_apply (hkept : s.Kept l.engine.store) (n : Node) :
    l.context.store.bindingOf? (l.context.edits.apply n) = s.bindingOf? n := by
  rw [Store.bindingOf?, Store.bindingOf?, Edits.isIdentifier_apply, Edits.id_apply]
  exact congrArg (fun owners ↦ if n.isIdentifier then owners.get? n.id else none) hkept.owners

theorem later_visitAll (l : Labeling) (table : Table Kind (List Idiom)) (nodes : List Node) :
    l.registry.Later (l.visitAll table nodes).1.registry := by
  induction nodes generalizing l with
  | nil => exact .refl _
  | cons n rest ih =>
    have hvisited := l.later_visit n ((n.kind.bind table.get?).getD [])
    unfold visitAll
    rcases hvisit : l.visit n ((n.kind.bind table.get?).getD []) with ⟨mid, fault | _⟩
    · rw [hvisit] at hvisited
      exact hvisited.trans (ih mid)
    · rwa [hvisit] at hvisited

section Pass

variable (hhoused : s.Housed)

include hhoused

/-- A function asks for names for its own parameters only. -/
theorem exists_records_of_asked (hkept : s.Kept l.engine.store)
    (h : l.visit f ((f.kind.bind Pass.parameters.table.get?).getD []) = (next, none)) :
    ∃ log, l.Records next log ∧ ∀ entry ∈ log, s.IsParameterOf f entry.request.binding := by
  rw [asked_parameters] at h
  split at h
  · rename_i hkind
    obtain ⟨log, hlog, hasked⟩ := exists_records_visit hkept hhoused f .handlerParameters
    obtain ⟨answer, registry, hanswer⟩ := exists_answer_of_visit h
    rw [h] at hlog
    refine ⟨log, hlog, fun entry hentry ↦ ⟨hkind, ?_⟩⟩
    have hmem : (entry.idiom, entry.request) ∈
        (answer.getD []).map (Idiom.handlerParameters.label, ·) := by
      rw [← hasked answer (congrArg Prod.fst hanswer)]
      exact List.mem_map.mpr ⟨entry, hentry, rfl⟩
    obtain ⟨request, hrequest, hsame⟩ := List.mem_map.mp hmem
    obtain ⟨-, rfl⟩ := Prod.mk.inj hsame
    obtain ⟨q, hq, hid⟩ := mem_of_run_handlerParameters hanswer hrequest
    rw [Edits.params_apply] at hq
    obtain ⟨param, hparam, hsame⟩ := List.mem_map.mp hq
    obtain ⟨p, rfl, rfl⟩ := Option.map_eq_some_iff.mp hsame
    rw [bindingOf?_apply hkept] at hid
    refine ⟨p, hparam, ?_, hid⟩
    by_contra hidentifier
    rw [Store.bindingOf?, if_neg hidentifier] at hid
    exact absurd hid (by simp)
  · obtain ⟨rfl, -⟩ := Prod.mk.inj h
    exact ⟨[], .refl l, by simp⟩

theorem exists_records_visitAll (hkept : s.Kept l.engine.store) {nodes : List Node}
    (h : l.visitAll Pass.parameters.table nodes = (next, none)) :
    ∃ log, l.Records next log ∧
      ∀ entry ∈ log, ∃ g ∈ nodes, s.IsParameterOf g entry.request.binding := by
  induction nodes generalizing l with
  | nil =>
    obtain ⟨rfl, -⟩ := Prod.mk.inj h
    exact ⟨[], .refl l, by simp⟩
  | cons g rest ih =>
    obtain ⟨mid, hvisit, hrest⟩ := proceed_eq_none_iff.mp h
    obtain ⟨log, hlog, hown⟩ := exists_records_of_asked hhoused hkept hvisit
    obtain ⟨more, hmore, hothers⟩ := ih (hlog.logged.preserves (preserved_kept s) hkept) hrest
    refine ⟨log ++ more, hlog.trans hmore, fun entry hentry ↦ ?_⟩
    rcases List.mem_append.mp hentry with hentry | hentry
    · exact ⟨g, List.mem_cons_self, hown entry hentry⟩
    · obtain ⟨g', hg', hparameter⟩ := hothers entry hentry
      exact ⟨g', List.mem_cons_of_mem g hg', hparameter⟩

end Pass

/-- The way of a run past a function: it arrives, names the parameters of the function, and leaves.
Before that and afterwards it names parameters of other functions, afterwards none of functions
around the function. -/
structure Passage (tree f : Node) (s : Store) (before arrived left l : Labeling)
    (earlier own later : List LogEntry) : Prop where
  registry : before.registry.Later arrived.registry
  visit : arrived.visit f [.handlerParameters] = (left, none)
  arrive : before.Records arrived earlier
  ask : arrived.Records left own
  leave : left.Records l later
  ofEarlier : ∀ entry ∈ earlier, ∃ g ∈ tree.nodes, g ≠ f ∧ s.IsParameterOf g entry.request.binding
  ofOwn : ∀ entry ∈ own, s.IsParameterOf f entry.request.binding
  ofLater : ∀ entry ∈ later, ∃ g ∈ tree.nodes, f ∉ g.nodes ∧
    s.IsParameterOf g entry.request.binding

theorem exists_passage (hformed : tree.WellFormed) (hunshared : tree.Unshared) (hhoused : s.Housed)
    (hjustified : l.Justified tree) (hkept : s.Kept l.engine.store)
    (hrun : l.runPass tree Pass.parameters = (next, none)) (hf : f ∈ tree.nodes)
    (hkind : f.kind = some .functionDeclaration) :
    ∃ arrived left earlier own later,
      Passage tree f s l arrived left next earlier own later := by
  have hasked : f ∈ tree.asked :=
    Node.mem_asked_iff.mpr ⟨hf, by simp [Node.isNaming, Node.isIdentifier, Node.hasKind, hkind]⟩
  obtain ⟨before, after, hsplit⟩ := List.append_of_mem hasked
  have hmem (g : Node) (hg : g ∈ before ++ f :: after) : g ∈ tree.nodes :=
    (Node.mem_asked_iff.mp (hsplit ▸ hg)).1
  have hnodup := hformed.nodup_asked hunshared
  rw [hjustified.runPass_eq hformed hunshared, hsplit, visitAll_append, proceed_proceed] at hrun
  obtain ⟨arrived, harrived, hvisits⟩ := proceed_eq_none_iff.mp hrun
  rw [visitAll, asked_parameters, if_pos hkind, proceed_proceed] at hvisits
  obtain ⟨left, hvisit, hrest⟩ := proceed_eq_none_iff.mp hvisits
  obtain ⟨walked, hwalked, hfinish⟩ := proceed_eq_none_iff.mp hrest
  obtain ⟨rfl, -⟩ := Prod.mk.inj hfinish
  have hstarted : l.Records (l.note (.passStarted Pass.parameters.name)) [] :=
    (Records.refl l).note (by simp)
  obtain ⟨earlier, hearlier, hofEarlier⟩ :=
    exists_records_visitAll (l := l.note (.passStarted Pass.parameters.name)) hhoused hkept harrived
  have hkeptArrived := hearlier.logged.preserves (preserved_kept s) hkept
  obtain ⟨own, hown, hofOwn⟩ := exists_records_of_asked hhoused hkeptArrived
    (f := f) (by rwa [asked_parameters, if_pos hkind])
  have hkeptLeft := hown.logged.preserves (preserved_kept s) hkeptArrived
  obtain ⟨later, hlater, hofLater⟩ := exists_records_visitAll hhoused hkeptLeft hwalked
  have hfinished : left.Records (walked.note (.passFinished Pass.parameters.name
      (walked.found.length - l.found.length))) later :=
    hlater.note (by simp)
  refine ⟨arrived, left, earlier, own, later,
    { registry := by
        have hlater := later_visitAll (l.note (.passStarted Pass.parameters.name))
          Pass.parameters.table before
        rwa [harrived] at hlater
      visit := hvisit
      arrive := hstarted.trans hearlier
      ask := hown
      leave := ⟨hfinished.attempts, hfinished.logged, hfinished.rows⟩
      ofEarlier := fun entry hentry ↦ ?_
      ofOwn := hofOwn
      ofLater := fun entry hentry ↦ ?_ }⟩
  · obtain ⟨g, hg, hparameter⟩ := hofEarlier entry hentry
    refine ⟨g, hmem g (List.mem_append_left _ hg), ?_, hparameter⟩
    rintro rfl
    rw [hsplit] at hnodup
    exact (List.nodup_append.mp hnodup).2.2 g hg g List.mem_cons_self rfl
  · obtain ⟨g, hg, hparameter⟩ := hofLater entry hentry
    exact ⟨g, hmem g (List.mem_append_right _ (List.mem_cons_of_mem f hg)),
      hformed.not_mem_nodes_of_after hunshared hsplit hg, hparameter⟩

namespace Passage

variable {before arrived left : Labeling} {earlier own later : List LogEntry}
  (h : Passage tree f s before arrived left l earlier own later)
  (hrealises : s.Realises tree) (hunshared : tree.Unshared) (hf : f ∈ tree.nodes)

include h hrealises hunshared hf

/-- The name of a parameter is settled while the run is at its function. -/
theorem name_parameter {id : BindingId} (hparameter : s.IsParameterOf f id) :
    arrived.engine.store.bindings[id]?.map (·.name) =
        before.engine.store.bindings[id]?.map (·.name) ∧
      l.engine.store.bindings[id]?.map (·.name) =
        left.engine.store.bindings[id]?.map (·.name) := by
  refine ⟨h.arrive.logged.name_eq fun entry hentry ↦ ?_,
    h.leave.logged.name_eq fun entry hentry ↦ ?_⟩
  · obtain ⟨g, hg, hne, hother⟩ := h.ofEarlier entry hentry
    rintro rfl
    exact hne (hrealises.eq_of_isParameterOf hunshared hg hf hother hparameter)
  · obtain ⟨g, hg, hne, hother⟩ := h.ofLater entry hentry
    rintro rfl
    obtain rfl := hrealises.eq_of_isParameterOf hunshared hg hf hother hparameter
    exact hne g.mem_nodes_self

/-- The name of a function is settled before the run comes to it. -/
theorem name_function {name : Node} (hkind : f.kind = some .functionDeclaration)
    (hname : f.child? .id = some name) (hidentifier : name.isIdentifier = true) :
    ∃ id, s.bindingOf? name = some id ∧ l.engine.store.bindings[id]?.map (·.name) =
      arrived.engine.store.bindings[id]?.map (·.name) := by
  obtain ⟨id, hid, houter⟩ := hrealises.exists_name hunshared hf hkind hname hidentifier
  refine ⟨id, hid, (h.leave.logged.name_eq fun entry hentry ↦ ?_).trans
    (h.ask.logged.name_eq fun entry hentry ↦ ?_)⟩
  · obtain ⟨g, hg, hbelow, hparameter⟩ := h.ofLater entry hentry
    rintro rfl
    exact hbelow (houter g hg hparameter).1
  · rintro rfl
    exact (houter f hf (h.ofOwn entry hentry)).2 rfl

end Passage

/-- If a function asks for names in the order of its parameters, each parameter has the name in its
place in the end, unless that was refused; a parameter without such a name has the name it had. -/
theorem Passage.name_cases {before arrived left : Labeling} {earlier own later : List LogEntry}
    (h : Passage tree f s before arrived left l earlier own later) (hrealises : s.Realises tree)
    (hunshared : tree.Unshared) (hf : f ∈ tree.nodes) {label : String} {ids : List BindingId}
    {names : List String}
    (hown : own.map (fun entry ↦ (entry.idiom, entry.request)) =
      (ids.zipWith Request.mk names).map (label, ·)) (hdistinct : ids.Nodup) {i : Nat}
    {id : BindingId} (hid : ids[i]? = some id) (hparameter : s.IsParameterOf f id) :
    (∀ name, names[i]? = some name →
        l.engine.store.bindings[id]?.map (·.name) = some name ∨
          ∃ entry ∈ own, entry.idiom = label ∧ entry.request.binding = id ∧
            entry.outcome = .collision) ∧
      (names[i]? = none → l.engine.store.bindings[id]?.map (·.name) =
        before.engine.store.bindings[id]?.map (·.name)) := by
  obtain ⟨harrived, hleft⟩ := h.name_parameter hrealises hunshared hf hparameter
  have hrequests : own.map (·.request) = ids.zipWith Request.mk names := by
    have hsecond := congrArg (List.map Prod.snd) hown
    simpa only [List.map_map, Function.comp_def, List.map_id'] using hsecond
  have hnodup : (own.map (·.request.binding)).Nodup := by
    have hbindings := congrArg (List.map (·.binding)) hrequests
    rw [List.map_map] at hbindings
    exact hbindings ▸ hdistinct.sublist (map_binding_zipWith ids names)
  constructor
  · intro name hname
    have hasked := (mem_zipWith_iff hdistinct hid).mpr hname
    rw [← hrequests] at hasked
    obtain ⟨entry, hentry, hrequest⟩ := List.mem_map.mp hasked
    by_cases hkept : entry.outcome = .collision
    · have hlabel : (entry.idiom, entry.request) ∈ (ids.zipWith Request.mk names).map (label, ·) :=
        hown ▸ List.mem_map.mpr ⟨entry, hentry, rfl⟩
      obtain ⟨_, -, hsame⟩ := List.mem_map.mp hlabel
      exact .inr ⟨entry, hentry, (Prod.mk.inj hsame).1.symm, by rw [hrequest], hkept⟩
    · have hgiven := h.ask.logged.name_of_nodup hnodup hentry hkept
      rw [hrequest] at hgiven
      exact .inl (hleft.trans hgiven)
  · intro hnone
    rw [hleft, ← harrived]
    refine h.ask.logged.name_eq fun entry hentry hsame ↦ ?_
    have hasked : ⟨id, entry.request.name⟩ ∈ ids.zipWith Request.mk names := by
      rw [← hrequests, ← hsame]
      exact List.mem_map.mpr ⟨entry, hentry, rfl⟩
    have hname := (mem_zipWith_iff hdistinct hid).mp hasked
    exact absurd (hnone.symm.trans hname) (by simp)

/-- A function of which all parameters are identifiers with different bindings, and the table has
names for parameters under the name that the function has in the end. -/
structure Handles (tree : Node) (s : Store) (l : Labeling) (roles : Table String (List String))
    (f : Node) (params : List Node) (names : List String) : Prop where
  mem : f ∈ tree.nodes
  kind : f.kind = some .functionDeclaration
  named : ∃ name key, f.child? .id = some name ∧
    (l.engine.edits.apply name).head.name = some key ∧ roles.get? key = some names
  listed : f.params = params.map some
  identifiers : ∀ p ∈ params, p.isIdentifier = true
  distinct : (params.map s.bindingOf?).Nodup

/-- How a parameter is named in the end: as the names have it in its place, or as before if they do
not reach so far; and everywhere in the program. -/
structure Named (tree : Node) (s : Store) (before l : Labeling) (names : List String) (i : Nat)
    (p : Node) (id : BindingId) (b : Binding) : Prop where
  bound : s.bindingOf? p = some id
  binding : l.engine.store.bindings[id]? = some b
  role : ∀ name, names[i]? = some name → b.name = name
  kept : names[i]? = none → before.engine.store.bindings[id]?.map (·.name) = some b.name
  spelled : (l.engine.edits.apply p).head.name = some b.name
  sites : ∀ site ∈ b.sites, site.identifier ∈ tree.nodes ∧
    (l.engine.edits.apply site.identifier).head.name = some b.name

namespace Handles

variable {roles : Table String (List String)} {params : List Node} {names : List String}
  (h : l.Handles tree s roles f params names)

include h

theorem some_mem_params {p : Node} (hp : p ∈ params) : some p ∈ f.params := by
  rw [h.listed]
  exact List.mem_map.mpr ⟨p, hp, rfl⟩

/-- The parameters of a handler have bindings. -/
theorem exists_bindings (hrealises : s.Realises tree) :
    ∃ ids : List BindingId, params.map s.bindingOf? = ids.map some := by
  refine ⟨params.map fun p ↦ (s.bindingOf? p).getD 0, ?_⟩
  rw [List.map_map]
  refine List.map_congr_left fun p hp ↦ ?_
  obtain ⟨id, b, -, -, hid⟩ :=
    hrealises.exists_parameter h.mem h.kind (h.some_mem_params hp) (h.identifiers p hp)
  simp [hid]

end Handles

/-- A binding that has the name that is wanted for it is spelled so wherever it occurs. -/
theorem exists_named (hs : Store.analyze tree = .ok s) (hformed : tree.WellFormed)
    (hunshared : tree.Unshared) (hend : l.engine.Reachable tree s) {before : Labeling}
    {names : List String} {i : Nat} {p : Node} (hp : p ∈ tree.nodes) {id : BindingId}
    (hbound : s.bindingOf? p = some id)
    (hrole : ∀ name, names[i]? = some name →
      l.engine.store.bindings[id]?.map (·.name) = some name)
    (hkept : names[i]? = none → l.engine.store.bindings[id]?.map (·.name) =
      before.engine.store.bindings[id]?.map (·.name)) :
    ∃ b, Named tree s before l names i p id b := by
  have hcovers := Store.covers_of_analyze hs hformed hunshared
  obtain ⟨granted, hgranted⟩ := hend.grants
  obtain ⟨b, hb⟩ :=
    hend.kept.exists_binding ((Store.housed_of_analyze hs).exists_of_bindingOf? hbound)
  have hname : l.engine.store.bindings[id]?.map (·.name) = some b.name := by
    rw [hb, Option.map_some]
  have hspelled {n : Node} (hn : n ∈ tree.nodes) (hours : s.bindingOf? n = some id) :
      (l.engine.edits.apply n).head.name = some b.name :=
    (hgranted.name_apply hcovers hunshared hn hours).trans hname
  refine ⟨b,
    { bound := hbound
      binding := hb
      role := fun name hplace ↦ Option.some.inj (hname.symm.trans (hrole name hplace))
      kept := fun hnone ↦ (hkept hnone).symm.trans hname
      spelled := hspelled hp hbound
      sites := fun site hsite ↦ ?_ }⟩
  obtain ⟨first, hfirst, hsites⟩ := hend.kept.exists_sites hb
  have hmem := (hend.sound_sites id b hb site hsite).mem
  exact ⟨hmem, hspelled hmem (hcovers.bindingOf?_of_mem_sites hunshared hfirst (hsites ▸ hsite))⟩

section Handler

variable {before arrived left : Labeling} {earlier own later : List LogEntry} {registry now : Registry}
  {roles : Table String (List String)} {params : List Node} {names : List String}
  (hs : Store.analyze tree = .ok s) (hformed : tree.WellFormed) (hunshared : tree.Unshared)
  (h : Passage tree f s before arrived left l earlier own later)
  (hbefore : before.engine.Reachable tree s) (hhandles : l.Handles tree s roles f params names)

include hs hformed hunshared h hbefore hhandles

/-- When the run is at a function, it has its final name. -/
theorem Passage.exists_key : ∃ name key, identifier? (arrived.context.edits.apply f) .id = some name ∧
    name.head.name = some key ∧ roles.get? key = some names := by
  obtain ⟨name, key, hname, hkey, hnames⟩ := hhandles.named
  have hmem := Node.mem_nodes_of_mem_branches hhandles.mem (Node.mem_branches_of_child? hname)
  have hidentifier := hformed.isIdentifier_name hhandles.mem hhandles.kind hname
  have hcovers := Store.covers_of_analyze hs hformed hunshared
  obtain ⟨id, hid, hsettled⟩ := h.name_function (Store.realises_of_analyze hs hformed hunshared)
    hunshared hhandles.mem hhandles.kind hname hidentifier
  have hgrants := h.arrive.logged.preserves (Store.preserved_grants s) hbefore.grants
  obtain ⟨all, hall⟩ := h.leave.logged.preserves (Store.preserved_grants s)
    (h.ask.logged.preserves (Store.preserved_grants s) hgrants)
  obtain ⟨granted, hgranted⟩ := hgrants
  refine ⟨arrived.context.edits.apply name, key, ?_, ?_, hnames⟩
  · rw [identifier?, Edits.child?_apply _ _ (by decide), hname, Option.map_some, Option.filter_some,
      Edits.isIdentifier_apply, if_pos hidentifier]
  · rw [← hkey, hall.name_apply hcovers hunshared hmem hid, hsettled]
    exact hgranted.name_apply hcovers hunshared hmem hid

/-- A function that is named as a handler asks for the names of the handler's role. -/
theorem Passage.own_eq (hnow : registry.Later now)
    (hroles : (Issuing.parameterRoles.run now).1 = .ok roles)
    (hlater : registry.Later before.registry) {ids : List BindingId}
    (hids : params.map s.bindingOf? = ids.map some) :
    own.map (fun entry ↦ (entry.idiom, entry.request)) =
      (ids.zipWith Request.mk names).map (Idiom.handlerParameters.label, ·) := by
  have hkept := h.arrive.logged.preserves (preserved_kept s) hbefore.kept
  obtain ⟨log, hlog, hasked⟩ :=
    exists_records_visit hkept (Store.housed_of_analyze hs) f .handlerParameters
  rw [h.visit] at hlog
  obtain ⟨answer, next, hanswer⟩ := exists_answer_of_visit h.visit
  obtain ⟨name, key, hname, hkey, hnames⟩ := h.exists_key hs hformed hunshared hbefore hhandles
  have hidentifiers : ∀ param ∈ (arrived.context.edits.apply f).params,
      param.any (·.isIdentifier) = true := by
    rw [Edits.params_apply, hhandles.listed]
    simpa using hhandles.identifiers
  obtain ⟨found, hfound, hnamed⟩ := getD_of_run_handlerParameters hanswer hname hidentifiers
  have hsame : found = roles := by
    have hnew := Echoes.parameterRoles.ok_of_later (P := fun _ ↦ True) trivial hnow hroles
    have hnew' := Echoes.parameterRoles.ok_of_later (P := fun _ ↦ True) trivial
      (hlater.trans h.registry) hfound
    exact Except.ok.inj (hnew'.symm.trans hnew)
  subst hsame
  have hbindings : (arrived.context.edits.apply f).params.map
      (fun param ↦ param.bind arrived.context.store.bindingOf?) = ids.map some := by
    rw [Edits.params_apply, hhandles.listed, List.map_map, List.map_map, ← hids]
    refine List.map_congr_left fun p _ ↦ ?_
    exact bindingOf?_apply hkept p
  rw [h.ask.unique hlog, hasked answer (congrArg Prod.fst hanswer),
    hnamed names (by rw [hkey]; exact hnames), hbindings, filterMap_zip_some]

end Handler

end Labeling

/-- After a standard run the parameters of every function that is named as a handler are named as
the handler's role says, wherever they occur, and those that the role does not name are named as
they were before the pass that names parameters; unless a name was refused to one of them. -/
theorem parameters_named_of_run {tree : Node} {s : Store} {registry now : Registry}
    {roles : Table String (List String)} {l : Labeling} (hs : Store.analyze tree = .ok s)
    (hformed : tree.WellFormed) (hunshared : tree.Unshared)
    (hrun : (Labeling.start s {} registry).runPasses tree Pass.standard = (l, none))
    (hnow : registry.Later now) (hroles : (Issuing.parameterRoles.run now).1 = .ok roles) :
    ∃ before log,
      (Labeling.start s {} registry).runPasses tree
        [Pass.structural, Pass.wrappers, Pass.getters] = (before, none) ∧
      (Labeling.start s {} registry).Records l log ∧
      ∀ f params names, l.Handles tree s roles f params names →
        (∀ entry ∈ log, entry.idiom = Idiom.handlerParameters.label →
          entry.outcome = .collision → ∀ p ∈ params, s.bindingOf? p ≠ some entry.request.binding) →
        ∀ i p, params[i]? = some p → ∃ id b, Labeling.Named tree s before l names i p id b := by
  have hrealises := Store.realises_of_analyze hs hformed hunshared
  have hhoused := Store.housed_of_analyze hs
  obtain ⟨before, hbefore, hlast⟩ :
      ∃ before, (Labeling.start s {} registry).runPasses tree
        [Pass.structural, Pass.wrappers, Pass.getters] = (before, none) ∧
          before.runPasses tree [Pass.parameters] = (l, none) := by
    rw [show Pass.standard = [Pass.structural, Pass.wrappers, Pass.getters] ++ [Pass.parameters]
      from rfl, Labeling.runPasses_append] at hrun
    exact Labeling.proceed_eq_none_iff.mp hrun
  rw [Labeling.runPasses_singleton] at hlast
  have hreachable : before.engine.Reachable tree s :=
    ⟨hs, [.label registry _], congrArg (·.1.engine) hbefore.symm⟩
  have hend : l.engine.Reachable tree s := ⟨hs, [.label registry _], congrArg (·.1.engine) hrun.symm⟩
  obtain ⟨log₀, hlog₀⟩ := Labeling.exists_records_runPasses tree
    (l := Labeling.start s {} registry) (.refl s) hhoused
    [Pass.structural, Pass.wrappers, Pass.getters]
  obtain ⟨log, hlog⟩ := Labeling.exists_records_runPasses tree
    (l := Labeling.start s {} registry) (.refl s) hhoused Pass.standard
  rw [hbefore] at hlog₀
  rw [hrun] at hlog
  have hlater : registry.Later before.registry := by
    have hruns := (Labeling.start s {} registry).later_runPasses tree
      [Pass.structural, Pass.wrappers, Pass.getters]
    rwa [hbefore] at hruns
  refine ⟨before, log, hbefore, hlog, fun f params names hhandles hcollisions i p hp ↦ ?_⟩
  obtain ⟨arrived, left, earlier, own, later, hpassage⟩ := Labeling.exists_passage hformed hunshared
    hhoused hreachable.eachSite_and_justified hreachable.kept hlast hhandles.mem hhandles.kind
  obtain ⟨ids, hids⟩ := hhandles.exists_bindings hrealises
  have hown := hpassage.own_eq hs hformed hunshared hreachable hhandles hnow hroles hlater hids
  obtain ⟨id, hid, hbound⟩ : ∃ id, ids[i]? = some id ∧ some id = s.bindingOf? p := by
    have hplace := congrArg (·[i]?) hids
    simp only [List.getElem?_map, hp, Option.map_some] at hplace
    exact Option.map_eq_some_iff.mp hplace.symm
  have hlisted := hhandles.some_mem_params (List.mem_of_getElem? hp)
  have hidentifier := hhandles.identifiers p (List.mem_of_getElem? hp)
  obtain ⟨hrole, hkept⟩ := hpassage.name_cases hrealises hunshared hhandles.mem hown
    (hids ▸ hhandles.distinct).of_map hid ⟨hhandles.kind, p, hlisted, hidentifier, hbound.symm⟩
  refine ⟨id, Labeling.exists_named hs hformed hunshared hend
    (Node.mem_nodes_of_mem_branches hhandles.mem (Node.mem_items_iff.mp hlisted)) hbound.symm
    (fun name hplace ↦ ?_) hkept⟩
  rcases hrole name hplace with hgiven | ⟨entry, hentry, hidiom, hbinding, hrefused⟩
  · exact hgiven
  · have hrecorded := hlog.unique
      (hlog₀.trans (hpassage.arrive.trans (hpassage.ask.trans hpassage.leave)))
    have hmem : entry ∈ log := by simp [hrecorded, hentry]
    exact absurd (hbinding ▸ hbound.symm)
      (hcollisions entry hmem hidiom hrefused p (List.mem_of_getElem? hp))

namespace Sample

def sixParameters : List Node :=
  ["a", "b", "c", "d", "e", "g"].mapIdx fun place text ↦ name (10 + place) text

def sixParametersHandler : Node :=
  node 8 .functionDeclaration ((.id, some (name 9 "f")) ::
    (sixParameters.map fun p ↦ (.params, some p)) ++ [(.body, some (node 16 .blockStatement []))])

/-- `var m = { bake: f }; function f(a, b, c, d, e, g) { }` -/
def handlerOfSix : Node :=
  node 0 .program
    [(.body, some (.mk
      { id := ⟨1, false⟩, kind := some .variableDeclaration, variety := some "var" }
      [(.declarations, some (node 2 .variableDeclarator [(.id, some (name 3 "m")),
        (.init, some (node 4 .objectExpression [(.properties, some (.mk
          { id := ⟨5, false⟩, kind := some .property, variety := some "init" }
          [(.key, some (name 6 "bake")), (.value, some (name 7 "f"))]))]))]))])),
      (.body, some sixParametersHandler)]

theorem unshared_handlerOfSix : handlerOfSix.Unshared where
  identity := eq_of_id_eq handlerOfSix.nodes (List.range 17) rfl (by
    show ((List.range 17).map fun index ↦ (⟨index, false⟩ : NodeId)).Nodup
    decide +kernel)
  distinct := by
    show ((List.range' 1 16).map fun index ↦ (⟨index, false⟩ : NodeId)).Nodup
    decide +kernel

end Sample

/-- A handler with one parameter more than its role has names: the last one keeps its name. -/
theorem parameters_named_of_run_handlerOfSix :
    ∃ registry s l roles names before log, Sample.registry? = .ok registry ∧
      Store.analyze Sample.handlerOfSix = .ok s ∧ Sample.handlerOfSix.WellFormed ∧
      (Labeling.start s {} registry).runPasses Sample.handlerOfSix Pass.standard = (l, none) ∧
      (Issuing.parameterRoles.run registry).1 = .ok roles ∧
      (l.engine.edits.apply Sample.handlerOfSix).identifierNames =
        .ok ["___responseHandlers", "bake", "___bakeHandler", "___bakeHandler", "name", "expires",
          "value", "useDomain", "o", "g"] ∧
      (Labeling.start s {} registry).runPasses Sample.handlerOfSix
        [Pass.structural, Pass.wrappers, Pass.getters] = (before, none) ∧
      (Labeling.start s {} registry).Records l log ∧
      l.Handles Sample.handlerOfSix s roles Sample.sixParametersHandler Sample.sixParameters names ∧
      ∀ i p, Sample.sixParameters[i]? = some p →
        ∃ id b, Labeling.Named Sample.handlerOfSix s before l names i p id b := by
  have hobserved : (Sample.registry?.toOption.bind fun registry ↦
      (Store.analyze Sample.handlerOfSix).toOption.bind fun s ↦
        (Issuing.parameterRoles.run registry).1.toOption.bind fun roles ↦
          let run := (Labeling.start s {} registry).runPasses Sample.handlerOfSix Pass.standard
          (roles.get? "___bakeHandler").map fun _ ↦
            decide (run.2 = none ∧ run.1.engine.collisions = [] ∧
              (run.1.engine.edits.apply Sample.handlerOfSix).identifierNames.toOption =
                some ["___responseHandlers", "bake", "___bakeHandler", "___bakeHandler", "name",
                  "expires", "value", "useDomain", "o", "g"] ∧
              (run.1.engine.edits.apply (Sample.name 9 "f")).head.name = some "___bakeHandler" ∧
              (Sample.sixParameters.map s.bindingOf?).Nodup)) = some true := by
    simp only [Labeling.runPasses_eq_runTables, Pass.tables_standard]
    decide +kernel
  obtain ⟨registry, hregistry, hanalysed⟩ := Option.bind_eq_some_iff.mp hobserved
  obtain ⟨s, hs, hroled⟩ := Option.bind_eq_some_iff.mp hanalysed
  obtain ⟨roles, hroles, hnamed⟩ := Option.bind_eq_some_iff.mp hroled
  obtain ⟨names, hnames, hrun⟩ := Option.map_eq_some_iff.mp hnamed
  obtain ⟨hfinished, hcollisions, hspelled, hkey, hdistinct⟩ := of_decide_eq_true hrun
  rw [toOption_eq_some_iff] at hregistry hs hroles hspelled
  have hformed : Sample.handlerOfSix.WellFormed := ⟨rfl, by decide +kernel⟩
  have hreturned : (Labeling.start s {} registry).runPasses Sample.handlerOfSix Pass.standard =
      (((Labeling.start s {} registry).runPasses Sample.handlerOfSix Pass.standard).1, none) :=
    Prod.ext rfl hfinished
  obtain ⟨before, log, hbefore, hlog, hall⟩ := parameters_named_of_run hs hformed
    Sample.unshared_handlerOfSix hreturned (.refl registry) hroles
  have hhandles : Labeling.Handles Sample.handlerOfSix s _ roles Sample.sixParametersHandler
      Sample.sixParameters names :=
    { mem := Node.mem_nodes_of_mem_branches (Node.mem_nodes_self _)
        (show (Field.body, some Sample.sixParametersHandler) ∈ Sample.handlerOfSix.branches from
          List.mem_cons_of_mem _ List.mem_cons_self)
      kind := rfl
      named := ⟨Sample.name 9 "f", "___bakeHandler", rfl, hkey, hnames⟩
      listed := rfl
      identifiers := by decide
      distinct := hdistinct }
  have hnone : ∀ entry ∈ log, entry.outcome ≠ .collision := by
    have hrows := hlog.rows_eq.2
    rw [hcollisions, LogEntry.rows, eq_comm, List.map_eq_nil_iff, List.filter_eq_nil_iff] at hrows
    simpa using hrows
  exact ⟨registry, s, _, roles, names, before, log, hregistry, hs, hformed, hreturned, hroles,
    hspelled, hbefore, hlog, hhandles, hall _ _ _ hhandles fun entry hentry _ hrefused ↦
      absurd hrefused (hnone entry hentry)⟩

end Relabel
