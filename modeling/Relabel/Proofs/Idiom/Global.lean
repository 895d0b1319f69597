import Relabel.Proofs.Idiom.Innermost
import Relabel.Proofs.Idiom.Text
import Relabel.Proofs.Printing.Access

/-!
# Texts and globals

The idioms that look at text mean the globals `window` and `Date`, but a text does not show what its
names refer to. So they match wherever the names are spelled that way. Whether these are the globals
is another matter: they are where no scope around them binds the name, and elsewhere they belong to
a variable of the program.
-/

namespace Relabel

namespace Lexical

variable {tree : Node}

/-- An identifier that is evaluated is found as a reference. -/
theorem mem_references_of_reaches {c : Standing} {n : Node}
    (hreaches : (top tree).Reaches tree c n) (hidentifier : n.isIdentifier = true)
    (huse : c.use = .plain) : c.occurrence n ∈ references tree := by
  have hown : Mark.referred (c.occurrence n) ∈ c.marks n := by
    rw [Standing.marks_eq]
    refine List.mem_append_left _ ?_
    simp [Standing.own, hidentifier, huse]
  exact List.mem_filterMap.mpr ⟨_, List.mem_cons_of_mem _ (hreaches.mem_marks hown), rfl⟩

/-- A name that something is read off refers to a variable. -/
theorem exists_reference_of_object {n object : Node} (hn : n ∈ tree.nodes)
    (hkind : n.kind = some .memberExpression) (hobject : n.child? .object = some object)
    (hidentifier : object.isIdentifier = true) :
    ∃ o ∈ references tree, o.identifier = object := by
  obtain ⟨c, hreaches⟩ := Standing.exists_reaches hn (top tree)
  have huse : (c.below n .object object).use = .plain := by
    simp [Standing.below, Standing.useUnder, Standing.isPart, Task.isPropertyName, hkind]
  have hchild := hreaches.child (Node.mem_branches_of_child? hobject)
  exact ⟨_, mem_references_of_reaches hchild hidentifier huse, rfl⟩

end Lexical

namespace Store.Realises

variable {s : Store} {tree : Node} {o : Occurrence} (h : s.Realises tree)

include h

/-- A reference whose name a scope around it binds belongs to a binding. -/
theorem exists_binding_of_binder (ho : o ∈ Lexical.references tree) {scope : Opening}
    (hbinder : Lexical.binder? tree o = some scope) : ∃ (id : BindingId) (b : Binding),
      s.bindings[id]? = some b ∧ ∃ site ∈ b.references, site.identifier = o.identifier := by
  have hbinds := List.find?_some hbinder
  obtain ⟨d, hd, hmatch⟩ := List.any_eq_true.mp hbinds
  simp only [Bool.and_eq_true, beq_iff_eq] at hmatch
  obtain ⟨id, b, hb, hopening, hname⟩ := h.declared d hd
  obtain ⟨own, hgroups⟩ := h.bindings id b hb
  have hown : own = scope := by
    have hsame := hgroups.opening.symm.trans (hopening.trans hmatch.1)
    exact Option.some.inj hsame
  have hmem : o ∈ b.references.map (Site.occurrence s.numbering) := by
    refine hgroups.references.mem_iff.mpr (List.mem_filter.mpr ⟨ho, decide_eq_true ⟨?_, ?_⟩⟩)
    · rw [hname, hmatch.2]
    · rw [hbinder, hown]
  obtain ⟨site, hsite, hoccurrence⟩ := List.mem_map.mp hmem
  exact ⟨id, b, hb, site, hsite, congrArg Occurrence.identifier hoccurrence⟩

/-- A reference is free just if no scope around it binds its name. -/
theorem isFree_iff_binder? (hs : analyze tree = .ok s) (hnodup : tree.variableIds.Nodup)
    (hidentifier : o.identifier.isIdentifier = true) (ho : o ∈ Lexical.references tree) :
    s.isFree o.identifier = true ↔ Lexical.binder? tree o = none := by
  rw [isFree, hidentifier, Bool.true_and, List.contains_iff_mem]
  constructor
  · intro hfree
    rw [Option.eq_none_iff_forall_ne_some]
    intro scope hbinder
    obtain ⟨id, b, hb, site, hsite, hsame⟩ := h.exists_binding_of_binder ho hbinder
    have howner := h.owner id b hb site (List.mem_append_right _ hsite)
    rw [hsame, bindingOf?, if_pos hidentifier, owner_eq_none_of_free hs hnodup hfree] at howner
    exact absurd howner (by simp)
  · intro hunbound
    rw [h.free.mem_iff]
    exact List.mem_map.mpr ⟨o, List.mem_filter.mpr ⟨ho, decide_eq_true hunbound⟩, rfl⟩

end Store.Realises

theorem Recognition.Context.Renamed.isFree_apply {tree : Node} {s : Store} {c : Context}
    (h : c.Renamed tree s) (m : Node) : c.store.isFree (c.edits.apply m) = s.isFree m := by
  rw [Store.isFree, Store.isFree, Edits.isIdentifier_apply, Edits.id_apply, h.free]

namespace Engine.Reachable

variable {tree : Node} {s : Store} {engine : Engine} (h : engine.Reachable tree s)
  (hformed : tree.WellFormed) (hunshared : tree.Unshared) (hkeys : tree.KeysApart)
  {o : Occurrence} (ho : o ∈ Lexical.references tree) {word : String}
  (hword : (engine.edits.apply o.identifier).isNamed word = true)

include h hformed hunshared hkeys ho hword

/-- A reference that is spelled as a word after renames is a global just if it was spelled that way
from the start and no scope around it binds the word. -/
theorem isFree_iff : engine.store.isFree (engine.edits.apply o.identifier) = true ↔
    o.name = word ∧ ∀ scope ∈ o.scopes, Lexical.binds tree word scope = false := by
  have hrealises := Store.realises_of_analyze h.analyze hformed hunshared
  have hrenamed := h.renamed hunshared hkeys
  obtain ⟨hmem, hidentifier⟩ :=
    Lexical.identifier_mem_nodes hformed (Lexical.mem_occurrences_of_reference ho)
  have hfree := hrealises.isFree_iff_binder? h.analyze
    (hunshared.nodup_variableIds hkeys.namesKeys) hidentifier ho
  rw [hrenamed.isFree_apply, hfree]
  constructor
  · intro hunbound
    have hname : o.name = word := by
      have hlisted := hfree.mpr hunbound
      rw [Store.isFree, Bool.and_eq_true, List.contains_iff_mem] at hlisted
      have hkept := hrenamed.unbound _ hmem hlisted.2
      rw [Node.isNamed_iff, Edits.head_apply] at hword
      rw [Occurrence.name, ← hkept]
      exact congrArg (·.getD "") hword.2
    refine ⟨hname, fun scope hscope ↦ ?_⟩
    rw [Lexical.binder?, hname] at hunbound
    simpa using List.find?_eq_none.mp hunbound scope hscope
  · rintro ⟨rfl, hbinds⟩
    exact List.find?_eq_none.mpr fun scope hscope ↦ by simp [hbinds scope hscope]

/-- A reference that is no global belongs to a variable, which is called as it is spelled. -/
theorem exists_binding_of_not_isFree
    (hbound : engine.store.isFree (engine.edits.apply o.identifier) = false) :
    ∃ (id : BindingId) (b : Binding),
      engine.store.bindingOf? (engine.edits.apply o.identifier) = some id ∧
        engine.store.bindings[id]? = some b ∧ b.name = word := by
  have hrealises := Store.realises_of_analyze h.analyze hformed hunshared
  have hrenamed := h.renamed hunshared hkeys
  have hnodup := hunshared.nodup_variableIds hkeys.namesKeys
  have hidentifier :=
    (Lexical.identifier_mem_nodes hformed (Lexical.mem_occurrences_of_reference ho)).2
  obtain ⟨scope, hbinder⟩ : ∃ scope, Lexical.binder? tree o = some scope := by
    rw [← Option.ne_none_iff_exists']
    intro hunbound
    rw [← hrealises.isFree_iff_binder? h.analyze hnodup hidentifier ho, ← hrenamed.isFree_apply,
      hbound] at hunbound
    exact absurd hunbound (by simp)
  obtain ⟨id, old, hold, site, hsite, hsame⟩ := hrealises.exists_binding_of_binder ho hbinder
  have howner := hrealises.owner id old hold site (List.mem_append_right _ hsite)
  obtain ⟨b, hb⟩ := h.kept.exists_binding ⟨old, hold⟩
  obtain ⟨old', hold', hsites⟩ := h.kept.exists_sites hb
  obtain rfl : old = old' := Option.some.inj (hold.symm.trans hold')
  have hspelled := (h.tracks hnodup).spelled id b hb site (hsites ▸ List.mem_append_right _ hsite)
  refine ⟨id, b, ?_, hb, ?_⟩
  · rw [hrenamed.bindingOf?_apply, ← hsame]
    exact howner
  · rw [Node.isNamed_iff, Edits.head_apply] at hword
    rw [← hspelled, Site.spelling, hsame]
    exact congrArg (·.getD "") hword.2

end Engine.Reachable

namespace Recognition

/-- What an idiom that looks at text is meant for, with the names in it that are to be globals. -/
inductive Canonical : Idiom → Node → List Node → Prop
  /-- The statement `return window.atob;`. -/
  | guardedReturn {n access window : Node} (isPlain : n.IsPlain .returnStatement)
      (argument : n.child? .argument = some access)
      (path : Node.Path window access "window.atob") : Canonical .guardedInvoker n [window]
  /-- The choice of `window.performance.now()`, if that is there, before `Date.now()`. -/
  | timer {n test left right precise callee coarse callee' first second third date : Node}
      (choice : n.Chooses test precise coarse) (condition : test.Conjoins left right)
      (left : Node.Path first left "window.performance")
      (right : Node.Path second right "window.performance.now")
      (precise : precise.Invokes callee) (callee : Node.Path third callee "window.performance.now")
      (coarse : coarse.Invokes callee') (callee' : Node.Path date callee' "Date.now") :
      Canonical .performanceNow n [first, second, third, date]

namespace Canonical

open Printing

theorem render_guardedReturn {n access window : Node} (hn : n.IsPlain .returnStatement)
    (hargument : n.child? .argument = some access)
    (hpath : Node.Path window access "window.atob") :
    n.render = .ok Recognition.guardedReturn := by
  obtain ⟨hprints, hkind, -⟩ := prints_of_path hpath
  have hstatement : n.render = returnStatement (partsOf n) 0 := by
    unfold Node.render
    rw [hn.kind_eq, rendering_eq]
    dsimp only
    unfold statement
    rw [show (partsOf n).node.kind = some .returnStatement from hn.kind_eq]
    rfl
  rw [hstatement]
  refine bind_eq_ok_iff.mpr ⟨_, child?_partsOf hn (by decide) hargument hkind 0, ?_⟩
  refine bind_eq_ok_iff.mpr ⟨_, hprints {} (Nat.zero_le _) rfl rfl 0, ?_⟩
  exact congrArg Except.ok (by decide +kernel)

theorem render_timer {n test precise coarse left right callee callee' : Node}
    {first second third date : Node}
    (hn : n.Chooses test precise coarse) (htest : test.Conjoins left right)
    (hleft : Node.Path first left "window.performance")
    (hright : Node.Path second right "window.performance.now")
    (hprecise : precise.Invokes callee) (hcallee : Node.Path third callee "window.performance.now")
    (hcoarse : coarse.Invokes callee') (hcallee' : Node.Path date callee' "Date.now") :
    n.render = .ok timerExpression := by
  obtain ⟨hleft, hleftKind, -⟩ := prints_of_path hleft
  obtain ⟨hright, hrightKind, -⟩ := prints_of_path hright
  obtain ⟨hcallee, hcalleeKind, -⟩ := prints_of_path hcallee
  obtain ⟨hcallee', hcalleeKind', -⟩ := prints_of_path hcallee'
  have hprints := prints_choice hn
    (prints_conjunction htest hleft hright hleftKind hrightKind)
    (prints_invocation hprecise hcallee hcalleeKind)
    (prints_invocation hcoarse hcallee' hcalleeKind')
    (isSome_kind htest.isPlain.kind_eq) (isSome_kind hprecise.isPlain.kind_eq)
    (isSome_kind hcoarse.isPlain.kind_eq)
  have hexpression : n.render = (Node.fold rendering n).expression {} 0 := by
    unfold Node.render
    rw [hn.isPlain.kind_eq]
    rfl
  rw [hexpression, hprints {} (Nat.zero_le _) rfl rfl 0]
  exact congrArg Except.ok (by decide +kernel)

/-- An idiom is given the text that it compares with, whatever the names in it refer to. -/
theorem render_eq {idiom : Idiom} {n m : Node} {globals : List Node} (h : Canonical idiom n globals)
    {x : Comparison} (hx : idiom.comparison? m = some x) : n.render = .ok x.text := by
  cases h with
  | guardedReturn hn hargument hpath =>
    rw [(shown_of_invoked? m.mem_nodes_self hx).2]
    exact render_guardedReturn hn hargument hpath
  | timer hn htest hleft hright hprecise hcallee hcoarse hcallee' =>
    rw [(shown_of_timed? m.mem_nodes_self hx).2]
    exact render_timer hn htest hleft hright hprecise hcallee hcoarse hcallee'

/-- Something is read off each of the names that are to be globals. -/
theorem exists_access {idiom : Idiom} {n : Node} {globals : List Node}
    (h : Canonical idiom n globals) : ∀ g ∈ globals, g.isIdentifier = true ∧
      ∃ m ∈ n.nodes, m.kind = some .memberExpression ∧ m.child? .object = some g := by
  have hinside {part g : Node} {text : String} (hpart : part ∈ n.nodes)
      (hpath : Node.Path g part text) (htext : Text.isWord text.toList = false) :
      g.isIdentifier = true ∧
        ∃ m ∈ n.nodes, m.kind = some .memberExpression ∧ m.child? .object = some g := by
    refine ⟨hpath.isIdentifier, ?_⟩
    rcases hpath.exists_access with ⟨-, hword⟩ | ⟨m, hm, hm'⟩
    · exact absurd hword (by simp [htext])
    · exact ⟨m, Node.mem_nodes_trans hpart hm, hm'⟩
  have hbelow {part child : Node} {field : Field} (hpart : part ∈ n.nodes)
      (hchild : part.child? field = some child) : child ∈ n.nodes :=
    Node.mem_nodes_of_mem_branches hpart (Node.mem_branches_of_child? hchild)
  cases h with
  | guardedReturn hn hargument hpath =>
    rintro g hg
    obtain rfl := List.mem_singleton.mp hg
    exact hinside (hbelow n.mem_nodes_self hargument) hpath (by decide +kernel)
  | timer hn htest hleft hright hprecise hcallee hcoarse hcallee' =>
    have htestMem := hbelow n.mem_nodes_self hn.test
    have hpreciseMem := hbelow n.mem_nodes_self hn.consequent
    have hcoarseMem := hbelow n.mem_nodes_self hn.alternate
    simp only [List.forall_mem_cons, List.not_mem_nil, false_imp_iff, implies_true, and_true]
    exact ⟨hinside (hbelow htestMem htest.left) hleft (by decide +kernel),
      hinside (hbelow htestMem htest.right) hright (by decide +kernel),
      hinside (hbelow hpreciseMem hprecise.callee) hcallee (by decide +kernel),
      hinside (hbelow hcoarseMem hcoarse.callee) hcallee' (by decide +kernel)⟩

end Canonical

end Recognition

/-! ## Matches -/

open Recognition

/-- An idiom matches a node in a state of the engine. -/
def Engine.Matches (engine : Engine) (registry : Registry) (idiom : Idiom) (n : Node) : Prop :=
  ∃ requests, ((idiom.recognise ⟨engine.store, engine.edits⟩ (engine.edits.apply n)).run
    registry).1 = .ok (some requests)

/-- The identifier that a match asks a name for has a binding. -/
theorem Idiom.exists_binding_of_comparison? {tree n : Node} {s : Store} (h : s.Realises tree)
    (hformed : tree.WellFormed) (hunshared : tree.Unshared) {idiom : Idiom} (hn : n ∈ tree.nodes)
    (hkind : n.kind = some idiom.kind) {x : Comparison} (hx : idiom.comparison? n = some x) :
    ∃ b, s.bindingOf? x.id = some b := by
  cases idiom with
  | guardedInvoker =>
    change invoked? n = some x at hx
    unfold invoked? at hx
    split at hx
    · rename_i declarator hitems
      simp only [Option.bind_eq_bind, Option.bind_eq_some_iff] at hx
      obtain ⟨_, -, init, -, id, hid, callee, -, only, -, hmade⟩ := hx
      obtain rfl := Option.some.inj hmade
      have hitem : some declarator ∈ n.items .declarations := hitems ▸ List.mem_singleton_self _
      have hadmits := Node.admits_of_isShaped (hformed.shaped n hn) (Node.mem_items_iff.mp hitem)
      have hdeclarator : declarator.kind = some .variableDeclarator := by
        simpa [Node.admits, hkind, Idiom.kind, Node.hasKind] using hadmits
      obtain ⟨hname, hidentifier⟩ := Option.filter_eq_some_iff.mp hid
      exact h.exists_binding_of_declares ⟨⟨n, hn, hkind, hitem⟩, hdeclarator, hname, hidentifier⟩
    · simp at hx
  | performanceNow =>
    change timed? n = some x at hx
    unfold timed? at hx
    simp only [Option.bind_eq_bind, Option.bind_eq_some_iff] at hx
    obtain ⟨id, hid, _, -, argument, -, hmade⟩ := hx
    obtain rfl := Option.some.inj hmade
    exact h.exists_binding_of_namesFunction hformed hunshared
      ⟨hn, hkind, (Option.filter_eq_some_iff.mp hid).1⟩
  | _ => simp [Idiom.comparison?] at hx

namespace Engine.Reachable

variable {tree n : Node} {s : Store} {engine : Engine} (h : engine.Reachable tree s)
  (hunshared : tree.Unshared) (hkeys : tree.KeysApart)

include h hunshared hkeys

/-- An idiom that looks at text matches a node of its kind just if the part that it compares has its
text by then. -/
theorem matches_iff (hformed : tree.WellFormed) {idiom : Idiom} (hidiom : idiom ∈ Idiom.textBased)
    (hn : n ∈ tree.nodes) (hkind : n.kind = some idiom.kind) (registry : Registry) :
    engine.Matches registry idiom n ↔ ∃ x, idiom.comparison? n = some x ∧
      (engine.edits.apply x.shown).render = .ok x.text := by
  unfold Engine.Matches
  rw [Idiom.recognise_of_textBased hidiom, Idiom.comparison?_apply]
  cases hx : idiom.comparison? n with
  | none =>
    refine iff_of_false ?_ (by simp)
    rintro ⟨requests, hfound⟩
    exact absurd (Except.ok.inj hfound) (by simp)
  | some x =>
    have hrealises := Store.realises_of_analyze h.analyze hformed hunshared
    obtain ⟨b, hb⟩ := Idiom.exists_binding_of_comparison? hrealises hformed hunshared hn hkind hx
    have hbinding := ((h.renamed hunshared hkeys).bindingOf?_apply x.id).trans hb
    simp only [Option.map_some, Comparison.run_answer, Comparison.edited, hbinding,
      Option.some.injEq, exists_eq_left']
    cases (engine.edits.apply x.shown).render with
    | error reason => simp
    | ok text =>
      by_cases htext : text = x.text
      · simp [htext, requests]
      · simp [htext]

/-- A name that something is read off in an edited part of a program is a reference. -/
theorem exists_reference {m g : Node} (hn : n ∈ tree.nodes)
    (hm : m ∈ (engine.edits.apply n).nodes) (hkind : m.kind = some .memberExpression)
    (hobject : m.child? .object = some g) (hidentifier : g.isIdentifier = true) :
    ∃ o ∈ Lexical.references tree, o.identifier ∈ n.nodes ∧
      engine.edits.apply o.identifier = g := by
  have hkeeps := (h.renamed hunshared hkeys).keepsKey
  rw [Edits.nodes_apply fun m hm ↦ hkeeps m (Node.mem_nodes_trans hn hm)] at hm
  obtain ⟨access, haccess, rfl⟩ := List.mem_map.mp hm
  rw [Edits.child?_apply _ _ (by decide)] at hobject
  obtain ⟨object, hchild, rfl⟩ := Option.map_eq_some_iff.mp hobject
  rw [Edits.kind_apply] at hkind
  rw [Edits.isIdentifier_apply] at hidentifier
  obtain ⟨o, ho, rfl⟩ := Lexical.exists_reference_of_object (Node.mem_nodes_trans hn haccess)
    hkind hchild hidentifier
  exact ⟨o, ho, Node.mem_nodes_of_mem_branches haccess (Node.mem_branches_of_child? hchild), rfl⟩

end Engine.Reachable

/-- An idiom that looks at text goes by the text alone, and takes no notice of scopes. In every
state that renames lead to, it matches a node of its kind just if the part that it compares is
printed as its text. So it always matches what the text is written for, where the names that are
meant as globals are references of the program. A reference in the compared part that is spelled as
some word is a global just if it was spelled that way from the start and no scope around it binds
the word, and belongs to a variable that is called by the word if not. -/
theorem matches_iff_spelled {tree n : Node} {s : Store} {engine : Engine} {idiom : Idiom}
    (hformed : tree.WellFormed) (hunshared : tree.Unshared) (hkeys : tree.KeysApart)
    (h : engine.Reachable tree s) (hidiom : idiom ∈ Idiom.textBased) (hn : n ∈ tree.nodes)
    (hkind : n.kind = some idiom.kind) (registry : Registry) :
    (engine.Matches registry idiom n ↔ ∃ x, idiom.comparison? n = some x ∧
      (engine.edits.apply x.shown).render = .ok x.text) ∧
    ∀ x, idiom.comparison? n = some x →
      (∀ globals, Canonical idiom (engine.edits.apply x.shown) globals →
        engine.Matches registry idiom n ∧ ∀ g ∈ globals, ∃ o ∈ Lexical.references tree,
          o.identifier ∈ x.shown.nodes ∧ engine.edits.apply o.identifier = g) ∧
      ∀ o ∈ Lexical.references tree, o.identifier ∈ x.shown.nodes → ∀ word,
        (engine.edits.apply o.identifier).isNamed word = true →
          (engine.store.isFree (engine.edits.apply o.identifier) = true ↔
            o.name = word ∧ ∀ scope ∈ o.scopes, Lexical.binds tree word scope = false) ∧
          (engine.store.isFree (engine.edits.apply o.identifier) = false →
            ∃ (id : BindingId) (b : Binding),
              engine.store.bindingOf? (engine.edits.apply o.identifier) = some id ∧
                engine.store.bindings[id]? = some b ∧ b.name = word) := by
  have hmatches := h.matches_iff hunshared hkeys hformed hidiom hn hkind registry
  refine ⟨hmatches, fun x hx ↦ ⟨fun globals hcanonical ↦ ⟨?_, fun g hg ↦ ?_⟩, ?_⟩⟩
  · exact hmatches.mpr ⟨x, hx, hcanonical.render_eq hx⟩
  · obtain ⟨hidentifier, m, hm, hmkind, hobject⟩ := hcanonical.exists_access g hg
    exact h.exists_reference hunshared hkeys (Idiom.shown_of_comparison? hn hx).1 hm hmkind
      hobject hidentifier
  · exact fun o ho _ word hword ↦ ⟨h.isFree_iff hformed hunshared hkeys ho hword,
      h.exists_binding_of_not_isFree hformed hunshared hkeys ho hword⟩

namespace Sample

/-- `return window.atob;` -/
def fetch (first : Nat) : Node :=
  node first .returnStatement [(.argument, some (node (first + 1) .memberExpression
    [(.object, some (name (first + 2) "window")), (.property, some (name (first + 3) "atob"))]))]

/-- `var g = (function () { try { return window.atob; } catch (e) { } })();` -/
def invocation (first : Nat) : Node :=
  .mk { id := ⟨first, false⟩, kind := some .variableDeclaration, variety := some "var" }
    [(.declarations, some (node (first + 1) .variableDeclarator
      [(.id, some (name (first + 2) "g")),
        (.init, some (node (first + 3) .callExpression
          [(.callee, some (node (first + 4) .functionExpression
            [(.body, some (node (first + 5) .blockStatement
              [(.body, some (node (first + 6) .tryStatement
                [(.block, some (node (first + 7) .blockStatement
                  [(.body, some (fetch (first + 8)))])),
                  (.handler, some (node (first + 12) .catchClause
                    [(.param, some (name (first + 13) "e")),
                      (.body, some (node (first + 14) .blockStatement []))]))]))]))]))]))]))]

/-- Two invokers, the second one in a function with a parameter `window`. -/
def shadowing : Node :=
  node 0 .program [(.body, some (invocation 1)), (.body, some (node 16 .functionDeclaration
    [(.id, some (name 17 "f")), (.params, some (name 18 "window")),
      (.body, some (node 19 .blockStatement [(.body, some (invocation 20))]))]))]

theorem canonical_fetch (first : Nat) :
    Canonical .guardedInvoker (fetch first) [name (first + 2) "window"] := by
  have hwords : Text.isWord "window".toList = true ∧ Text.isWord "atob".toList = true := by
    decide +kernel
  exact .guardedReturn ⟨rfl, rfl⟩ rfl
    (.access (.name rfl hwords.1) ⟨⟨rfl, rfl⟩, rfl, rfl, rfl, rfl⟩ hwords.2)

end Sample

/-- An invoker matches, also after its variable was renamed, and its `window` is the global one. -/
theorem matches_iff_spelled_shadowing :
    ∃ s, Store.analyze Sample.shadowing = .ok s ∧ Sample.shadowing.WellFormed ∧
      Sample.shadowing.Unshared ∧ Sample.shadowing.KeysApart ∧
      (let registry : Registry := ⟨"___", Role.defaultDescriptor, [], {}⟩
      let engine := ({ store := s } : Engine).calls Sample.shadowing [.rename 0 "z"]
      engine.Matches registry .guardedInvoker (Sample.invocation 1) ∧
        engine.store.isFree (engine.edits.apply (Sample.name 11 "window")) = true) := by
  let x : Comparison := ⟨Sample.name 3 "g", Sample.fetch 9, guardedReturn, .atobCall⟩
  have hobserved : ((Store.analyze Sample.shadowing).toOption.map fun s ↦
      let engine := ({ store := s } : Engine).calls Sample.shadowing [.rename 0 "z"]
      ((engine.edits.apply x.shown).render.toOption,
        (engine.edits.apply (Sample.name 11 "window")).isNamed "window")) =
      some (some x.text, true) := by
    decide +kernel
  obtain ⟨s, hs, hseen⟩ := Option.map_eq_some_iff.mp hobserved
  rw [toOption_eq_some_iff] at hs
  obtain ⟨hrender, hnamed⟩ := Prod.mk.inj hseen
  have hformed : Sample.shadowing.WellFormed := ⟨rfl, by decide +kernel⟩
  have hunshared : Sample.shadowing.Unshared := Node.unshared_of_nodup (by decide +kernel)
  have hkeys : Sample.shadowing.KeysApart := by decide +kernel
  have hmem : Sample.invocation 1 ∈ Sample.shadowing.nodes := List.mem_of_getElem? (i := 1) rfl
  obtain ⟨hmatches, hmeans⟩ := matches_iff_spelled hformed hunshared hkeys
    ⟨hs, [.rename 0 "z"], rfl⟩ (show Idiom.guardedInvoker ∈ Idiom.textBased by decide) hmem rfl
    ⟨"___", Role.defaultDescriptor, [], {}⟩
  obtain ⟨o, ho, hidentifier, hscopes⟩ : ∃ o ∈ Lexical.references Sample.shadowing,
      o.identifier = Sample.name 11 "window" ∧ ∀ scope ∈ o.scopes,
        Lexical.binds Sample.shadowing "window" scope = false :=
    ⟨_, List.mem_of_getElem? (i := 0) rfl, rfl, by decide +kernel⟩
  have hshown : o.identifier ∈ x.shown.nodes := by
    rw [hidentifier]
    exact List.mem_of_getElem? (i := 2) rfl
  refine ⟨s, hs, hformed, hunshared, hkeys,
    hmatches.mpr ⟨x, rfl, toOption_eq_some_iff.mp hrender⟩, ?_⟩
  rw [← hidentifier] at hnamed ⊢
  refine (((hmeans x rfl).2 o ho hshown "window" hnamed).1).mpr ⟨?_, hscopes⟩
  rw [Occurrence.name, hidentifier]
  rfl

/-- An invoker matches although its `window` is a parameter of the function around it. -/
theorem matches_if_shadowed :
    ∃ s, Store.analyze Sample.shadowing = .ok s ∧
      ({ store := s } : Engine).Matches ⟨"___", Role.defaultDescriptor, [], {}⟩ .guardedInvoker
        (Sample.invocation 20) ∧
      (invoked? (Sample.invocation 20)).map (·.shown) = some (Sample.fetch 28) ∧
      Canonical .guardedInvoker (Sample.fetch 28) [Sample.name 30 "window"] ∧
      s.isFree (Sample.name 30 "window") = false ∧
      ∃ id b, s.bindingOf? (Sample.name 30 "window") = some id ∧ s.bindings[id]? = some b ∧
        b.name = "window" ∧ b.kind = .parameter := by
  have hobserved : ((Store.analyze Sample.shadowing).toOption.map fun s ↦
      ((Idiom.guardedInvoker.recognise ⟨s, {}⟩ (({} : Edits).apply (Sample.invocation 20))).run
          ⟨"___", Role.defaultDescriptor, [], {}⟩).1.toOption.join.isSome &&
        !s.isFree (Sample.name 30 "window") &&
        (s.bindingOf? (Sample.name 30 "window")).any fun id ↦
          s.bindings[id]?.any fun b ↦ b.name == "window" && b.kind == .parameter) =
      some true := by
    decide +kernel
  obtain ⟨s, hs, hseen⟩ := Option.map_eq_some_iff.mp hobserved
  simp only [Bool.and_eq_true, Bool.not_eq_true', Option.any_eq_true, beq_iff_eq] at hseen
  obtain ⟨⟨hfound, hbound⟩, id, hid, b, hb, hname, hparameter⟩ := hseen
  obtain ⟨requests, hrequests⟩ := Option.isSome_iff_exists.mp hfound
  refine ⟨s, toOption_eq_some_iff.mp hs, ⟨requests, ?_⟩, rfl, Sample.canonical_fetch 28, hbound,
    id, b, hid, hb, hname, hparameter⟩
  exact toOption_eq_some_iff.mp (Option.join_eq_some_iff.mp hrequests)

end Relabel
