import Relabel.Proofs.Scope.Pattern

/-!
# What working off a task can do

A task either stays in its scope or opens one scope inside it. All it states, and all that it leaves
to be done, stands at its own place or at the place inside, concerns nodes of the tree, and carries
along only shorthand properties whose value it is about. This is said once, for every kind of node;
the properties of whole analyses follow from it.
-/

namespace Relabel

/-- The scopes that take what is declared with `var` inside them. -/
def ScopeType.takesVariables : ScopeType → Bool
  | program | function => true
  | _ => false

namespace Node

/-- A property of nodes that passes from a node to its children. -/
def Hereditary (R : Node → Prop) : Prop :=
  ∀ n field child, R n → (field, some child) ∈ n.branches → R child

theorem hereditary_mem_nodes (tree : Node) : Hereditary (· ∈ tree.nodes) :=
  fun _ _ _ hn hchild ↦ mem_nodes_of_mem_branches hn hchild

/-- The nodes that a property has as its value: the value itself, or the target of a value with a
default. -/
inductive Carries (property : Node) : Node → Prop
  | value {n : Node} : property.child? .value = some n → Carries property n
  | target {n inner : Node} : Carries property n → n.kind = some .assignmentPattern →
    n.child? .left = some inner → Carries property inner

/-- The shorthand property noted for a node has the node as its value. -/
def Owned (R : Node → Prop) (owner : Option Node) (n : Node) : Prop :=
  ∀ property, owner = some property →
    R property ∧ property.head.shorthand = true ∧ property.Carries n

theorem owned_none (R : Node → Prop) (n : Node) : Owned R none n :=
  fun _ hproperty ↦ absurd hproperty (by simp)

theorem Owned.target {R : Node → Prop} {owner : Option Node} {n inner : Node} (h : Owned R owner n)
    (hkind : n.kind = some .assignmentPattern) (hinner : n.child? .left = some inner) :
    Owned R owner inner := by
  intro property hproperty
  obtain ⟨hmem, hshorthand, hcarries⟩ := h property hproperty
  exact ⟨hmem, hshorthand, .target hcarries hkind hinner⟩

theorem owned_value {R : Node → Prop} {property n : Node} (hR : R property)
    (hn : property.child? .value = some n) :
    Owned R (if property.head.shorthand then some property else none) n := by
  intro other hother
  by_cases hshorthand : property.head.shorthand = true
  · rw [if_pos hshorthand] at hother
    obtain rfl := Option.some.inj hother
    exact ⟨hR, hshorthand, .value hn⟩
  · rw [if_neg hshorthand] at hother
    exact absurd hother (by simp)

end Node

/-- A site is an identifier of the tree, and its shorthand property has it as value. -/
structure Site.Sound (R : Node → Prop) (site : Site) : Prop where
  isIdentifier : site.identifier.isIdentifier = true
  mem : R site.identifier
  owned : Node.Owned R site.owner site.identifier

/-- A fact that opens no scope and speaks of what is at a place. -/
def Fact.StandsAt (R : Node → Prop) (place : Place) : Fact → Prop
  | opened .. => False
  | placed _ scope => scope = place.scope
  | declared target _ site =>
    (target = place.scope ∨ target = place.hoist ∨ target = 0) ∧ site.scope = place.scope ∧
      site.Sound R ∧ R site.parent
  | referred site => site.scope = place.scope ∧ site.Sound R

structure Task.StandsAt (R : Node → Prop) (place : Place) (t : Task) : Prop where
  place_eq : t.place = place
  mem : R t.node
  owned : Node.Owned R t.owner t.node

structure Declared.StandsAt (R : Node → Prop) (place : Place) (d : Declared) : Prop where
  facts : ∀ fact ∈ d.facts, fact.StandsAt R place
  deferred : ∀ t ∈ d.deferred, t.StandsAt R place

section

variable {R : Node → Prop} {place : Place}

namespace Declared

theorem standsAt_empty : ({} : Declared).StandsAt R place where
  facts := by simp
  deferred := by simp

theorem StandsAt.append {a b : Declared} (ha : a.StandsAt R place) (hb : b.StandsAt R place) :
    (a ++ b).StandsAt R place where
  facts fact hfact := by
    rcases List.mem_append.mp hfact with hfact | hfact
    · exact ha.facts fact hfact
    · exact hb.facts fact hfact
  deferred t ht := by
    rcases List.mem_append.mp ht with ht | ht
    · exact ha.deferred t ht
    · exact hb.deferred t ht

theorem standsAt_placed (n : Node) :
    (⟨[.placed n.id place.scope], []⟩ : Declared).StandsAt R place where
  facts := by simp [Fact.StandsAt]
  deferred := by simp

end Declared

namespace Declaring

variable {d : Declaring}

/-- The scope that takes the names lies around the place of the pattern. -/
def Aims (d : Declaring) : Prop :=
  d.target = d.place.scope ∨ d.target = d.place.hoist ∨ d.target = 0

theorem standsAt_identifier (haims : d.Aims) {n parent : Node} (hparent : R parent)
    {owner : Option Node} (hidentifier : n.isIdentifier = true) (hn : R n)
    (howned : Node.Owned R owner n) :
    (d.identifier n parent owner).StandsAt R d.place where
  facts fact hfact := by
    rcases List.mem_cons.mp hfact with rfl | hfact
    · exact rfl
    · obtain rfl := List.mem_singleton.mp hfact
      exact ⟨haims, rfl, ⟨hidentifier, hn, howned⟩, hparent⟩
  deferred := by simp [identifier]

theorem standsAt_defer {n : Node} (hn : R n) (parent : Node) (field : Field) :
    (d.defer n parent field).StandsAt R d.place where
  facts := by simp [defer]
  deferred t ht := by
    obtain rfl := List.mem_singleton.mp ht
    exact ⟨rfl, hn, Node.owned_none R n⟩

theorem standsAt_later (hR : Node.Hereditary R) {parent : Node} (hparent : R parent)
    (field : Field) : (d.later parent field).StandsAt R d.place := by
  unfold later
  cases hchild : parent.child? field with
  | none => exact Declared.standsAt_empty
  | some child =>
    exact standsAt_defer (hR parent field child hparent (Node.mem_branches_of_child? hchild)) _ _

theorem standsAt_patterns {parent : Node} {items : List (Option Node)}
    (h : ∀ n, some n ∈ items → (d.pattern parent none n).StandsAt R d.place) :
    (d.patterns parent items).StandsAt R d.place := by
  induction items with
  | nil => exact Declared.standsAt_empty
  | cons item rest ih =>
    have hrest := ih fun n hn ↦ h n (List.mem_cons_of_mem item hn)
    cases item with
    | none => exact hrest
    | some n => exact (h n List.mem_cons_self).append hrest

theorem standsAt_propertyList {items : List (Option Node)}
    (h : ∀ n, some n ∈ items → (d.property n).StandsAt R d.place) :
    (d.propertyList items).StandsAt R d.place := by
  induction items with
  | nil => exact Declared.standsAt_empty
  | cons item rest ih =>
    have hrest := ih fun n hn ↦ h n (List.mem_cons_of_mem item hn)
    cases item with
    | none => exact hrest
    | some n => exact (h n List.mem_cons_self).append hrest

theorem standsAt_part {parent : Node} {owner : Option Node} {field : Field}
    (h : ∀ n, parent.child? field = some n → (d.pattern parent owner n).StandsAt R d.place) :
    (d.part parent owner field).StandsAt R d.place := by
  unfold part
  cases hchild : parent.child? field with
  | none => exact Declared.standsAt_empty
  | some n => exact h n hchild

/-- Patterns and properties of patterns hold each other, so both are treated at once. -/
theorem standsAt_pattern_and_property (hR : Node.Hereditary R) (haims : d.Aims) {n : Node}
    (hn : R n) :
    (∀ parent owner, R parent → Node.Owned R owner n →
        (d.pattern parent owner n).StandsAt R d.place) ∧
      (d.property n).StandsAt R d.place := by
  induction n using Node.induction with
  | step n ih =>
    have hchild {field : Field} {child : Node} (hmem : (field, some child) ∈ n.branches) :=
      ih field child hmem (hR n field child hn hmem)
    have hpart {owner : Option Node} {field : Field}
        (howned : ∀ child, n.child? field = some child → Node.Owned R owner child) :
        (d.part n owner field).StandsAt R d.place :=
      standsAt_part fun child hfound ↦
        (hchild (Node.mem_branches_of_child? hfound)).1 n owner hn (howned child hfound)
    have hargument : (d.part n none .argument).StandsAt R d.place :=
      hpart fun child _ ↦ Node.owned_none R child
    constructor
    · intro parent owner hparent howned
      rw [pattern_eq]
      apply (Declared.standsAt_placed n).append
      split
      · rename_i hkind
        exact standsAt_identifier haims hparent (Node.isIdentifier_iff.mpr hkind) hn howned
      · exact standsAt_propertyList fun prop hprop ↦ (hchild (Node.mem_items_iff.mp hprop)).2
      · exact standsAt_patterns fun element helement ↦
          (hchild (Node.mem_items_iff.mp helement)).1 n none hn (Node.owned_none R element)
      · rename_i hkind
        exact (hpart fun child hfound ↦ howned.target hkind hfound).append
          (standsAt_later hR hn .right)
      · exact hargument
      · exact standsAt_defer hn parent .left
    · unfold property
      apply (Declared.standsAt_placed n).append
      split
      · exact hargument
      · apply Declared.StandsAt.append
        · split
          · exact standsAt_later hR hn .key
          · exact Declared.standsAt_empty
        · exact hpart fun child hfound ↦ Node.owned_value hn hfound

theorem standsAt_pattern (hR : Node.Hereditary R) (haims : d.Aims) {parent : Node}
    (hparent : R parent) {owner : Option Node} {n : Node} (hn : R n)
    (howned : Node.Owned R owner n) : (d.pattern parent owner n).StandsAt R d.place :=
  (standsAt_pattern_and_property hR haims hn).1 parent owner hparent howned

theorem standsAt_under (hR : Node.Hereditary R) (haims : d.Aims) {parent : Node}
    (hparent : R parent) (field : Field) :
    (d.under parent none field parent.branches).StandsAt R d.place := by
  rw [under_eq_part]
  exact standsAt_part fun n hn ↦ standsAt_pattern hR haims hparent
    (hR parent field n hparent (Node.mem_branches_of_child? hn)) (Node.owned_none R n)

end Declaring

namespace Task

variable {fresh : ScopeId} {t : Task}

/-- What a task states and leaves: it stays in its scope, or it opens one scope inside. -/
inductive Effect (R : Node → Prop) (fresh : ScopeId) (t : Task) (outcome : Outcome) : Prop
  | stay (facts : ∀ fact ∈ outcome.facts, fact.StandsAt R t.place)
      (tasks : ∀ u ∈ outcome.tasks, u.StandsAt R t.place)
  | enter (type : ScopeType) (before after : List Fact) (inner : Place)
      (facts : outcome.facts = before ++ .opened type t.node (some t.place.scope) :: after)
      (outside : ∀ fact ∈ before, fact.StandsAt R t.place)
      (inside : ∀ fact ∈ after, fact.StandsAt R inner)
      (scope : inner.scope = fresh)
      (hoist : inner.hoist = if type.takesVariables then fresh else t.place.hoist)
      (tasks : ∀ u ∈ outcome.tasks, u.StandsAt R t.place ∨ u.StandsAt R inner)

theorem standsAt_ofItems (hR : Node.Hereditary R) {n : Node} (hn : R n) (field : Field) :
    ∀ u ∈ ofItems n field place (n.items field), u.StandsAt R place := by
  intro u hu
  obtain ⟨item, hitem, hu⟩ := List.mem_filterMap.mp hu
  obtain ⟨child, rfl, rfl⟩ := Option.map_eq_some_iff.mp hu
  exact ⟨rfl, hR n field child hn (Node.mem_items_iff.mp hitem), Node.owned_none R child⟩

theorem standsAt_ofChild (hR : Node.Hereditary R) {n : Node} (hn : R n) {field : Field}
    {owner : Option Node}
    (howned : ∀ child, n.child? field = some child → Node.Owned R owner child) :
    ∀ u ∈ ofChild n field place owner, u.StandsAt R place := by
  unfold ofChild
  cases hchild : n.child? field with
  | none => simp
  | some child =>
    intro u hu
    obtain rfl := List.mem_singleton.mp hu
    exact ⟨rfl, hR n field child hn (Node.mem_branches_of_child? hchild), howned child hchild⟩

theorem standsAt_ofChildren (hR : Node.Hereditary R) {n : Node} (hn : R n) :
    ∀ u ∈ ofChildren n place, u.StandsAt R place := by
  intro u hu
  obtain ⟨⟨field, child⟩, hchild, rfl⟩ := List.mem_map.mp hu
  exact ⟨rfl, hR n field child hn (Node.mem_children_iff.mp hchild), Node.owned_none R child⟩

theorem standsAt_declareName (hR : Node.Hereditary R) {d : Declaring} (haims : d.Aims) {n : Node}
    (hn : R n) : ∀ fact ∈ declareName d n, fact.StandsAt R d.place := by
  unfold declareName
  cases hname : ownName? n with
  | none => simp
  | some name =>
    obtain ⟨hchild, hidentifier⟩ := Option.filter_eq_some_iff.mp hname
    have hmem := hR n .id name hn (Node.mem_branches_of_child? hchild)
    exact (Declaring.standsAt_identifier haims hn hidentifier hmem (Node.owned_none R name)).facts

theorem standsAt_blockBody (hR : Node.Hereditary R) {n body : Node} (hn : R n)
    (hbody : ownBlock? n = some body) :
    (∀ fact ∈ (blockBody place body).facts, fact.StandsAt R place) ∧
      ∀ u ∈ (blockBody place body).tasks, u.StandsAt R place := by
  obtain ⟨hchild, -⟩ := Option.filter_eq_some_iff.mp hbody
  have hmem := hR n .body body hn (Node.mem_branches_of_child? hchild)
  refine ⟨fun fact hfact ↦ ?_, standsAt_ofItems hR hmem .body⟩
  obtain rfl := List.mem_singleton.mp hfact
  rfl

theorem forall_mem_append {α : Type} {P : α → Prop} {xs ys : List α} (hxs : ∀ x ∈ xs, P x)
    (hys : ∀ y ∈ ys, P y) : ∀ z ∈ xs ++ ys, P z := by
  intro z hz
  rcases List.mem_append.mp hz with hz | hz
  · exact hxs z hz
  · exact hys z hz

theorem effect_identifier (hn : R t.node) (howned : Node.Owned R t.owner t.node)
    (hidentifier : t.node.isIdentifier = true) : Effect R fresh t t.identifier := by
  apply Effect.stay
  · intro fact hfact
    by_cases hname : isPropertyName t.parent t.field = true
    · simp [identifier, hname] at hfact
    · obtain rfl : fact = _ := by simpa [identifier, hname] using hfact
      exact ⟨rfl, hidentifier, hn, howned⟩
  · simp [identifier]

theorem standsAt_functionBody (hR : Node.Hereditary R) (place : Place) {n : Node} (hn : R n) :
    (∀ fact ∈ (functionBody place n).facts, fact.StandsAt R place) ∧
      ∀ u ∈ (functionBody place n).tasks, u.StandsAt R place := by
  unfold functionBody
  cases hblock : ownBlock? n with
  | some body => exact standsAt_blockBody hR hn hblock
  | none => exact ⟨by simp, standsAt_ofChild hR hn fun child _ ↦ Node.owned_none R child⟩

theorem standsAt_catchBody (hR : Node.Hereditary R) (place : Place) {n : Node} (hn : R n) :
    (∀ fact ∈ (catchBody place n).facts, fact.StandsAt R place) ∧
      ∀ u ∈ (catchBody place n).tasks, u.StandsAt R place := by
  unfold catchBody
  cases hblock : ownBlock? n with
  | some body => exact standsAt_blockBody hR hn hblock
  | none => simp

theorem standsAt_nameOf (hR : Node.Hereditary R) {d : Declaring} (haims : d.Aims) {n : Node}
    (hn : R n) (kind : Kind) : ∀ fact ∈ nameOf kind d n, fact.StandsAt R d.place := by
  unfold nameOf
  split
  · exact standsAt_declareName hR haims hn
  · simp

theorem standsAt_functionParams (hR : Node.Hereditary R) (fresh : ScopeId) {n : Node}
    (hn : R n) :
    (functionParams fresh n).StandsAt R ⟨fresh, fresh⟩ :=
  Declaring.standsAt_patterns (d := ⟨fresh, .parameter, ⟨fresh, fresh⟩⟩) fun param hparam ↦
    Declaring.standsAt_pattern hR (.inl rfl) hn
      (hR n .params param hn (Node.mem_items_iff.mp hparam)) (Node.owned_none R param)

theorem effect_function (hR : Node.Hereditary R) (hn : R t.node) :
    Effect R fresh t (t.function fresh) := by
  have hparams := standsAt_functionParams hR fresh hn
  have hbody := standsAt_functionBody hR ⟨fresh, fresh⟩ hn
  rw [function_eq]
  refine .enter .function _ _ ⟨fresh, fresh⟩ rfl ?_ ?_ rfl rfl fun u hu ↦ .inr ?_
  · exact standsAt_nameOf hR (d := ⟨t.place.scope, .function, t.place⟩) (.inl rfl) hn _
  · apply forall_mem_append
    · exact standsAt_nameOf hR (d := ⟨fresh, .ownName, ⟨fresh, fresh⟩⟩) (.inl rfl) hn _
    · exact forall_mem_append hparams.facts hbody.1
  · refine forall_mem_append hbody.2 (fun v hv ↦ ?_) u hu
    exact hparams.deferred v (List.mem_reverse.mp hv)

theorem effect_catchClause (hR : Node.Hereditary R) (hn : R t.node) :
    Effect R fresh t (t.catchClause fresh) := by
  have hparam : (catchParam ⟨fresh, t.place.hoist⟩ t.node).StandsAt R ⟨fresh, t.place.hoist⟩ := by
    have hunder := Declaring.standsAt_under
      (d := ⟨fresh, .catchParameter, ⟨fresh, t.place.hoist⟩⟩) hR (.inl rfl) hn .param
    rwa [Declaring.under_eq_part] at hunder
  have hbody := standsAt_catchBody hR ⟨fresh, t.place.hoist⟩ hn
  rw [catchClause_eq]
  refine .enter .catchClause [] _ ⟨fresh, t.place.hoist⟩ rfl (by simp) ?_ rfl rfl
    fun u hu ↦ .inr ?_
  · exact forall_mem_append hparam.facts hbody.1
  · refine forall_mem_append hbody.2 (fun v hv ↦ ?_) u hu
    exact hparam.deferred v (List.mem_reverse.mp hv)

theorem standsAt_declarators (hR : Node.Hereditary R) {target : ScopeId}
    (haims : (Declaring.mk target (.declaration t.node.head.variety) t.place).Aims)
    {items : List (Option Node)} (hitems : ∀ n, some n ∈ items → R n) :
    (∀ fact ∈ (declarators t target items).facts, fact.StandsAt R t.place) ∧
      ∀ u ∈ (declarators t target items).tasks, u.StandsAt R t.place := by
  induction items with
  | nil => simp [declarators]
  | cons item rest ih =>
    have hrest := ih fun n hn ↦ hitems n (List.mem_cons_of_mem item hn)
    cases item with
    | none => exact hrest
    | some declarator =>
      have hdeclarator := hitems declarator List.mem_cons_self
      have hbound := Declaring.standsAt_under hR haims hdeclarator .id
      constructor
      · apply forall_mem_append hrest.1
        intro fact hfact
        rcases List.mem_cons.mp hfact with rfl | hfact
        · rfl
        · exact hbound.facts fact hfact
      · apply forall_mem_append
        · apply forall_mem_append
          · exact standsAt_ofChild hR hdeclarator fun child _ ↦ Node.owned_none R child
          · exact fun v hv ↦ hbound.deferred v (List.mem_reverse.mp hv)
        · exact hrest.2

theorem effect_variableDeclaration (hR : Node.Hereditary R) (hn : R t.node) :
    Effect R fresh t t.variableDeclaration := by
  have hitems (n : Node) (hitem : some n ∈ t.node.items .declarations) : R n :=
    hR t.node .declarations n hn (Node.mem_items_iff.mp hitem)
  have haims : (Declaring.mk
      (if t.node.head.variety == some "var" then t.place.hoist else t.place.scope)
      (.declaration t.node.head.variety) t.place).Aims := by
    unfold Declaring.Aims
    split
    · exact .inr (.inl rfl)
    · exact .inl rfl
  have hstands := standsAt_declarators hR haims hitems
  exact .stay hstands.1 hstands.2

theorem effect_classLike (hR : Node.Hereditary R) (hn : R t.node) :
    Effect R fresh t (t.classLike fresh) := by
  have hparts (place : Place) : ∀ u ∈ ofChild t.node .superClass place none ++
      ofChild t.node .body place none, u.StandsAt R place :=
    forall_mem_append (standsAt_ofChild hR hn fun child _ ↦ Node.owned_none R child)
      (standsAt_ofChild hR hn fun child _ ↦ Node.owned_none R child)
  unfold classLike
  split
  · refine .stay ?_ (hparts t.place)
    exact standsAt_declareName hR (d := ⟨t.place.scope, .classDeclaration, t.place⟩) (.inl rfl) hn
  · split
    · refine .enter .classBody [] _ ⟨fresh, t.place.hoist⟩ rfl (by simp) ?_ rfl rfl
        fun u hu ↦ .inr (hparts _ u hu)
      exact standsAt_declareName hR (d := ⟨fresh, .ownName, ⟨fresh, t.place.hoist⟩⟩) (.inl rfl) hn
    · exact .stay (by simp) (hparts t.place)

theorem standsAt_specifierName (hR : Node.Hereditary R) {specifier : Node} (hn : R specifier) :
    ∀ fact ∈ specifierName place specifier, fact.StandsAt R place := by
  unfold specifierName
  cases hname : (specifier.child? .localName).filter (·.isIdentifier) with
  | none => simp
  | some name =>
    obtain ⟨hchild, hidentifier⟩ := Option.filter_eq_some_iff.mp hname
    have hlocal := hR specifier .localName name hn (Node.mem_branches_of_child? hchild)
    exact (Declaring.standsAt_identifier (d := ⟨0, .imported, place⟩) (.inr (.inr rfl))
      hn hidentifier hlocal (Node.owned_none R name)).facts

theorem effect_importDeclaration (hR : Node.Hereditary R) (hn : R t.node) :
    Effect R fresh t t.importDeclaration := by
  rw [importDeclaration_eq]
  refine .stay (forall_mem_append ?_ ?_) (by simp)
  · intro fact hfact
    obtain ⟨specifier, hspecifier, hfact⟩ := List.mem_flatMap.mp hfact
    obtain ⟨item, hitem, rfl⟩ := List.mem_filterMap.mp hspecifier
    have hmem := hR t.node .specifiers specifier hn (Node.mem_items_iff.mp hitem)
    rcases List.mem_cons.mp hfact with rfl | hfact
    · rfl
    · exact standsAt_specifierName hR hmem fact hfact
  · unfold importSource
    cases t.node.child? .source with
    | none => simp
    | some source =>
      intro fact hfact
      obtain rfl := List.mem_singleton.mp hfact
      rfl

/-- The effect of working off a task, whatever its node is. -/
theorem effect_expand (hR : Node.Hereditary R) (hn : R t.node)
    (howned : Node.Owned R t.owner t.node) : Effect R fresh t (t.expand fresh) := by
  have hplaced {outcome : Outcome} (h : Effect R fresh t outcome) :
      Effect R fresh t { outcome with
        facts := .placed t.node.id t.place.scope :: outcome.facts } := by
    cases h with
    | stay facts tasks =>
      refine .stay (fun fact hfact ↦ ?_) tasks
      rcases List.mem_cons.mp hfact with rfl | hfact
      · rfl
      · exact facts fact hfact
    | enter type before after inner facts outside inside scope hoist tasks =>
      refine .enter type (.placed t.node.id t.place.scope :: before) after inner
        (by simp [facts]) (fun fact hfact ↦ ?_) inside scope hoist tasks
      rcases List.mem_cons.mp hfact with rfl | hfact
      · rfl
      · exact outside fact hfact
  have hloop : Effect R fresh t (t.loop fresh) :=
    .enter .loop [] [] ⟨fresh, t.place.hoist⟩ rfl (by simp) (by simp) rfl rfl
      fun u hu ↦ .inr (standsAt_ofChildren hR hn u hu)
  apply hplaced
  split
  · rename_i hkind
    exact effect_identifier hn howned (Node.isIdentifier_iff.mpr hkind)
  · exact effect_function hR hn
  · exact effect_function hR hn
  · exact effect_function hR hn
  · exact effect_variableDeclaration hR hn
  · exact effect_catchClause hR hn
  · exact .enter .block [] [] ⟨fresh, t.place.hoist⟩ rfl (by simp) (by simp) rfl rfl
      fun u hu ↦ .inr (standsAt_ofItems hR hn .body u hu)
  · exact hloop
  · exact hloop
  · exact hloop
  · refine .enter .switch [] [] ⟨fresh, t.place.hoist⟩ rfl (by simp) (by simp) rfl rfl
      fun u hu ↦ ?_
    rcases List.mem_append.mp hu with hu | hu
    · exact .inl (standsAt_ofChild hR hn (fun child _ ↦ Node.owned_none R child) u hu)
    · exact .inr (standsAt_ofItems hR hn .cases u hu)
  · exact effect_classLike hR hn
  · exact effect_classLike hR hn
  · exact effect_importDeclaration hR hn
  · refine .stay (by simp [property]) (forall_mem_append ?_ ?_)
    · exact standsAt_ofChild hR hn fun child _ ↦ Node.owned_none R child
    · exact standsAt_ofChild hR hn fun child hchild ↦ Node.owned_value hn hchild
  · rename_i hkind
    refine .stay (by simp [assignmentPattern]) (forall_mem_append ?_ ?_)
    · exact standsAt_ofChild hR hn fun child hchild ↦ howned.target hkind hchild
    · exact standsAt_ofChild hR hn fun child _ ↦ Node.owned_none R child
  · exact .stay (by simp) (standsAt_ofChildren hR hn)

/-- What is left to be done concerns nodes of the tree. -/
theorem Effect.left {outcome : Outcome} (h : Effect R fresh t outcome) {u : Task}
    (hu : u ∈ outcome.tasks) : R u.node ∧ Node.Owned R u.owner u.node := by
  cases h with
  | stay _ tasks => exact ⟨(tasks u hu).mem, (tasks u hu).owned⟩
  | enter _ _ _ _ _ _ _ _ _ tasks =>
    rcases tasks u hu with hstands | hstands
    · exact ⟨hstands.mem, hstands.owned⟩
    · exact ⟨hstands.mem, hstands.owned⟩

/-- What is declared stands under nodes of the tree. -/
theorem Effect.declaredUnder {outcome : Outcome} (h : Effect R fresh t outcome) {target : ScopeId}
    {kind : BindingKind} {site : Site} (hfact : .declared target kind site ∈ outcome.facts) :
    R site.parent := by
  cases h with
  | stay facts _ => exact (facts _ hfact).2.2.2
  | enter _ _ _ _ facts outside inside _ _ _ =>
    rw [facts] at hfact
    rcases List.mem_append.mp hfact with hbefore | hafter
    · exact (outside _ hbefore).2.2.2
    · rcases List.mem_cons.mp hafter with hopened | hafter
      · injection hopened
      · exact (inside _ hafter).2.2.2

end Task

end

end Relabel
