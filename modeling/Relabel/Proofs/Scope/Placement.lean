import Relabel.Proofs.Scope.Reading

/-!
# Which nodes have a place

The analysis notes the scope of every node that it comes by. It passes over two kinds of node: the
member that an import names, and the key of a property in a declared pattern, unless the key is
computed. All other nodes have a place. The proof follows the tasks: what a task places and what it
leaves to be done together are the nodes that can be reached from its node without these two steps.
-/

namespace Relabel

namespace Node

/-- Where a node holds what declares names: patterns, declarators and specifiers. -/
def declaresUnder (n : Node) (field : Field) : Bool :=
  match n.kind, field with
  | some .functionDeclaration, .params | some .functionExpression, .params
  | some .arrowFunction, .params | some .catchClause, .param
  | some .variableDeclaration, .declarations | some .importDeclaration, .specifiers => true
  | _, _ => false

/-- Whether a child belongs to what declares names, for a node that does or does not. -/
def declaredUnder (declared : Bool) (n : Node) (field : Field) : Bool :=
  n.declaresUnder field || declared && Standing.isPart n field

/-- Whether the analysis passes over what stands under a label. -/
def isPassedOver (declared : Bool) (n : Node) (field : Field) : Bool :=
  match n.kind, field with
  | some .importSpecifier, .imported => declared
  | some .property, .key => declared && !n.head.computed
  | _, _ => false

/-- The nodes that are reached from a node, which may belong to what declares names, without a step
that is passed over. -/
inductive Shows : Bool → Node → Node → Prop
  | self {declared : Bool} {n : Node} : Shows declared n n
  | child {declared : Bool} {n child m : Node} {field : Field} :
    (field, some child) ∈ n.branches → isPassedOver declared n field = false →
    Shows (declaredUnder declared n field) child m → Shows declared n m

theorem Shows.mem_nodes {declared : Bool} {n m : Node} (h : Shows declared n m) :
    m ∈ n.nodes := by
  induction h with
  | self => exact mem_nodes_self _
  | child hchild _ _ ih => exact mem_nodes_iff.mpr (.inr ⟨_, _, hchild, ih⟩)

variable {declared : Bool} {n : Node} {x : NodeId} {field : Field}

/-- Whether a node with some identity is reached. -/
def shows (declared : Bool) (n : Node) (x : NodeId) : Prop :=
  ∃ m, Shows declared n m ∧ m.id = x

/-- The same for what stands under one label. -/
def showsUnder (declared : Bool) (n : Node) (field : Field) (x : NodeId) : Prop :=
  ∃ child, (field, some child) ∈ n.branches ∧ shows declared child x

theorem shows_iff : n.shows declared x ↔ n.id = x ∨
    ∃ field, isPassedOver declared n field = false ∧
      showsUnder (declaredUnder declared n field) n field x := by
  constructor
  · rintro ⟨m, hm, rfl⟩
    cases hm with
    | self => exact .inl rfl
    | child hchild hpassed hshows => exact .inr ⟨_, hpassed, _, hchild, m, hshows, rfl⟩
  · rintro (rfl | ⟨field, hpassed, child, hchild, m, hshows, rfl⟩)
    · exact ⟨n, .self, rfl⟩
    · exact ⟨m, .child hchild hpassed hshows, rfl⟩

/-- The labels of a kind are all that has to be looked at. -/
theorem shows_iff_labels (hshaped : n.isShaped = true) {kind : Kind} (hkind : n.kind = some kind)
    {labels : List Field} (hlabels : kind.labels? = some labels) :
    n.shows declared x ↔ n.id = x ∨ ∃ field ∈ labels, isPassedOver declared n field = false ∧
      showsUnder (declaredUnder declared n field) n field x := by
  rw [shows_iff]
  refine or_congr_right ⟨?_, fun hlabel ↦ hlabel.imp fun _ ↦ And.right⟩
  rintro ⟨field, hpassed, child, hchild, hshows⟩
  exact ⟨field, mem_labels_of_isShaped hshaped hkind hlabels (mem_children_iff.mpr hchild), hpassed,
    child, hchild, hshows⟩

theorem shows_of_isNaming (hshaped : n.isShaped = true) (hn : n.isNaming = true) :
    n.shows declared x ↔ n.id = x := by
  rw [isNaming, Bool.or_eq_true, isIdentifier_iff, hasKind, beq_iff_eq] at hn
  rcases hn with hkind | hkind <;> simp [shows_iff_labels hshaped hkind rfl]

theorem showsUnder_iff_items : showsUnder declared n field x ↔
    ∃ child, some child ∈ n.items field ∧ shows declared child x := by
  simp only [showsUnder, mem_items_iff]

theorem showsUnder_iff_child (hsingle : (n.items field).length ≤ 1) :
    showsUnder declared n field x ↔
      ∃ child, n.child? field = some child ∧ shows declared child x := by
  refine exists_congr fun child ↦ and_congr_left fun _ ↦ ?_
  exact ⟨child?_eq_some_of_mem hsingle, mem_branches_of_child?⟩

end Node

/-- Facts give a place to a node. -/
def Fact.Places (x : NodeId) (facts : List Fact) : Prop :=
  ∃ scope, .placed x scope ∈ facts

/-- A node is reached from the nodes of tasks. -/
def Task.Show (x : NodeId) (tasks : List Task) : Prop :=
  ∃ t ∈ tasks, t.node.shows false x

/-- A node has a place, or will have one when the deferred parts of a declaration are worked off. -/
def Declared.Treats (x : NodeId) (declared : Declared) : Prop :=
  Fact.Places x declared.facts ∨ Task.Show x declared.deferred

/-- The same after one step. -/
def Task.Outcome.Treats (x : NodeId) (outcome : Outcome) : Prop :=
  Fact.Places x outcome.facts ∨ Task.Show x outcome.tasks

variable {x : NodeId}

@[simp]
theorem Fact.places_nil : ¬ Places x [] := by simp [Places]

@[simp]
theorem Fact.places_append {a b : List Fact} : Places x (a ++ b) ↔ Places x a ∨ Places x b := by
  simp [Places, exists_or]

@[simp]
theorem Fact.places_placed {n : NodeId} {scope : ScopeId} {facts : List Fact} :
    Places x (.placed n scope :: facts) ↔ n = x ∨ Places x facts := by
  simp [Places, exists_or, eq_comm]

@[simp]
theorem Fact.places_opened {type : ScopeType} {n : Node} {parent : Option ScopeId}
    {facts : List Fact} : Places x (.opened type n parent :: facts) ↔ Places x facts := by
  simp [Places]

@[simp]
theorem Fact.places_declared {target : ScopeId} {kind : BindingKind} {site : Site}
    {facts : List Fact} : Places x (.declared target kind site :: facts) ↔ Places x facts := by
  simp [Places]

@[simp]
theorem Fact.places_referred {site : Site} {facts : List Fact} :
    Places x (.referred site :: facts) ↔ Places x facts := by
  simp [Places]

@[simp]
theorem Task.show_nil : ¬ Show x [] := by simp [Show]

@[simp]
theorem Task.show_append {a b : List Task} : Show x (a ++ b) ↔ Show x a ∨ Show x b := by
  simp [Show, or_and_right, exists_or]

@[simp]
theorem Task.show_reverse {a : List Task} : Show x a.reverse ↔ Show x a := by
  simp [Show]

namespace Declared

@[simp]
theorem treats_empty : ¬ Treats x {} := by simp [Treats]

@[simp]
theorem treats_append {a b : Declared} : (a ++ b).Treats x ↔ a.Treats x ∨ b.Treats x := by
  simp [Treats, or_or_or_comm]

@[simp]
theorem treats_placed {n : NodeId} {scope : ScopeId} :
    Treats x ⟨[.placed n scope], []⟩ ↔ n = x := by
  simp [Treats]

end Declared

namespace Declaring

variable {d : Declaring} {n : Node} {field : Field}

@[simp]
theorem treats_identifier {parent : Node} {owner : Option Node} :
    (d.identifier n parent owner).Treats x ↔ n.id = x := by
  simp [identifier, Declared.Treats]

@[simp]
theorem treats_defer {parent : Node} : (d.defer n parent field).Treats x ↔ n.shows false x := by
  simp [defer, Declared.Treats, Task.Show]

theorem treats_later (hsingle : (n.items field).length ≤ 1) :
    (d.later n field).Treats x ↔ n.showsUnder false field x := by
  rw [Node.showsUnder_iff_child hsingle, later]
  cases n.child? field <;> simp

theorem treats_part {owner : Option Node} (hsingle : (n.items field).length ≤ 1)
    (hpattern : ∀ child, n.child? field = some child →
      ((d.pattern n owner child).Treats x ↔ child.shows true x)) :
    (d.part n owner field).Treats x ↔ n.showsUnder true field x := by
  rw [Node.showsUnder_iff_child hsingle, part]
  cases hchild : n.child? field with
  | none => simp
  | some child => simpa using hpattern child hchild

theorem treats_patterns {parent : Node} {items : List (Option Node)} :
    (d.patterns parent items).Treats x ↔
      ∃ child, some child ∈ items ∧ (d.pattern parent none child).Treats x := by
  induction items with
  | nil => simp [patterns]
  | cons item rest ih => cases item <;> simp [patterns, ih]

theorem treats_propertyList {items : List (Option Node)} :
    (d.propertyList items).Treats x ↔
      ∃ child, some child ∈ items ∧ (d.property child).Treats x := by
  induction items with
  | nil => simp [propertyList]
  | cons item rest ih => cases item <;> simp [propertyList, ih]

/-- A member expression in a pattern is no pattern: nothing below it is declared. -/
theorem shows_memberExpression (hkind : n.kind = some .memberExpression) :
    n.shows true x ↔ n.shows false x := by
  rw [Node.shows_iff, Node.shows_iff]
  simp [Node.isPassedOver, Node.declaredUnder, Node.declaresUnder, Standing.isPart, hkind]

/-- What the declaration of a pattern, or of a property of one, treats. -/
structure Placing (d : Declaring) (x : NodeId) (n : Node) : Prop where
  pattern : n.isPattern = true → ∀ parent owner,
    (d.pattern parent owner n).Treats x ↔ n.shows true x
  property : (n.hasKind .restElement ||
      n.hasKind .property && (n.child? .value).all (·.isPattern)) = true →
    ((d.property n).Treats x ↔ n.shows true x)

section Below

variable (hn : n.isShaped = true)
  (hbelow : ∀ field child, (field, some child) ∈ n.branches → Placing d x child)

include hbelow in
/-- The part under a label that is not for a list. -/
theorem treats_part_of_below {owner : Option Node} (hsingle : (n.items field).length ≤ 1)
    (hpattern : ∀ child, n.child? field = some child → child.isPattern = true) :
    (d.part n owner field).Treats x ↔ n.showsUnder true field x :=
  treats_part hsingle fun child hchild ↦
    (hbelow field child (Node.mem_branches_of_child? hchild)).pattern (hpattern child hchild)
      n owner

include hn hbelow

theorem treats_restElement (hkind : n.kind = some .restElement) :
    n.id = x ∨ (d.part n none .argument).Treats x ↔ n.shows true x := by
  have hargument : (d.part n none .argument).Treats x ↔ n.showsUnder true .argument x :=
    treats_part_of_below hbelow
      (Node.length_items_of_isShaped hn hkind rfl (by decide) (by decide)) (fun child hchild ↦ by
      simpa [Node.admits, hkind] using
        Node.admits_of_isShaped hn (Node.mem_branches_of_child? hchild))
  rw [Node.shows_iff_labels hn hkind rfl, hargument]
  simp [Node.isPassedOver, Node.declaredUnder, Node.declaresUnder, Standing.isPart, hkind]

theorem treats_objectPattern (hkind : n.kind = some .objectPattern) :
    n.id = x ∨ (d.propertyList (n.items .properties)).Treats x ↔ n.shows true x := by
  have hproperties : (d.propertyList (n.items .properties)).Treats x ↔
      n.showsUnder true .properties x := by
    rw [treats_propertyList, Node.showsUnder]
    simp only [Node.mem_items_iff]
    refine exists_congr fun child ↦ and_congr_right fun hchild ↦ ?_
    have hadmits := Node.admits_of_isShaped hn hchild
    exact (hbelow _ child hchild).property (by simpa [Node.admits, hkind] using hadmits)
  rw [Node.shows_iff_labels hn hkind rfl, hproperties]
  simp [Node.isPassedOver, Node.declaredUnder, Node.declaresUnder, Standing.isPart, hkind]

theorem treats_arrayPattern (hkind : n.kind = some .arrayPattern) :
    n.id = x ∨ (d.patterns n (n.items .elements)).Treats x ↔ n.shows true x := by
  have helements : (d.patterns n (n.items .elements)).Treats x ↔
      n.showsUnder true .elements x := by
    rw [treats_patterns, Node.showsUnder]
    simp only [Node.mem_items_iff]
    refine exists_congr fun child ↦ and_congr_right fun hchild ↦ ?_
    have hadmits := Node.admits_of_isShaped hn hchild
    exact (hbelow _ child hchild).pattern (by simpa [Node.admits, hkind] using hadmits) n none
  rw [Node.shows_iff_labels hn hkind rfl, helements]
  simp [Node.isPassedOver, Node.declaredUnder, Node.declaresUnder, Standing.isPart, hkind]

theorem treats_withDefault (hkind : n.kind = some .assignmentPattern) (owner : Option Node) :
    n.id = x ∨ (d.part n owner .left ++ d.later n .right).Treats x ↔ n.shows true x := by
  have hleft : (d.part n owner .left).Treats x ↔ n.showsUnder true .left x :=
    treats_part_of_below hbelow
      (Node.length_items_of_isShaped hn hkind rfl (by decide) (by decide)) (fun child hchild ↦ by
      simpa [Node.admits, hkind] using
        Node.admits_of_isShaped hn (Node.mem_branches_of_child? hchild))
  have hright : (d.later n .right).Treats x ↔ n.showsUnder false .right x :=
    treats_later (Node.length_items_of_isShaped hn hkind rfl (by decide) (by decide))
  rw [Node.shows_iff_labels hn hkind rfl, Declared.treats_append, hleft, hright]
  simp [Node.isPassedOver, Node.declaredUnder, Node.declaresUnder, Standing.isPart, hkind]

/-- The key of a property in a pattern is passed over unless it is computed. -/
theorem treats_patternProperty (hkind : n.kind = some .property)
    (hvalue : (n.child? .value).all (·.isPattern) = true) (owner : Option Node) :
    n.id = x ∨
      ((if n.head.computed then d.later n .key else {}) ++ d.part n owner .value).Treats x ↔
        n.shows true x := by
  have hvaluePart : (d.part n owner .value).Treats x ↔ n.showsUnder true .value x :=
    treats_part_of_below hbelow
      (Node.length_items_of_isShaped hn hkind rfl (by decide) (by decide))
      (fun child hchild ↦ by simpa [hchild] using hvalue)
  have hkey : (if n.head.computed then d.later n .key else {}).Treats x ↔
      n.head.computed = true ∧ n.showsUnder false .key x := by
    cases hcomputed : n.head.computed with
    | false => simp
    | true =>
      simpa using treats_later (d := d) (x := x)
        (Node.length_items_of_isShaped hn hkind rfl (by decide) (by decide))
  rw [Node.shows_iff_labels hn hkind rfl, Declared.treats_append, hvaluePart, hkey]
  simp [Node.isPassedOver, Node.declaredUnder, Node.declaresUnder, Standing.isPart, hkind]

end Below

/-- Patterns and properties of patterns hold each other, so both are treated at once. -/
theorem placing (hshaped : ∀ m ∈ n.nodes, m.isShaped = true) : Placing d x n := by
  induction n using Node.induction with
  | step n ih =>
    have hn := hshaped n n.mem_nodes_self
    have hbelow (field : Field) (child : Node) (hchild : (field, some child) ∈ n.branches) :=
      ih field child hchild fun m hm ↦ hshaped m (Node.mem_nodes_iff.mpr
        (.inr ⟨field, child, hchild, hm⟩))
    constructor
    · intro hpattern parent owner
      rw [pattern_eq, Declared.treats_append, Declared.treats_placed]
      unfold Node.isPattern at hpattern
      split at hpattern
      case h_1 hkind =>
        have hnaming : n.isNaming = true := by simp [Node.isNaming, Node.isIdentifier_iff.mpr hkind]
        simp [hkind, Node.shows_of_isNaming hn hnaming]
      case h_2 hkind =>
        have hself : n.id = x → n.shows false x := fun hid ↦ Node.shows_iff.mpr (.inl hid)
        simpa [hkind, shows_memberExpression hkind] using hself
      case h_3 hkind =>
        simp only [hkind]
        exact treats_objectPattern hn hbelow hkind
      case h_4 hkind =>
        simp only [hkind]
        exact treats_arrayPattern hn hbelow hkind
      case h_5 hkind =>
        simp only [hkind]
        exact treats_withDefault hn hbelow hkind owner
      case h_6 hkind =>
        simp only [hkind]
        exact treats_restElement hn hbelow hkind
      case h_7 => exact absurd hpattern (by simp)
    · intro hproperty
      unfold property
      rw [Declared.treats_append, Declared.treats_placed]
      by_cases hrest : n.kind = some .restElement
      · rw [if_pos hrest]
        exact treats_restElement hn hbelow hrest
      · obtain ⟨hkind, hvalue⟩ : n.kind = some .property ∧
            (n.child? .value).all (·.isPattern) = true := by
          simpa [Node.hasKind, hrest] using hproperty
        rw [if_neg hrest]
        exact treats_patternProperty hn hbelow hkind hvalue _

theorem treats_pattern (hshaped : ∀ m ∈ n.nodes, m.isShaped = true) (hn : n.isPattern = true)
    (parent : Node) (owner : Option Node) :
    (d.pattern parent owner n).Treats x ↔ n.shows true x :=
  (placing hshaped).pattern hn parent owner

end Declaring

/-! ## Tasks -/

namespace Task

variable {n : Node} {field : Field} {place : Place}

theorem show_ofItems :
    Show x (ofItems n field place (n.items field)) ↔ n.showsUnder false field x := by
  rw [Node.showsUnder_iff_items]
  constructor
  · rintro ⟨t, ht, hshows⟩
    obtain ⟨item, hitem, hmap⟩ := List.mem_filterMap.mp ht
    obtain ⟨child, rfl, rfl⟩ := Option.map_eq_some_iff.mp hmap
    exact ⟨child, hitem, hshows⟩
  · rintro ⟨child, hchild, hshows⟩
    exact ⟨_, List.mem_filterMap.mpr ⟨some child, hchild, rfl⟩, hshows⟩

theorem show_ofChild {owner : Option Node} (hsingle : (n.items field).length ≤ 1) :
    Show x (ofChild n field place owner) ↔ n.showsUnder false field x := by
  rw [Node.showsUnder_iff_child hsingle, ofChild]
  cases n.child? field <;> simp [Show]

theorem show_ofChildren :
    Show x (ofChildren n place) ↔ ∃ field, n.showsUnder false field x := by
  simp [Show, ofChildren, Node.showsUnder, ← Node.mem_children_iff]

/-- The name of a function or class has a place. -/
theorem places_declareName {d : Declaring} {declared : Bool}
    (hshaped : ∀ m ∈ n.nodes, m.isShaped = true) (hsingle : (n.items .id).length ≤ 1)
    (hname : ∀ child, n.child? .id = some child → child.isIdentifier = true) :
    Fact.Places x (declareName d n) ↔ n.showsUnder declared .id x := by
  rw [Node.showsUnder_iff_child hsingle, declareName, ownName?]
  cases hchild : n.child? .id with
  | none => simp
  | some child =>
    have hidentifier := hname child hchild
    have hshapedChild := hshaped child (Node.mem_nodes_of_mem_branches n.mem_nodes_self
      (Node.mem_branches_of_child? hchild))
    have hnaming : child.isNaming = true := by simp [Node.isNaming, hidentifier]
    simp [Option.filter_some, hidentifier, Declaring.identifier,
      Node.shows_of_isNaming hshapedChild hnaming]

theorem treats_blockBody {body : Node} (hshaped : body.isShaped = true)
    (hkind : body.hasKind .blockStatement = true) :
    (blockBody place body).Treats x ↔ body.shows false x := by
  have hblock : body.kind = some .blockStatement := by simpa [Node.hasKind] using hkind
  rw [Outcome.Treats, blockBody, show_ofItems, Node.shows_iff_labels hshaped hblock rfl]
  simp [Node.isPassedOver, Node.declaredUnder, Node.declaresUnder, hblock]

theorem treats_functionBody (hshaped : ∀ m ∈ n.nodes, m.isShaped = true)
    (hsingle : (n.items .body).length ≤ 1) :
    (functionBody place n).Treats x ↔ n.showsUnder false .body x := by
  unfold functionBody
  cases hblock : ownBlock? n with
  | some body =>
    obtain ⟨hbody, hkind⟩ := Option.filter_eq_some_iff.mp hblock
    have hmem := Node.mem_nodes_of_mem_branches n.mem_nodes_self (Node.mem_branches_of_child? hbody)
    simp [Node.showsUnder_iff_child hsingle, hbody, treats_blockBody (hshaped body hmem) hkind]
  | none => simp [Outcome.Treats, show_ofChild hsingle]

section Handlers

variable {t : Task} {fresh : ScopeId}

theorem treats_function (hshaped : ∀ m ∈ t.node.nodes, m.isShaped = true)
    (hfunction : IsFunction t.node) :
    t.node.id = x ∨ (t.function fresh).Treats x ↔ t.node.shows false x := by
  have hn := hshaped t.node t.node.mem_nodes_self
  have hparams : (functionParams fresh t.node).Treats x ↔ t.node.showsUnder true .params x := by
    rw [functionParams, Declaring.treats_patterns, Node.showsUnder_iff_items]
    refine exists_congr fun child ↦ and_congr_right fun hchild ↦ ?_
    have hbranch := Node.mem_items_iff.mp hchild
    have hadmits := Node.admits_of_isShaped hn hbranch
    have hpattern : child.isPattern = true := by
      rcases hfunction with hkind | hkind | hkind <;> simpa [Node.admits, hkind] using hadmits
    exact Declaring.treats_pattern (shaped_child hshaped hbranch) hpattern _ _
  have hbody : (functionBody ⟨fresh, fresh⟩ t.node).Treats x ↔ t.node.showsUnder false .body x := by
    apply treats_functionBody hshaped
    rcases hfunction with hkind | hkind | hkind <;>
      exact Node.length_items_of_isShaped hn hkind rfl (by decide) (by decide)
  have hname {d : Declaring} (hkind : t.node.kind = some .functionDeclaration ∨
        t.node.kind = some .functionExpression) :
      Fact.Places x (declareName d t.node) ↔ t.node.showsUnder false .id x := by
    rcases hkind with hkind | hkind <;>
      exact places_declareName hshaped
        (Node.length_items_of_isShaped hn hkind rfl (by decide) (by decide))
        (fun child hchild ↦ by
          simpa [Node.admits, hkind] using
            Node.admits_of_isShaped hn (Node.mem_branches_of_child? hchild))
  rw [function_eq]
  simp only [Outcome.Treats, Declared.Treats, Fact.places_append, Fact.places_opened, show_append,
    show_reverse] at hparams hbody ⊢
  rcases hfunction with hkind | hkind | hkind <;>
    rw [Node.shows_iff_labels hn hkind rfl] <;>
    simp [Node.isPassedOver, Node.declaredUnder, Node.declaresUnder, Standing.isPart, nameOf,
      Node.hasKind, hkind, hname, ← hparams, ← hbody] <;>
    grind

theorem treats_catchClause (hshaped : ∀ m ∈ t.node.nodes, m.isShaped = true)
    (hkind : t.node.kind = some .catchClause) :
    t.node.id = x ∨ (t.catchClause fresh).Treats x ↔ t.node.shows false x := by
  have hn := hshaped t.node t.node.mem_nodes_self
  have hparam : (catchParam ⟨fresh, t.place.hoist⟩ t.node).Treats x ↔
      t.node.showsUnder true .param x := by
    apply Declaring.treats_part
      (Node.length_items_of_isShaped hn hkind rfl (by decide) (by decide))
    intro child hchild
    have hmem := Node.mem_branches_of_child? hchild
    have hpattern : child.isPattern = true := by
      simpa [Node.admits, hkind] using Node.admits_of_isShaped hn hmem
    exact Declaring.treats_pattern (shaped_child hshaped hmem) hpattern _ _
  have hbody : (catchBody ⟨fresh, t.place.hoist⟩ t.node).Treats x ↔
      t.node.showsUnder false .body x := by
    rw [catchBody_eq_functionBody hn hkind]
    exact treats_functionBody hshaped
      (Node.length_items_of_isShaped hn hkind rfl (by decide) (by decide))
  rw [catchClause_eq, Node.shows_iff_labels hn hkind rfl]
  simp only [Outcome.Treats, Declared.Treats, Fact.places_append, Fact.places_opened, show_append,
    show_reverse] at hparam hbody ⊢
  simp [Node.isPassedOver, Node.declaredUnder, Node.declaresUnder, Standing.isPart, hkind,
    ← hparam, ← hbody]
  grind

theorem treats_block (hn : t.node.isShaped = true) (hkind : t.node.kind = some .blockStatement) :
    t.node.id = x ∨ (t.block fresh).Treats x ↔ t.node.shows false x := by
  rw [Node.shows_iff_labels hn hkind rfl, block, Outcome.Treats, show_ofItems]
  simp [Node.isPassedOver, Node.declaredUnder, Node.declaresUnder, Standing.isPart, hkind]

theorem treats_switch (hn : t.node.isShaped = true) (hkind : t.node.kind = some .switchStatement) :
    t.node.id = x ∨ (t.switch fresh).Treats x ↔ t.node.shows false x := by
  have hsingle : (t.node.items .discriminant).length ≤ 1 :=
    Node.length_items_of_isShaped hn hkind rfl (by decide) (by decide)
  rw [Node.shows_iff_labels hn hkind rfl, switch, Outcome.Treats, show_append, show_ofItems,
    show_ofChild hsingle]
  simp [Node.isPassedOver, Node.declaredUnder, Node.declaresUnder, Standing.isPart, hkind]

theorem treats_classLike (hshaped : ∀ m ∈ t.node.nodes, m.isShaped = true)
    (hclass : t.node.kind = some .classDeclaration ∨ t.node.kind = some .classExpression) :
    t.node.id = x ∨ (t.classLike fresh).Treats x ↔ t.node.shows false x := by
  have hn := hshaped t.node t.node.mem_nodes_self
  have hparts {place : Place} :
      Show x (ofChild t.node .superClass place none ++ ofChild t.node .body place none) ↔
        t.node.showsUnder false .superClass x ∨ t.node.showsUnder false .body x := by
    rcases hclass with hkind | hkind <;>
      rw [show_append,
        show_ofChild (Node.length_items_of_isShaped hn hkind rfl (by decide) (by decide)),
        show_ofChild (Node.length_items_of_isShaped hn hkind rfl (by decide) (by decide))]
  have hname {d : Declaring} :
      Fact.Places x (declareName d t.node) ↔ t.node.showsUnder false .id x := by
    rcases hclass with hkind | hkind <;>
      exact places_declareName hshaped
        (Node.length_items_of_isShaped hn hkind rfl (by decide) (by decide))
        (fun child hchild ↦ by
          simpa [Node.admits, hkind] using
            Node.admits_of_isShaped hn (Node.mem_branches_of_child? hchild))
  -- A class without a name has nothing under that label.
  have hnameless (hnone : (ownName? t.node).isSome = false) : ¬ t.node.showsUnder false .id x := by
    rw [← hname (d := ⟨0, .ownName, t.place⟩)]
    simp [declareName, Option.isNone_iff_eq_none.mp (Option.isSome_eq_false_iff.mp hnone)]
  unfold classLike
  rcases hclass with hkind | hkind <;> rw [Node.shows_iff_labels hn hkind rfl]
  · simp [Node.isPassedOver, Node.declaredUnder, Node.declaresUnder, Standing.isPart, Node.hasKind,
      hkind, Outcome.Treats, hname, hparts]
  · cases hsome : (ownName? t.node).isSome with
    | true =>
      simp [Node.isPassedOver, Node.declaredUnder, Node.declaresUnder, Standing.isPart,
        Node.hasKind, hkind, Outcome.Treats, hname, hparts]
    | false =>
      simp [Node.isPassedOver, Node.declaredUnder, Node.declaresUnder, Standing.isPart,
        Node.hasKind, hkind, Outcome.Treats, hnameless hsome, hparts]

theorem treats_property (hn : t.node.isShaped = true) (hkind : t.node.kind = some .property) :
    t.node.id = x ∨ t.property.Treats x ↔ t.node.shows false x := by
  rw [Node.shows_iff_labels hn hkind rfl, property, Outcome.Treats, show_append,
    show_ofChild (Node.length_items_of_isShaped hn hkind rfl (by decide) (by decide)),
    show_ofChild (Node.length_items_of_isShaped hn hkind rfl (by decide) (by decide))]
  simp [Node.isPassedOver, Node.declaredUnder, Node.declaresUnder, hkind]

theorem treats_assignmentPattern (hn : t.node.isShaped = true)
    (hkind : t.node.kind = some .assignmentPattern) :
    t.node.id = x ∨ t.assignmentPattern.Treats x ↔ t.node.shows false x := by
  rw [Node.shows_iff_labels hn hkind rfl, assignmentPattern, Outcome.Treats, show_append,
    show_ofChild (Node.length_items_of_isShaped hn hkind rfl (by decide) (by decide)),
    show_ofChild (Node.length_items_of_isShaped hn hkind rfl (by decide) (by decide))]
  simp [Node.isPassedOver, Node.declaredUnder, Node.declaresUnder, hkind]

theorem treats_identifier (hn : t.node.isShaped = true) (hkind : t.node.kind = some .identifier) :
    t.node.id = x ∨ t.identifier.Treats x ↔ t.node.shows false x := by
  have hnaming : t.node.isNaming = true := by
    simp [Node.isNaming, Node.isIdentifier_iff.mpr hkind]
  rw [Node.shows_of_isNaming hn hnaming, identifier]
  split <;> simp [Outcome.Treats]

theorem treats_declarator {d : Declaring} {declarator : Node}
    (hshaped : ∀ m ∈ declarator.nodes, m.isShaped = true)
    (hkind : declarator.kind = some .variableDeclarator) :
    declarator.id = x ∨ (d.part declarator none .id).Treats x ∨
        Show x (ofChild declarator .init d.place none) ↔ declarator.shows true x := by
  have hn := hshaped declarator declarator.mem_nodes_self
  have hid : (d.part declarator none .id).Treats x ↔ declarator.showsUnder true .id x := by
    apply Declaring.treats_part (Node.length_items_of_isShaped hn hkind rfl (by decide) (by decide))
    intro child hchild
    have hmem := Node.mem_branches_of_child? hchild
    have hpattern : child.isPattern = true := by
      simpa [Node.admits, hkind] using Node.admits_of_isShaped hn hmem
    exact Declaring.treats_pattern (shaped_child hshaped hmem) hpattern _ _
  rw [Node.shows_iff_labels hn hkind rfl, hid,
    show_ofChild (Node.length_items_of_isShaped hn hkind rfl (by decide) (by decide))]
  simp [Node.isPassedOver, Node.declaredUnder, Node.declaresUnder, Standing.isPart, hkind]

theorem treats_declarators (target : ScopeId) (items : List (Option Node)) :
    (declarators t target items).Treats x ↔ ∃ declarator, some declarator ∈ items ∧
      (declarator.id = x ∨
        (Declaring.part ⟨target, .declaration t.node.head.variety, t.place⟩ declarator none
          .id).Treats x ∨ Show x (ofChild declarator .init t.place none)) := by
  induction items with
  | nil => simp [declarators, Outcome.Treats]
  | cons item rest ih =>
    cases item with
    | none => simpa [declarators] using ih
    | some declarator =>
      simp only [List.mem_cons, Option.some.injEq, or_and_right, exists_or, exists_eq_left, ← ih]
      simp only [declarators, Declaring.under_eq_part, Outcome.Treats, Declared.Treats,
        Fact.places_append, Fact.places_placed, show_append, show_reverse]
      grind

theorem treats_variableDeclaration (hshaped : ∀ m ∈ t.node.nodes, m.isShaped = true)
    (hkind : t.node.kind = some .variableDeclaration) :
    t.node.id = x ∨ t.variableDeclaration.Treats x ↔ t.node.shows false x := by
  have hn := hshaped t.node t.node.mem_nodes_self
  have hdeclarators (target : ScopeId) :
      (declarators t target (t.node.items .declarations)).Treats x ↔
        t.node.showsUnder true .declarations x := by
    rw [treats_declarators, Node.showsUnder_iff_items]
    refine exists_congr fun declarator ↦ and_congr_right fun hitem ↦ ?_
    have hmem := Node.mem_items_iff.mp hitem
    have hdeclarator : declarator.kind = some .variableDeclarator := by
      simpa [Node.admits, hkind, Node.hasKind] using Node.admits_of_isShaped hn hmem
    exact treats_declarator (d := ⟨target, _, t.place⟩) (shaped_child hshaped hmem) hdeclarator
  rw [Node.shows_iff_labels hn hkind rfl, variableDeclaration, hdeclarators]
  simp [Node.isPassedOver, Node.declaredUnder, Node.declaresUnder, Standing.isPart, hkind]

/-- Of a specifier, the local name has a place. -/
theorem places_specifier {specifier : Node} (hshaped : ∀ m ∈ specifier.nodes, m.isShaped = true)
    (hspecifier : specifier.isSpecifier = true) {scope : ScopeId} :
    Fact.Places x (.placed specifier.id scope :: specifierName place specifier) ↔
      specifier.shows true x := by
  have hn := hshaped specifier specifier.mem_nodes_self
  have hkinds : specifier.kind = some .importSpecifier ∨
      specifier.kind = some .importDefaultSpecifier ∨
      specifier.kind = some .importNamespaceSpecifier := by
    simpa [Node.isSpecifier, Node.hasKind, or_assoc] using hspecifier
  have hsingle : (specifier.items .localName).length ≤ 1 := by
    rcases hkinds with hkind | hkind | hkind <;>
      exact Node.length_items_of_isShaped hn hkind rfl (by decide) (by decide)
  have hlocal : Fact.Places x (specifierName place specifier) ↔
      specifier.showsUnder true .localName x := by
    rw [Node.showsUnder_iff_child hsingle, specifierName]
    cases hchild : specifier.child? .localName with
    | none => simp
    | some child =>
      have hmem := Node.mem_branches_of_child? hchild
      have hidentifier : child.isIdentifier = true := by
        rcases hkinds with hkind | hkind | hkind <;>
          simpa [Node.admits, hkind] using Node.admits_of_isShaped hn hmem
      have hnaming : child.isNaming = true := by simp [Node.isNaming, hidentifier]
      simp [Option.filter_some, hidentifier, Declaring.identifier,
        Node.shows_of_isNaming (shaped_child hshaped hmem child child.mem_nodes_self) hnaming]
  rw [Fact.places_placed, hlocal]
  rcases hkinds with hkind | hkind | hkind <;>
    rw [Node.shows_iff_labels hn hkind rfl] <;>
    simp [Node.isPassedOver, Node.declaredUnder, Node.declaresUnder, Standing.isPart, hkind]

theorem treats_importDeclaration (hshaped : ∀ m ∈ t.node.nodes, m.isShaped = true)
    (hkind : t.node.kind = some .importDeclaration) :
    t.node.id = x ∨ t.importDeclaration.Treats x ↔ t.node.shows false x := by
  have hn := hshaped t.node t.node.mem_nodes_self
  have hspecifiers : Fact.Places x (((t.node.items .specifiers).filterMap id).flatMap
      fun specifier ↦ .placed specifier.id t.place.scope :: specifierName t.place specifier) ↔
      t.node.showsUnder true .specifiers x := by
    rw [Node.showsUnder_iff_items, Fact.Places]
    simp only [List.mem_flatMap, List.mem_filterMap, id_eq, exists_eq_right]
    rw [exists_comm]
    refine exists_congr fun specifier ↦ ?_
    rw [exists_and_left]
    refine and_congr_right fun hitem ↦ ?_
    have hmem := Node.mem_items_iff.mp hitem
    have hspecifier : specifier.isSpecifier = true := by
      simpa [Node.admits, hkind] using Node.admits_of_isShaped hn hmem
    exact places_specifier (shaped_child hshaped hmem) hspecifier
  have hsource : Fact.Places x (importSource t.place t.node) ↔
      t.node.showsUnder false .source x := by
    rw [Node.showsUnder_iff_child
      (Node.length_items_of_isShaped hn hkind rfl (by decide) (by decide)), importSource]
    cases hchild : t.node.child? .source with
    | none => simp
    | some child =>
      have hmem := Node.mem_branches_of_child? hchild
      have hliteral : child.hasKind .literal = true := by
        simpa [Node.admits, hkind] using Node.admits_of_isShaped hn hmem
      have hnaming : child.isNaming = true := by simp [Node.isNaming, hliteral]
      simp [Node.shows_of_isNaming (shaped_child hshaped hmem child child.mem_nodes_self) hnaming]
  rw [Node.shows_iff_labels hn hkind rfl, importDeclaration_eq, Outcome.Treats, Fact.places_append,
    hspecifiers, hsource]
  simp [Node.isPassedOver, Node.declaredUnder, Node.declaresUnder, Standing.isPart, hkind]

/-- Nothing is passed over below a node of which all children are tasks. -/
theorem treats_ofChildren (hdeclares : ∀ field, t.node.declaresUnder field = false)
    {facts : List Fact} (hfacts : ¬ Fact.Places x facts) :
    t.node.id = x ∨ (Outcome.mk facts (ofChildren t.node place)).Treats x ↔
      t.node.shows false x := by
  have hpassed (field : Field) : t.node.isPassedOver false field = false := by
    unfold Node.isPassedOver
    split <;> simp
  rw [Node.shows_iff, Outcome.Treats, show_ofChildren]
  simp [hfacts, hpassed, Node.declaredUnder, hdeclares]

end Handlers

/-- What working off a task places and leaves to be done is what is reached from its node. -/
theorem treats_expand {t : Task} {fresh : ScopeId}
    (hshaped : ∀ m ∈ t.node.nodes, m.isShaped = true) :
    (t.expand fresh).Treats x ↔ t.node.shows false x := by
  have hn := hshaped t.node t.node.mem_nodes_self
  have hplaced {outcome : Outcome} (h : t.node.id = x ∨ outcome.Treats x ↔ t.node.shows false x) :
      Outcome.Treats x { outcome with
        facts := .placed t.node.id t.place.scope :: outcome.facts } ↔ t.node.shows false x := by
    rw [← h, Outcome.Treats, Outcome.Treats, Fact.places_placed, or_assoc]
  unfold expand
  apply hplaced
  split
  · rename_i hkind
    exact treats_identifier hn hkind
  · rename_i hkind
    exact treats_function hshaped (.inl hkind)
  · rename_i hkind
    exact treats_function hshaped (.inr (.inl hkind))
  · rename_i hkind
    exact treats_function hshaped (.inr (.inr hkind))
  · rename_i hkind
    exact treats_variableDeclaration hshaped hkind
  · rename_i hkind
    exact treats_catchClause hshaped hkind
  · rename_i hkind
    exact treats_block hn hkind
  · rename_i hkind
    exact treats_ofChildren (by simp [Node.declaresUnder, hkind]) (by simp)
  · rename_i hkind
    exact treats_ofChildren (by simp [Node.declaresUnder, hkind]) (by simp)
  · rename_i hkind
    exact treats_ofChildren (by simp [Node.declaresUnder, hkind]) (by simp)
  · rename_i hkind
    exact treats_switch hn hkind
  · rename_i hkind
    exact treats_classLike hshaped (.inl hkind)
  · rename_i hkind
    exact treats_classLike hshaped (.inr hkind)
  · rename_i hkind
    exact treats_importDeclaration hshaped hkind
  · rename_i hkind
    exact treats_property hn hkind
  · rename_i hkind
    exact treats_assignmentPattern hn hkind
  · refine treats_ofChildren (fun field ↦ ?_) (by simp)
    unfold Node.declaresUnder
    split <;> simp_all

end Task

/-! ## Whole surveys -/

/-- A whole survey gives a place to all nodes that are reached from its tasks. -/
theorem places_survey {R : Node → Prop} (hR : Node.Hereditary R)
    (hshaped : ∀ n, R n → ∀ m ∈ n.nodes, m.isShaped = true) {fresh : ScopeId} {tasks : List Task}
    (htasks : ∀ t ∈ tasks, R t.node ∧ Node.Owned R t.owner t.node) {facts : List Fact}
    (hfacts : survey fresh tasks = .ok facts) : Fact.Places x facts ↔ Task.Show x tasks := by
  induction hfacts using survey_ok_induction with
  | nil fresh => simp
  | step fresh t rest later _ _ hlater ih =>
    obtain ⟨hmem, howned⟩ := htasks t List.mem_cons_self
    have hstep : (t.expand fresh).Treats x ↔ _ := Task.treats_expand (hshaped t.node hmem)
    rw [Fact.places_append, ih (Task.owned_tasks hR htasks fresh), Task.show_append, ← or_assoc]
    change (t.expand fresh).Treats x ∨ Task.Show x rest ↔ _
    simp [hstep, Task.Show]

namespace Program

variable {tree : Node}

/-- The facts about a program give a place to the nodes that are reached from its root. -/
theorem places_facts (h : tree.WellFormed) {facts : List Fact}
    (hfacts : Program.facts tree = .ok facts) : Fact.Places x facts ↔ tree.shows false x := by
  obtain ⟨later, hlater, rfl⟩ := map_eq_ok_iff.mp hfacts
  have hsurvey : Fact.Places x later ↔
      Task.Show x (Task.ofItems tree .body ⟨0, 0⟩ (tree.items .body)) :=
    places_survey (Node.hereditary_mem_nodes tree)
      (fun n hn m hm ↦ h.shaped m (Node.mem_nodes_trans hn hm))
      (fun t ht ↦ ⟨(standsAt_start tree t ht).mem, (standsAt_start tree t ht).owned⟩) hlater
  rw [Fact.places_append, hsurvey, Task.show_ofItems,
    Node.shows_iff_labels (h.shaped tree tree.mem_nodes_self) h.program rfl]
  simp [Node.isPassedOver, Node.declaredUnder, Node.declaresUnder, Standing.isPart, h.program]

end Program

end Relabel
