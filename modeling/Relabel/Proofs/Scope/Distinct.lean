import Relabel.Proofs.Scope.Survey

/-!
# Every identifier is a site once

An identifier that may stand for a variable is stated to be a site at most once for every path that
leads to it. The proof counts: for each identity, what a task states and what it leaves to be done
do not mention it more often than the part of the tree that the task is about.
-/

namespace Relabel

/-- A label under which an identifier can be bound or referred to, whatever node holds it. -/
def Field.holdsNames : Field → Bool
  | .property | .key | .label | .exported | .imported => false
  | _ => true

namespace Edge

/-- An identifier that may stand for a variable: one that names no property, label or member of a
module. The parts of a meta property count, since a pattern may be made of anything. -/
def isVariable (e : Edge) : Bool :=
  e.child.isIdentifier &&
    (!Task.isPropertyName e.parent e.field || e.parent.hasKind .metaProperty)

/-- An edge at which an identity may stand for a variable. -/
def names (x : NodeId) (e : Edge) : Bool :=
  e.isVariable && e.child.id == x

end Edge

/-- The identifiers of a tree that may stand for a variable, once for every path. -/
def Node.variableIds (n : Node) : List NodeId :=
  (n.edges.filter Edge.isVariable).map (·.child.id)

section

open Edge (names)

variable (x : NodeId)

namespace Edge

theorem isVariable_of_holdsNames {parent n : Node} {field : Field} (hn : n.isIdentifier = true)
    (hfield : field.holdsNames = true) : (Edge.mk parent field n).isVariable = true := by
  unfold isVariable
  rw [hn, Bool.true_and]
  by_cases hmeta : parent.hasKind .metaProperty = true
  · simp [hmeta]
  · have hname : Task.isPropertyName parent field = false := by
      unfold Task.isPropertyName
      simp only [Node.hasKind, beq_iff_eq] at hmeta
      split <;> simp_all [Field.holdsNames]
      all_goals rintro rfl; simp at hfield
    simp [hname]

theorem count_id_le (parent : Node) (field : Field) {n : Node}
    (h : (Edge.mk parent field n).isVariable = true) :
    [n.id].count x ≤ Edge.count (names x) ⟨parent, field, n⟩ := by
  rw [Edge.count_eq, names, h, Bool.true_and, List.count_singleton]
  exact Nat.le_add_left _ _

end Edge

/-- How often facts have an identity as a site. -/
def Fact.mentions (facts : List Fact) : Nat :=
  ((facts.flatMap sites).map Site.id).count x

/-- How often an identity stands for a variable in what tasks are about. -/
def Task.uses (tasks : List Task) : Nat :=
  total (tasks.map fun t ↦ Edge.count (names x) ⟨t.parent, t.field, t.node⟩)

@[simp]
theorem Fact.mentions_append (a b : List Fact) :
    mentions x (a ++ b) = mentions x a + mentions x b := by
  simp [mentions]

@[simp]
theorem Fact.mentions_placed (n : NodeId) (scope : ScopeId) (facts : List Fact) :
    mentions x (.placed n scope :: facts) = mentions x facts := rfl

@[simp]
theorem Fact.mentions_opened (type : ScopeType) (n : Node) (parent : Option ScopeId)
    (facts : List Fact) : mentions x (.opened type n parent :: facts) = mentions x facts := rfl

@[simp]
theorem Fact.mentions_nil : mentions x [] = 0 := rfl

@[simp]
theorem Task.uses_nil : uses x [] = 0 := rfl

@[simp]
theorem Task.uses_append (a b : List Task) : uses x (a ++ b) = uses x a + uses x b := by
  simp [uses]

@[simp]
theorem Task.uses_reverse (a : List Task) : uses x a.reverse = uses x a := by
  simp [uses]

/-- How often a declaration mentions an identity, now or later. -/
def Declared.tally (d : Declared) : Nat :=
  Fact.mentions x d.facts + Task.uses x d.deferred

@[simp]
theorem Declared.tally_append (a b : Declared) : (a ++ b).tally x = a.tally x + b.tally x := by
  simp only [tally, facts_append, deferred_append, Fact.mentions_append, Task.uses_append]
  omega

@[simp]
theorem Declared.tally_empty : ({} : Declared).tally x = 0 := rfl

@[simp]
theorem Declared.tally_placed (n : NodeId) (scope : ScopeId) :
    (⟨[.placed n scope], []⟩ : Declared).tally x = 0 := rfl

namespace Declaring

variable (d : Declaring)

theorem tally_identifier (n parent : Node) (owner : Option Node) :
    (d.identifier n parent owner).tally x = [n.id].count x := rfl

theorem tally_defer (n parent : Node) (field : Field) :
    (d.defer n parent field).tally x = Edge.count (names x) ⟨parent, field, n⟩ := by
  simp [Declared.tally, defer, Task.uses]

theorem tally_later_le (parent : Node) (field : Field) :
    (d.later parent field).tally x ≤ parent.countUnder (names x) field := by
  unfold later
  cases hchild : parent.child? field with
  | none => exact Nat.zero_le _
  | some child =>
    rw [tally_defer]
    exact Node.count_le_countUnder (names x) (Node.mem_branches_of_child? hchild)

theorem tally_part_le {parent : Node} {owner : Option Node} {field : Field}
    (h : ∀ n, (field, some n) ∈ parent.branches →
      (d.pattern parent owner n).tally x ≤ Edge.count (names x) ⟨parent, field, n⟩) :
    (d.part parent owner field).tally x ≤ parent.countUnder (names x) field := by
  unfold part
  cases hchild : parent.child? field with
  | none => exact Nat.zero_le _
  | some n =>
    have hmem := Node.mem_branches_of_child? hchild
    exact Nat.le_trans (h n hmem) (Node.count_le_countUnder (names x) hmem)

theorem tally_patterns_le (parent : Node) (field : Field) (items : List (Option Node))
    (h : ∀ n, some n ∈ items →
      (d.pattern parent none n).tally x ≤ Edge.count (names x) ⟨parent, field, n⟩) :
    (d.patterns parent items).tally x ≤
      Edge.countItems (names x) parent field items := by
  induction items with
  | nil => exact Nat.zero_le _
  | cons item rest ih =>
    have hrest := ih fun n hn ↦ h n (List.mem_cons_of_mem item hn)
    cases item with
    | none => exact hrest
    | some n =>
      rw [patterns, Declared.tally_append]
      exact Nat.add_le_add (h n List.mem_cons_self) hrest

theorem tally_propertyList_le (parent : Node) (field : Field) (items : List (Option Node))
    (h : ∀ n, some n ∈ items → (d.property n).tally x ≤ n.count (names x)) :
    (d.propertyList items).tally x ≤
      Edge.countItems (names x) parent field items := by
  induction items with
  | nil => exact Nat.zero_le _
  | cons item rest ih =>
    have hrest := ih fun n hn ↦ h n (List.mem_cons_of_mem item hn)
    cases item with
    | none => exact hrest
    | some n =>
      have hn := Nat.le_trans (h n List.mem_cons_self) (Edge.count_le (names x) parent field n)
      rw [propertyList, Declared.tally_append]
      exact Nat.add_le_add hn hrest

/-- A pattern and a property of a pattern mention what stands below them. -/
theorem tally_pattern_and_property_le (n : Node) :
    (∀ parent owner field, field.holdsNames = true →
        (d.pattern parent owner n).tally x ≤ Edge.count (names x) ⟨parent, field, n⟩) ∧
      (d.property n).tally x ≤ n.count (names x) := by
  induction n using Node.induction with
  | step n ih =>
    have hpart (owner : Option Node) (field : Field) (hfield : field.holdsNames = true) :
        (d.part n owner field).tally x ≤ n.countUnder (names x) field :=
      d.tally_part_le x fun child hchild ↦ (ih field child hchild).1 n owner field hfield
    have hargument := hpart none .argument rfl
    have hargumentLe := n.countUnder_le (names x) .argument
    constructor
    · intro parent owner field hfield
      have hbelow := Edge.count_le (names x) parent field n
      rw [pattern_eq, Declared.tally_append, Declared.tally_placed, Nat.zero_add]
      split
      · rename_i hkind
        rw [tally_identifier]
        apply Edge.count_id_le x parent field
        exact Edge.isVariable_of_holdsNames (Node.isIdentifier_iff.mpr hkind) hfield
      · have hlist := d.tally_propertyList_le x n .properties (n.items .properties)
          fun prop hprop ↦ (ih _ _ (Node.mem_items_iff.mp hprop)).2
        rw [← Node.countUnder_eq_items] at hlist
        have hunder := n.countUnder_le (names x) .properties
        omega
      · have hlist := d.tally_patterns_le x n .elements (n.items .elements)
          fun element helement ↦ (ih _ _ (Node.mem_items_iff.mp helement)).1 n none .elements rfl
        rw [← Node.countUnder_eq_items] at hlist
        have hunder := n.countUnder_le (names x) .elements
        omega
      · have hleft := hpart owner .left rfl
        have hright := d.tally_later_le x n .right
        have hboth := n.countUnder_pair_le (names x) (by decide : Field.left ≠ .right)
        rw [Declared.tally_append]
        omega
      · omega
      · rename_i hidentifier _ _ _ _
        have hnames (field : Field) : ¬ names x ⟨parent, field, n⟩ = true := by
          intro hnames
          rw [names, Edge.isVariable, Bool.and_eq_true, Bool.and_eq_true] at hnames
          exact hidentifier (beq_iff_eq.mp hnames.1.1)
        rw [tally_defer, Edge.count_eq, Edge.count_eq, if_neg (hnames _), if_neg (hnames _)]
    · have hkey := d.tally_later_le x n .key
      have hvalue := hpart (if n.head.shorthand then some n else none) .value rfl
      have hboth := n.countUnder_pair_le (names x) (by decide : Field.key ≠ .value)
      unfold property
      rw [Declared.tally_append, Declared.tally_placed, Nat.zero_add]
      split
      · omega
      · rw [Declared.tally_append]
        split
        · omega
        · rw [Declared.tally_empty]
          omega

end Declaring

/-! ## What tasks mention -/

namespace Task

variable {fresh : ScopeId} {t : Task}

theorem uses_ofItems (parent : Node) (field : Field) (place : Place) :
    uses x (ofItems parent field place (parent.items field)) =
      parent.countUnder (names x) field := by
  rw [Node.countUnder_eq_items, uses, ofItems, List.map_filterMap, Edge.countItems]
  congr 1
  apply List.filterMap_congr
  intro item _
  cases item <;> rfl

theorem uses_ofChild_le (parent : Node) (field : Field) (place : Place) (owner : Option Node) :
    uses x (ofChild parent field place owner) ≤ parent.countUnder (names x) field := by
  unfold ofChild
  cases hchild : parent.child? field with
  | none => exact Nat.zero_le _
  | some n => exact Node.count_le_countUnder (names x) (Node.mem_branches_of_child? hchild)

theorem uses_ofChildren (parent : Node) (place : Place) :
    uses x (ofChildren parent place) = parent.count (names x) := by
  rw [Node.count_eq, uses, ofChildren, List.map_map]
  rfl

theorem mentions_declareName_le (d : Declaring) (n : Node) :
    Fact.mentions x (declareName d n) ≤ n.countUnder (names x) .id := by
  unfold declareName
  cases hname : ownName? n with
  | none => exact Nat.zero_le _
  | some name =>
    obtain ⟨hchild, hidentifier⟩ := Option.filter_eq_some_iff.mp hname
    have hid := Edge.count_id_le x n .id
      (Edge.isVariable_of_holdsNames hidentifier rfl)
    exact Nat.le_trans hid (Node.count_le_countUnder _ (Node.mem_branches_of_child? hchild))

theorem mentions_nameOf_le (kind : Kind) (d : Declaring) (n : Node) :
    Fact.mentions x (nameOf kind d n) ≤
      if n.hasKind kind then n.countUnder (names x) .id else 0 := by
  unfold nameOf
  split
  · exact mentions_declareName_le x d n
  · exact Nat.le_refl _

/-- The statements of a block stand below the block. -/
theorem uses_blockBody_le {n body : Node} (place : Place) (hbody : ownBlock? n = some body) :
    uses x (blockBody place body).tasks ≤ n.countUnder (names x) .body := by
  obtain ⟨hchild, -⟩ := Option.filter_eq_some_iff.mp hbody
  have hbelow := body.countUnder_le (names x) .body
  have hedge := Edge.count_le (names x) n .body body
  have hunder := Node.count_le_countUnder (names x) (Node.mem_branches_of_child? hchild)
  rw [blockBody, uses_ofItems]
  exact Nat.le_trans (Nat.le_trans hbelow hedge) hunder

/-- How often working off a task mentions an identity, now or later. -/
def Outcome.tally (outcome : Outcome) : Nat :=
  Fact.mentions x outcome.facts + uses x outcome.tasks

theorem tally_functionBody_le (place : Place) (n : Node) :
    (functionBody place n).tally x ≤ n.countUnder (names x) .body := by
  unfold functionBody
  cases hblock : ownBlock? n with
  | some body => exact Nat.le_trans (Nat.zero_add _).le (uses_blockBody_le x place hblock)
  | none => exact Nat.le_trans (Nat.zero_add _).le (uses_ofChild_le x n .body place none)

theorem tally_catchBody_le (place : Place) (n : Node) :
    (catchBody place n).tally x ≤ n.countUnder (names x) .body := by
  unfold catchBody
  cases hblock : ownBlock? n with
  | some body => exact Nat.le_trans (Nat.zero_add _).le (uses_blockBody_le x place hblock)
  | none => exact Nat.zero_le _

theorem tally_function_le : (t.function fresh).tally x ≤ t.node.count (names x) := by
  have hfields := t.node.countUnder_fields_le (names x)
    [.id, .params, .body] (by decide)
  have houter := mentions_nameOf_le x .functionDeclaration
    ⟨t.place.scope, .function, t.place⟩ t.node
  have hinner := mentions_nameOf_le x .functionExpression ⟨fresh, .ownName, ⟨fresh, fresh⟩⟩ t.node
  have hparams : (functionParams fresh t.node).tally x ≤ t.node.countUnder (names x) .params := by
    rw [Node.countUnder_eq_items]
    exact Declaring.tally_patterns_le x _ _ _ _ fun n _ ↦
      (Declaring.tally_pattern_and_property_le x _ n).1 t.node none .params rfl
  have hbody := tally_functionBody_le x ⟨fresh, fresh⟩ t.node
  -- A function is a declaration or an expression, so its name is declared once.
  have hname (k : Nat) : (if t.node.hasKind .functionDeclaration then k else 0) +
      (if t.node.hasKind .functionExpression then k else 0) ≤ k := by
    unfold Node.hasKind
    rcases t.node.kind with _ | kind
    · simp
    · cases kind <;> simp
  have hnames := hname (t.node.countUnder (names x) .id)
  simp only [List.map_cons, List.map_nil, total_cons, total_nil] at hfields
  simp only [Declared.tally, Outcome.tally] at hparams hbody
  rw [function_eq]
  simp only [Outcome.tally, Fact.mentions_append, Fact.mentions_opened, uses_append, uses_reverse]
  omega

theorem tally_catchClause_le : (t.catchClause fresh).tally x ≤ t.node.count (names x) := by
  have hboth := t.node.countUnder_pair_le (names x) (by decide : Field.param ≠ .body)
  have hparam : (catchParam ⟨fresh, t.place.hoist⟩ t.node).tally x ≤
      t.node.countUnder (names x) .param :=
    Declaring.tally_part_le x _ fun n _ ↦
      (Declaring.tally_pattern_and_property_le x _ n).1 t.node none .param rfl
  have hbody := tally_catchBody_le x ⟨fresh, t.place.hoist⟩ t.node
  simp only [Declared.tally, Outcome.tally] at hparam hbody
  rw [catchClause_eq]
  simp only [Outcome.tally, Fact.mentions_append, Fact.mentions_opened, uses_append, uses_reverse]
  omega

theorem tally_declarators_le (target : ScopeId) (parent : Node) (field : Field)
    (items : List (Option Node)) :
    (declarators t target items).tally x ≤
      Edge.countItems (names x) parent field items := by
  induction items with
  | nil => exact Nat.zero_le _
  | cons item rest ih =>
    cases item with
    | none => exact ih
    | some declarator =>
      have hboth := declarator.countUnder_pair_le (names x) (by decide : Field.id ≠ .init)
      have hedge := Edge.count_le (names x) parent field declarator
      have hbound : (Declaring.part ⟨target, .declaration t.node.head.variety, t.place⟩ declarator
          none .id).tally x ≤ declarator.countUnder (names x) .id :=
        Declaring.tally_part_le x _ fun n _ ↦
          (Declaring.tally_pattern_and_property_le x _ n).1 declarator none .id rfl
      have hinit := uses_ofChild_le x declarator .init t.place none
      simp only [Declared.tally, Outcome.tally] at hbound ih
      simp only [declarators, Declaring.under_eq_part, Outcome.tally, Fact.mentions_append,
        Fact.mentions_placed, uses_append, uses_reverse, Edge.countItems_some]
      omega

theorem tally_classLike_le : (t.classLike fresh).tally x ≤ t.node.count (names x) := by
  have hfields := t.node.countUnder_fields_le (names x)
    [.id, .superClass, .body] (by decide)
  have hname (d : Declaring) := mentions_declareName_le x d t.node
  have hparts (place : Place) : uses x (ofChild t.node .superClass place none ++
      ofChild t.node .body place none) ≤
        t.node.countUnder (names x) .superClass + t.node.countUnder (names x) .body := by
    rw [uses_append]
    exact Nat.add_le_add (uses_ofChild_le x _ _ _ _) (uses_ofChild_le x _ _ _ _)
  simp only [List.map_cons, List.map_nil, total_cons, total_nil] at hfields
  unfold classLike
  split
  · have houter := hname ⟨t.place.scope, .classDeclaration, t.place⟩
    have hpart := hparts t.place
    simp only [Outcome.tally]
    omega
  · split
    · have hinner := hname ⟨fresh, .ownName, ⟨fresh, t.place.hoist⟩⟩
      have hpart := hparts ⟨fresh, t.place.hoist⟩
      simp only [Outcome.tally, List.singleton_append, Fact.mentions_opened]
      omega
    · have hpart := hparts t.place
      simp only [Outcome.tally, Fact.mentions_nil]
      omega

theorem mentions_specifierName_le (place : Place) (specifier : Node) :
    Fact.mentions x (specifierName place specifier) ≤
      specifier.countUnder (names x) .localName := by
  unfold specifierName
  cases hname : (specifier.child? .localName).filter (·.isIdentifier) with
  | none => exact Nat.zero_le _
  | some name =>
    obtain ⟨hchild, hidentifier⟩ := Option.filter_eq_some_iff.mp hname
    have hid := Edge.count_id_le x specifier .localName
      (Edge.isVariable_of_holdsNames hidentifier rfl)
    exact Nat.le_trans hid (Node.count_le_countUnder _ (Node.mem_branches_of_child? hchild))

theorem mentions_specifiers_le (place : Place) (parent : Node) (field : Field)
    (items : List (Option Node)) :
    Fact.mentions x ((items.filterMap id).flatMap fun specifier ↦
        .placed specifier.id place.scope :: specifierName place specifier) ≤
      Edge.countItems (names x) parent field items := by
  induction items with
  | nil => exact Nat.zero_le _
  | cons item rest ih =>
    cases item with
    | none => exact ih
    | some specifier =>
      have hedge := Edge.count_le (names x) parent field specifier
      have hunder := specifier.countUnder_le (names x) .localName
      have hname := mentions_specifierName_le x place specifier
      have hitems : (some specifier :: rest).filterMap id = specifier :: rest.filterMap id := rfl
      simp only [hitems, List.flatMap_cons, Fact.mentions_append, Fact.mentions_placed,
        Edge.countItems_some]
      omega

theorem tally_importDeclaration_le :
    t.importDeclaration.tally x ≤ t.node.count (names x) := by
  have hunder := t.node.countUnder_le (names x) .specifiers
  have hspecifiers := mentions_specifiers_le x t.place t.node .specifiers (t.node.items .specifiers)
  have hsource : Fact.mentions x (importSource t.place t.node) = 0 := by
    unfold importSource
    cases t.node.child? .source <;> rfl
  rw [← Node.countUnder_eq_items] at hspecifiers
  rw [importDeclaration_eq]
  simp only [Outcome.tally, Fact.mentions_append, uses_nil]
  omega

theorem tally_identifier_le (hkind : t.node.kind = some .identifier) :
    t.identifier.tally x ≤ Edge.count (names x) ⟨t.parent, t.field, t.node⟩ := by
  by_cases hname : isPropertyName t.parent t.field = true
  · simp [identifier, hname, Outcome.tally]
  · have hvariable : (Edge.mk t.parent t.field t.node).isVariable = true := by
      simp [Edge.isVariable, Node.isIdentifier_iff.mpr hkind, hname]
    have htally : t.identifier.tally x = [t.node.id].count x := by
      simp [identifier, hname, Outcome.tally, Fact.mentions, Fact.sites, Site.id]
    rw [htally]
    exact Edge.count_id_le x _ _ hvariable

theorem tally_variableDeclaration_le : t.variableDeclaration.tally x ≤ t.node.count (names x) := by
  have hdeclarators := tally_declarators_le x (t := t)
    (if t.node.head.variety == some "var" then t.place.hoist else t.place.scope)
    t.node .declarations (t.node.items .declarations)
  rw [← Node.countUnder_eq_items] at hdeclarators
  exact Nat.le_trans hdeclarators (t.node.countUnder_le (names x) .declarations)

theorem tally_block_le : (t.block fresh).tally x ≤ t.node.count (names x) := by
  simp only [block, Outcome.tally, Fact.mentions_opened, Fact.mentions_nil, uses_ofItems,
    Nat.zero_add]
  exact t.node.countUnder_le (names x) .body

theorem tally_loop_le : (t.loop fresh).tally x ≤ t.node.count (names x) := by
  simp [Outcome.tally, loop, uses_ofChildren]

theorem tally_switch_le : (t.switch fresh).tally x ≤ t.node.count (names x) := by
  have hboth := t.node.countUnder_pair_le (names x) (by decide : Field.discriminant ≠ .cases)
  have hdiscriminant := uses_ofChild_le x t.node .discriminant t.place none
  simp only [switch, Outcome.tally, Fact.mentions_opened, Fact.mentions_nil, uses_append,
    uses_ofItems]
  omega

theorem tally_property_le : t.property.tally x ≤ t.node.count (names x) := by
  have hboth := t.node.countUnder_pair_le (names x) (by decide : Field.key ≠ .value)
  have hkey := uses_ofChild_le x t.node .key t.place none
  have hvalue := uses_ofChild_le x t.node .value t.place
    (if t.node.head.shorthand then some t.node else none)
  simp only [property, Outcome.tally, Fact.mentions_nil, uses_append]
  omega

theorem tally_assignmentPattern_le : t.assignmentPattern.tally x ≤ t.node.count (names x) := by
  have hboth := t.node.countUnder_pair_le (names x) (by decide : Field.left ≠ .right)
  have hleft := uses_ofChild_le x t.node .left t.place t.owner
  have hright := uses_ofChild_le x t.node .right t.place none
  simp only [assignmentPattern, Outcome.tally, Fact.mentions_nil, uses_append]
  omega

/-- Working off a task does not mention an identity more often than what the task is about. -/
theorem tally_expand_le (fresh : ScopeId) (t : Task) :
    (t.expand fresh).tally x ≤ Edge.count (names x) ⟨t.parent, t.field, t.node⟩ := by
  have hbelow := Edge.count_le (names x) t.parent t.field t.node
  -- Saying where the node sits mentions nothing.
  have hplaced {outcome : Outcome} (h : outcome.tally x ≤
        Edge.count (names x) ⟨t.parent, t.field, t.node⟩) :
      Outcome.tally x { outcome with facts := .placed t.node.id t.place.scope :: outcome.facts } ≤
        Edge.count (names x) ⟨t.parent, t.field, t.node⟩ := h
  apply hplaced
  split
  · rename_i hkind
    exact tally_identifier_le x hkind
  · exact Nat.le_trans (tally_function_le x) hbelow
  · exact Nat.le_trans (tally_function_le x) hbelow
  · exact Nat.le_trans (tally_function_le x) hbelow
  · exact Nat.le_trans (tally_variableDeclaration_le x) hbelow
  · exact Nat.le_trans (tally_catchClause_le x) hbelow
  · exact Nat.le_trans (tally_block_le x) hbelow
  · exact Nat.le_trans (tally_loop_le x) hbelow
  · exact Nat.le_trans (tally_loop_le x) hbelow
  · exact Nat.le_trans (tally_loop_le x) hbelow
  · exact Nat.le_trans (tally_switch_le x) hbelow
  · exact Nat.le_trans (tally_classLike_le x) hbelow
  · exact Nat.le_trans (tally_classLike_le x) hbelow
  · exact Nat.le_trans (tally_importDeclaration_le x) hbelow
  · exact Nat.le_trans (tally_property_le x) hbelow
  · exact Nat.le_trans (tally_assignmentPattern_le x) hbelow
  · simp only [Outcome.tally, Fact.mentions_nil, uses_ofChildren]
    omega

end Task

/-- What a whole survey states mentions an identity at most as often as its tasks. -/
theorem mentions_survey_le {fresh : ScopeId} {tasks : List Task} {facts : List Fact}
    (h : survey fresh tasks = .ok facts) : Fact.mentions x facts ≤ Task.uses x tasks := by
  induction h using survey_ok_induction with
  | nil fresh => exact Nat.le_refl _
  | step fresh t rest later _ _ hlater hrest =>
    have hstep := t.tally_expand_le x fresh
    have hcons : Task.uses x (t :: rest) =
      Edge.count (names x) ⟨t.parent, t.field, t.node⟩ + Task.uses x rest := rfl
    simp only [Task.Outcome.tally, Task.uses_append, Fact.mentions_append] at hstep hrest ⊢
    omega

theorem Program.mentions_facts_le {tree : Node} {facts : List Fact}
    (h : Program.facts tree = .ok facts) : Fact.mentions x facts ≤ tree.count (names x) := by
  obtain ⟨later, hlater, rfl⟩ := map_eq_ok_iff.mp h
  have hsurvey := mentions_survey_le x hlater
  rw [Task.uses_ofItems] at hsurvey
  exact Nat.le_trans hsurvey (tree.countUnder_le (names x) .body)

end

theorem Node.count_variableIds (tree : Node) (x : NodeId) :
    tree.variableIds.count x = tree.count (Edge.names x) := by
  rw [variableIds, List.count, List.countP_map, List.countP_filter]
  exact List.countP_congr fun e _ ↦ by simp [Edge.names, and_comm]

/-- The sites of a program mention an identifier at most as often as it stands for a variable. -/
theorem Program.count_sites_le {tree : Node} {facts : List Fact}
    (h : Program.facts tree = .ok facts) (x : NodeId) :
    ((facts.flatMap Fact.sites).map Site.id).count x ≤ tree.variableIds.count x := by
  rw [tree.count_variableIds]
  exact mentions_facts_le x h

/-- If no identifier that may stand for a variable is held twice, the sites of a program are
different identifiers. -/
theorem Program.nodup_sites {tree : Node} (hvariables : tree.variableIds.Nodup)
    {facts : List Fact} (h : Program.facts tree = .ok facts) :
    ((facts.flatMap Fact.sites).map Site.id).Nodup := by
  rw [List.nodup_iff_count] at hvariables ⊢
  exact fun x ↦ Nat.le_trans (count_sites_le h x) (hvariables x)

end Relabel
