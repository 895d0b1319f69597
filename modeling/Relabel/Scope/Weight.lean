import Relabel.Scope.Fact

/-!
# Tasks get smaller

Working off a task leaves tasks on disjoint parts of its node, so that their nodes together are
smaller than the node. This bounds the analysis of a program by the program's size.
-/

namespace Relabel

/-- The total size of the children in a list of branches. -/
def branchWeight (branches : List (Field × Option Node)) : Nat :=
  total ((branches.filterMap Prod.snd).map Node.size)

/-- The total size of the children under one label. -/
def weightUnder (field : Field) (branches : List (Field × Option Node)) : Nat :=
  total ((branches.filterMap fun b ↦ if b.1 = field then b.2 else none).map Node.size)

@[simp]
theorem branchWeight_cons_some (field : Field) (child : Node)
    (rest : List (Field × Option Node)) :
    branchWeight ((field, some child) :: rest) = child.size + branchWeight rest := rfl

@[simp]
theorem branchWeight_cons_none (field : Field) (rest : List (Field × Option Node)) :
    branchWeight ((field, none) :: rest) = branchWeight rest := rfl

theorem size_eq_branchWeight (n : Node) : n.size = 1 + branchWeight n.branches := by
  have shape : ∀ branches : List (Field × Option Node),
      total ((branches.filterMap fun b ↦ b.2.map (b.1, ·)).map fun c : Field × Node ↦ c.2.size) =
        branchWeight branches := by
    intro branches
    induction branches with
    | nil => rfl
    | cons b rest ih =>
      obtain ⟨field, child⟩ := b
      cases child <;> simp_all [branchWeight]
  rw [Node.size_eq, Node.children, shape]

theorem weightUnder_add_le {f g : Field} (h : f ≠ g) (branches : List (Field × Option Node)) :
    weightUnder f branches + weightUnder g branches ≤ branchWeight branches := by
  induction branches with
  | nil => simp [weightUnder, branchWeight]
  | cons b rest ih =>
    obtain ⟨field, child⟩ := b
    simp only [weightUnder, branchWeight] at ih ⊢
    cases child with
    | none => simpa using ih
    | some child =>
      by_cases hf : field = f
      · subst hf
        simp [h]
        omega
      · by_cases hg : field = g
        · subst hg
          simp [hf]
          omega
        · simp [hf, hg]
          omega

theorem weightUnder_le (f : Field) (branches : List (Field × Option Node)) :
    weightUnder f branches ≤ branchWeight branches := by
  by_cases h : f = .body
  · have := weightUnder_add_le (f := f) (g := .id) (by simp [h]) branches
    omega
  · have := weightUnder_add_le h branches
    omega

namespace Task

@[simp]
theorem weight_nil : weight [] = 0 := rfl

@[simp]
theorem weight_append (a b : List Task) : weight (a ++ b) = weight a + weight b := by
  simp [weight]

@[simp]
theorem weight_reverse (a : List Task) : weight a.reverse = weight a := by
  simp [weight]

theorem weight_ofItems (parent n : Node) (field f : Field) (place : Place) :
    weight (ofItems parent f place (n.items field)) = weightUnder field n.branches := by
  obtain ⟨head, branches⟩ := n
  simp only [weight, ofItems, Node.items, weightUnder, Node.branches]
  induction branches with
  | nil => rfl
  | cons b rest ih =>
    obtain ⟨f, child⟩ := b
    by_cases h : f = field <;> cases child <;> simp_all

theorem child?_size_le (n : Node) (field : Field) :
    ∀ child, n.child? field = some child → child.size ≤ weightUnder field n.branches := by
  obtain ⟨head, branches⟩ := n
  simp only [Node.child?, Node.items, weightUnder, Node.branches]
  induction branches with
  | nil => simp
  | cons b rest ih =>
    obtain ⟨f, item⟩ := b
    intro child found
    by_cases h : f = field
    · cases item with
      | none => simp_all
      | some item =>
        simp [h] at found
        subst found
        simp [h]
    · simp only [h, if_false, List.filterMap_cons_none] at found ⊢
      exact ih child found

theorem weight_ofChild_le (parent : Node) (field : Field) (place : Place) (owner : Option Node) :
    weight (ofChild parent field place owner) ≤ weightUnder field parent.branches := by
  unfold ofChild
  split
  · rename_i n found
    simpa [weight] using child?_size_le parent field n found
  · simp

theorem weight_ofChildren (parent : Node) (place : Place) :
    weight (ofChildren parent place) < parent.size := by
  have h := parent.total_size_children_lt
  simpa [weight, ofChildren, Function.comp_def] using h

end Task

namespace Declared

def weight (d : Declared) : Nat := Task.weight d.deferred

@[simp]
theorem weight_append (a b : Declared) : (a ++ b).weight = a.weight + b.weight :=
  Task.weight_append a.deferred b.deferred

@[simp]
theorem weight_mk_nil (facts : List Fact) : (Declared.mk facts []).weight = 0 := rfl

end Declared

namespace Declaring

theorem weight_deferUnder_le (d : Declaring) (parent : Node) (field : Field)
    (branches : List (Field × Option Node)) :
    (d.deferUnder parent field branches).weight ≤ weightUnder field branches := by
  induction branches with
  | nil => simp [deferUnder]
  | cons b rest ih =>
    obtain ⟨f, child⟩ := b
    by_cases h : f = field <;> cases child <;>
      simp_all [deferUnder, weightUnder, Declared.weight, Task.weight, defer]

mutual

theorem weight_pattern_le (d : Declaring) (parent : Node) (owner : Option Node) :
    ∀ n : Node, (d.pattern parent owner n).weight ≤ n.size
  | .mk head branches => by
    rw [size_eq_branchWeight]
    simp only [pattern, Node.branches]
    split
    · simp [identifier]
    · have := weight_properties_le d branches
      simp
      omega
    · have := weight_elements_le d (.mk head branches) branches
      simp
      omega
    · have first := weight_under_le d (.mk head branches) owner .left branches
      have second := d.weight_deferUnder_le (.mk head branches) .right branches
      have both := weightUnder_add_le (f := .left) (g := .right) (by decide) branches
      simp
      omega
    · have first := weight_under_le d (.mk head branches) none .argument branches
      have whole := weightUnder_le .argument branches
      simp
      omega
    · have whole := size_eq_branchWeight (.mk head branches)
      simp only [Node.branches] at whole
      simp only [Declared.weight_append, Declared.weight_mk_nil]
      simp [Declared.weight, defer, Task.weight, whole]

theorem weight_under_le (d : Declaring) (parent : Node) (owner : Option Node) (field : Field) :
    ∀ branches, (d.under parent owner field branches).weight ≤ weightUnder field branches
  | [] => by simp [under]
  | (f, some child) :: rest => by
    have here := weight_pattern_le d parent owner child
    have later := weight_under_le d parent owner field rest
    by_cases h : f = field
    · simp [under, weightUnder, h]
      omega
    · simpa [under, weightUnder, h] using later
  | (f, none) :: rest => by
    have later := weight_under_le d parent owner field rest
    by_cases h : f = field
    · simp [under, h]
    · simpa [under, weightUnder, h] using later

theorem weight_elements_le (d : Declaring) (parent : Node) :
    ∀ branches, (d.elements parent branches).weight ≤ branchWeight branches
  | [] => by simp [elements]
  | (f, some child) :: rest => by
    have here := weight_pattern_le d parent none child
    have later := weight_elements_le d parent rest
    by_cases h : f = .elements
    · simp [elements, h]
      omega
    · simp [elements, h]
      omega
  | (f, none) :: rest => by
    have later := weight_elements_le d parent rest
    simpa [elements] using later

theorem weight_properties_le (d : Declaring) :
    ∀ branches, (d.properties branches).weight ≤ branchWeight branches
  | [] => by simp [properties]
  | (f, some (.mk head branches)) :: rest => by
    have later := weight_properties_le d rest
    have whole := size_eq_branchWeight (.mk head branches)
    simp only [Node.branches] at whole
    by_cases h : f = .properties
    · have argument := weight_under_le d (.mk head branches) none .argument branches
      have value := weight_under_le d (.mk head branches)
        (if head.shorthand then some (.mk head branches) else none) .value branches
      have key := d.weight_deferUnder_le (.mk head branches) .key branches
      have argumentLe := weightUnder_le .argument branches
      have both := weightUnder_add_le (f := .key) (g := .value) (by decide) branches
      subst h
      simp only [properties, Declared.weight_append, Declared.weight_mk_nil,
        branchWeight_cons_some]
      split
      · omega
      · split <;> simp only [Declared.weight_append, Declared.weight_mk_nil] <;> omega
    · simp [properties, h]
      omega
  | (f, none) :: rest => by
    have later := weight_properties_le d rest
    simpa [properties] using later

end

theorem weight_patterns_le (d : Declaring) (parent : Node) (items : List (Option Node)) :
    (d.patterns parent items).weight ≤ total ((items.filterMap id).map Node.size) := by
  induction items with
  | nil => simp [patterns]
  | cons item rest ih =>
    cases item with
    | none => simpa [patterns] using ih
    | some n =>
      have here := weight_pattern_le d parent none n
      simp [patterns] at ih ⊢
      omega

end Declaring

namespace Task

theorem weight_blockBody_le (place : Place) (n body : Node) (h : ownBlock? n = some body) :
    weight (blockBody place body).tasks ≤ weightUnder .body n.branches := by
  have found : n.child? .body = some body := (Option.filter_eq_some_iff.1 h).1
  have small := child?_size_le n .body body found
  have whole := size_eq_branchWeight body
  have part := weightUnder_le .body body.branches
  rw [blockBody, weight_ofItems]
  omega

theorem weight_declarators_le (t : Task) (target : ScopeId) (items : List (Option Node)) :
    weight (declarators t target items).tasks ≤
      total ((items.filterMap id).map Node.size) := by
  induction items with
  | nil => simp [declarators]
  | cons item rest ih =>
    cases item with
    | none => simpa [declarators] using ih
    | some declarator =>
      have first := weight_ofChild_le declarator .init t.place none
      have second := Declaring.weight_under_le
        ⟨target, .declaration t.node.head.variety, t.place⟩ declarator none .id declarator.branches
      have both := weightUnder_add_le (f := .init) (g := .id) (by decide) declarator.branches
      have whole := size_eq_branchWeight declarator
      simp only [Declared.weight] at second
      simp [declarators] at ih ⊢
      omega

theorem total_size_items (n : Node) (field : Field) :
    total (((n.items field).filterMap id).map Node.size) = weightUnder field n.branches := by
  have h := weight_ofItems n n field field ⟨0, 0⟩
  simpa [weight, ofItems, List.map_filterMap, Function.comp_def] using h

/-- Working off a task leaves less to be done. -/
theorem weight_expand_lt (fresh : ScopeId) (t : Task) :
    weight (t.expand fresh).tasks < t.node.size := by
  have whole := size_eq_branchWeight t.node
  have two {f g : Field} (h : f ≠ g) := weightUnder_add_le h t.node.branches
  have child (f : Field) (place : Place) (owner : Option Node) :=
    weight_ofChild_le t.node f place owner
  have function : weight (t.function fresh).tasks < t.node.size := by
    have params := Declaring.weight_patterns_le ⟨fresh, .parameter, ⟨fresh, fresh⟩⟩ t.node
      (t.node.items .params)
    rw [total_size_items] at params
    have disjoint := two (f := .params) (g := .body) (by decide)
    simp only [Declared.weight] at params
    simp only [Task.function, weight_append, weight_reverse]
    split
    · rename_i body h
      have inside := weight_blockBody_le ⟨fresh, fresh⟩ t.node body h
      omega
    · have inside := child .body ⟨fresh, fresh⟩ none
      simp only
      omega
  have catchClause : weight (t.catchClause fresh).tasks < t.node.size := by
    have param := Declaring.weight_under_le
      ⟨fresh, .catchParameter, ⟨fresh, t.place.hoist⟩⟩ t.node none .param t.node.branches
    have disjoint := two (f := .param) (g := .body) (by decide)
    simp only [Declared.weight] at param
    simp only [Task.catchClause, weight_append, weight_reverse]
    split
    · rename_i body h
      have inside := weight_blockBody_le ⟨fresh, t.place.hoist⟩ t.node body h
      omega
    · simp only [weight_nil]
      omega
  have classLike : weight (t.classLike fresh).tasks < t.node.size := by
    have disjoint := two (f := .superClass) (g := .body) (by decide)
    have parts (place : Place) :
        weight (ofChild t.node .superClass place none ++ ofChild t.node .body place none) <
          t.node.size := by
      have first := child .superClass place none
      have second := child .body place none
      rw [weight_append]
      omega
    unfold Task.classLike
    split
    · exact parts _
    · split <;> exact parts _
  simp only [expand]
  split
  · simp [Task.identifier]
    omega
  · exact function
  · exact function
  · exact function
  · have inside := weight_declarators_le t
      (if t.node.head.variety == some "var" then t.place.hoist else t.place.scope)
      (t.node.items .declarations)
    rw [total_size_items] at inside
    have part := weightUnder_le .declarations t.node.branches
    simp only [variableDeclaration]
    omega
  · exact catchClause
  · have part := weightUnder_le .body t.node.branches
    simp only [block, weight_ofItems]
    omega
  · exact weight_ofChildren _ _
  · exact weight_ofChildren _ _
  · exact weight_ofChildren _ _
  · have disjoint := two (f := .discriminant) (g := .cases) (by decide)
    have first := child .discriminant t.place none
    simp only [switch, weight_append, weight_ofItems]
    omega
  · exact classLike
  · exact classLike
  · simp [importDeclaration]
    omega
  · have disjoint := two (f := .key) (g := .value) (by decide)
    have first := child .key t.place none
    have second := child .value t.place (if t.node.head.shorthand then some t.node else none)
    simp only [Task.property, weight_append]
    omega
  · have disjoint := two (f := .left) (g := .right) (by decide)
    have first := child .left t.place t.owner
    have second := child .right t.place none
    simp only [Task.assignmentPattern, weight_append]
    omega
  · exact weight_ofChildren _ _

end Task

end Relabel
