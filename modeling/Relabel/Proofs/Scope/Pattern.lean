import Relabel.Proofs.Syntax.Subtree
import Relabel.Scope.Analysis

/-!
# What a pattern declares

The declaration of a pattern, written by the parts under each label instead of by the run of its
branches. Every later argument about patterns starts from these equations.
-/

namespace Relabel

namespace Declared

variable {a b c : Declared}

@[simp]
theorem facts_append (a b : Declared) : (a ++ b).facts = a.facts ++ b.facts := rfl

@[simp]
theorem deferred_append (a b : Declared) : (a ++ b).deferred = a.deferred ++ b.deferred := rfl

theorem ext_iff : a = b ↔ a.facts = b.facts ∧ a.deferred = b.deferred := by
  cases a
  cases b
  simp

theorem append_assoc (a b c : Declared) : a ++ b ++ c = a ++ (b ++ c) := by
  simp [ext_iff]

@[simp]
theorem nil_append (a : Declared) : {} ++ a = a := by
  simp [ext_iff]

end Declared

namespace Declaring

variable (d : Declaring)

/-- Declares what the child under a label binds. -/
def part (parent : Node) (owner : Option Node) (field : Field) : Declared :=
  match parent.child? field with
  | some child => d.pattern parent owner child
  | none => {}

/-- Leaves the child under a label for later. -/
def later (parent : Node) (field : Field) : Declared :=
  match parent.child? field with
  | some child => d.defer child parent field
  | none => {}

/-- Declares what one property of an object pattern binds. -/
def property (prop : Node) : Declared :=
  ⟨[.placed prop.id d.place.scope], []⟩ ++
    if prop.kind = some .restElement then d.part prop none .argument
    else
      (if prop.head.computed then d.later prop .key else {}) ++
        d.part prop (if prop.head.shorthand then some prop else none) .value

/-- Declares what the properties in a list bind. -/
def propertyList : List (Option Node) → Declared
  | [] => {}
  | some prop :: rest => d.property prop ++ propertyList rest
  | none :: rest => propertyList rest

theorem under_eq_part (parent : Node) (owner : Option Node) (field : Field) :
    d.under parent owner field parent.branches = d.part parent owner field := by
  have hbranches (head : Head) (branches : List (Field × Option Node)) :
      d.under parent owner field branches =
        match (Node.mk head branches).child? field with
        | some child => d.pattern parent owner child
        | none => {} := by
    induction branches with
    | nil => simp [under, Node.child?, Node.items, Node.branches]
    | cons branch rest ih =>
      rcases branch with ⟨place, child⟩
      rw [Node.child?_cons]
      by_cases hplace : place = field <;> cases child <;> simp [under, hplace, ih]
  rcases parent with ⟨head, branches⟩
  exact hbranches head branches

theorem deferUnder_eq_later (parent : Node) (field : Field) :
    d.deferUnder parent field parent.branches = d.later parent field := by
  have hbranches (head : Head) (branches : List (Field × Option Node)) :
      d.deferUnder parent field branches =
        match (Node.mk head branches).child? field with
        | some child => d.defer child parent field
        | none => {} := by
    induction branches with
    | nil => simp [deferUnder, Node.child?, Node.items, Node.branches]
    | cons branch rest ih =>
      rcases branch with ⟨place, child⟩
      rw [Node.child?_cons]
      by_cases hplace : place = field <;> cases child <;> simp [deferUnder, hplace, ih]
  rcases parent with ⟨head, branches⟩
  exact hbranches head branches

theorem elements_eq_patterns (parent : Node) (head : Head) (branches : List (Field × Option Node)) :
    d.elements parent branches = d.patterns parent ((Node.mk head branches).items .elements) := by
  induction branches with
  | nil => simp [elements, patterns, Node.items, Node.branches]
  | cons branch rest ih =>
    rcases branch with ⟨place, child⟩
    rw [Node.items_cons]
    by_cases hplace : place = .elements
    · cases child <;> simp [hplace, elements, patterns, ih]
    · cases child <;> simp [hplace, elements, ih]

theorem properties_eq_propertyList (head : Head) (branches : List (Field × Option Node)) :
    d.properties branches = d.propertyList ((Node.mk head branches).items .properties) := by
  induction branches with
  | nil => simp [properties, propertyList, Node.items, Node.branches]
  | cons branch rest ih =>
    rcases branch with ⟨place, child⟩
    rw [Node.items_cons]
    by_cases hplace : place = .properties
    · subst hplace
      cases child with
      | none => simp [properties, propertyList, ih]
      | some prop =>
        rcases prop with ⟨propHead, propBranches⟩
        have hargument := d.under_eq_part (.mk propHead propBranches) none .argument
        have hkey := d.deferUnder_eq_later (.mk propHead propBranches) .key
        have hvalue := d.under_eq_part (.mk propHead propBranches)
          (if propHead.shorthand then some (.mk propHead propBranches) else none) .value
        simp only [Node.branches] at hargument hkey hvalue
        simp only [properties, propertyList, property, if_true, ih, hargument, hkey, hvalue,
          Node.kind, Node.head, Node.id]
        rfl
    · cases child <;> simp [hplace, properties, ih]

/-- What a pattern declares, by its kind. -/
theorem pattern_eq (parent : Node) (owner : Option Node) (n : Node) :
    d.pattern parent owner n = ⟨[.placed n.id d.place.scope], []⟩ ++
      match n.kind with
      | some .identifier => d.identifier n parent owner
      | some .objectPattern => d.propertyList (n.items .properties)
      | some .arrayPattern => d.patterns n (n.items .elements)
      | some .assignmentPattern => d.part n owner .left ++ d.later n .right
      | some .restElement => d.part n none .argument
      | _ => d.defer n parent .left := by
  rcases n with ⟨head, branches⟩
  have hleft := d.under_eq_part (.mk head branches) owner .left
  have hright := d.deferUnder_eq_later (.mk head branches) .right
  have hargument := d.under_eq_part (.mk head branches) none .argument
  simp only [Node.branches] at hleft hright hargument
  simp only [pattern, Node.kind, Node.head, Node.id, d.properties_eq_propertyList head,
    d.elements_eq_patterns _ head, hleft, hright, hargument, Declared.append_assoc]
  rcases head.kind with _ | kind
  · rfl
  · cases kind <;> rfl

end Declaring

namespace Task

/-- The body of a function, which is a block or an expression. -/
def functionBody (place : Place) (n : Node) : Outcome :=
  match ownBlock? n with
  | some body => blockBody place body
  | none => ⟨[], ofChild n .body place none⟩

/-- The body of a catch clause. -/
def catchBody (place : Place) (n : Node) : Outcome :=
  match ownBlock? n with
  | some body => blockBody place body
  | none => ⟨[], []⟩

/-- The declaration of a name by nodes of one kind only. -/
def nameOf (kind : Kind) (d : Declaring) (n : Node) : List Fact :=
  if n.hasKind kind then declareName d n else []

/-- The parameters of a function. -/
def functionParams (fresh : ScopeId) (n : Node) : Declared :=
  Declaring.patterns ⟨fresh, .parameter, ⟨fresh, fresh⟩⟩ n (n.items .params)

/-- The parameter of a catch clause. -/
def catchParam (place : Place) (n : Node) : Declared :=
  Declaring.part ⟨place.scope, .catchParameter, place⟩ n none .param

theorem function_eq (fresh : ScopeId) (t : Task) :
    t.function fresh =
      ⟨nameOf .functionDeclaration ⟨t.place.scope, .function, t.place⟩ t.node ++
          .opened .function t.node (some t.place.scope) ::
            (nameOf .functionExpression ⟨fresh, .ownName, ⟨fresh, fresh⟩⟩ t.node ++
              ((functionParams fresh t.node).facts ++ (functionBody ⟨fresh, fresh⟩ t.node).facts)),
        (functionBody ⟨fresh, fresh⟩ t.node).tasks ++
          (functionParams fresh t.node).deferred.reverse⟩ := by
  simp only [function, List.append_assoc, List.singleton_append]
  rfl

theorem catchClause_eq (fresh : ScopeId) (t : Task) :
    t.catchClause fresh =
      ⟨.opened .catchClause t.node (some t.place.scope) ::
          ((catchParam ⟨fresh, t.place.hoist⟩ t.node).facts ++
            (catchBody ⟨fresh, t.place.hoist⟩ t.node).facts),
        (catchBody ⟨fresh, t.place.hoist⟩ t.node).tasks ++
          (catchParam ⟨fresh, t.place.hoist⟩ t.node).deferred.reverse⟩ := by
  simp only [catchClause, Declaring.under_eq_part, List.singleton_append]
  rfl

/-- The name that a specifier imports. -/
def specifierName (place : Place) (specifier : Node) : List Fact :=
  match (specifier.child? .localName).filter (·.isIdentifier) with
  | some name => (Declaring.identifier ⟨0, .imported, place⟩ name specifier none).facts
  | none => []

def importSource (place : Place) (n : Node) : List Fact :=
  match n.child? .source with
  | some source => [.placed source.id place.scope]
  | none => []

theorem importDeclaration_eq (t : Task) :
    t.importDeclaration =
      ⟨((t.node.items .specifiers).filterMap id).flatMap (fun specifier ↦
          .placed specifier.id t.place.scope :: specifierName t.place specifier) ++
        importSource t.place t.node, []⟩ := rfl

end Task

end Relabel
