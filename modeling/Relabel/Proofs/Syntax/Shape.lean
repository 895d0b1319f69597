import Relabel.Proofs.Syntax.Subtree
import Relabel.Syntax.Walk

/-!
# Well-formed trees

A tree may hold any node under any label. The trees that a grammar gives are more regular: a
function has a name, parameters and a body and nothing else, a pattern stands where names are bound,
and a shorthand property has an identifier as its value. Only the kinds that have a part in the
scoping of names are constrained here.
-/

namespace Relabel

/-- The labels under which a node of a kind has children, for the kinds that scoping looks into. -/
def Kind.labels? : Kind → Option (List Field)
  | program | blockStatement => some [.body]
  | functionDeclaration | functionExpression => some [.id, .params, .body]
  | arrowFunction => some [.params, .body]
  | variableDeclaration => some [.declarations]
  | variableDeclarator => some [.id, .init]
  | catchClause => some [.param, .body]
  | switchStatement => some [.discriminant, .cases]
  | classDeclaration | classExpression => some [.id, .superClass, .body]
  | importDeclaration => some [.specifiers, .source]
  | importSpecifier => some [.imported, .localName]
  | importDefaultSpecifier | importNamespaceSpecifier => some [.localName]
  | exportSpecifier => some [.exported, .localName]
  | property => some [.key, .value]
  | objectPattern => some [.properties]
  | arrayPattern => some [.elements]
  | assignmentPattern => some [.left, .right]
  | restElement => some [.argument]
  | identifier | literal => some []
  | _ => none

namespace Node

/-- What can stand where names are bound or values are assigned. -/
def isPattern (n : Node) : Bool :=
  match n.kind with
  | some .identifier | some .memberExpression | some .objectPattern | some .arrayPattern
  | some .assignmentPattern | some .restElement => true
  | _ => false

/-- What can stand for the name of a property or of a member of a module. -/
def isNaming (n : Node) : Bool :=
  n.isIdentifier || n.hasKind .literal

def isSpecifier (n : Node) : Bool :=
  n.hasKind .importSpecifier || n.hasKind .importDefaultSpecifier ||
    n.hasKind .importNamespaceSpecifier

/-- What a property has as its value, or as the target of a value with a default. -/
def carried? (property : Node) : Option Node :=
  (property.child? .value).bind fun value ↦
    if value.hasKind .assignmentPattern then value.child? .left else some value

/-- Whether a child may stand under a label of a node. -/
def admits (n : Node) (field : Field) (child : Node) : Bool :=
  match n.kind, field with
  | some .functionDeclaration, .id | some .functionExpression, .id
  | some .classDeclaration, .id | some .classExpression, .id => child.isIdentifier
  | some .functionDeclaration, .params | some .functionExpression, .params
  | some .arrowFunction, .params | some .catchClause, .param | some .variableDeclarator, .id
  | some .arrayPattern, .elements | some .assignmentPattern, .left
  | some .restElement, .argument => child.isPattern
  | some .catchClause, .body => child.hasKind .blockStatement
  | some .variableDeclaration, .declarations => child.hasKind .variableDeclarator
  | some .objectPattern, .properties =>
    child.hasKind .restElement ||
      child.hasKind .property && (child.child? .value).all (·.isPattern)
  | some .importDeclaration, .specifiers => child.isSpecifier
  | some .importDeclaration, .source => child.hasKind .literal
  | some .importSpecifier, .imported | some .exportSpecifier, .exported
  | some .exportSpecifier, .localName => child.isNaming
  | some .importSpecifier, .localName | some .importDefaultSpecifier, .localName
  | some .importNamespaceSpecifier, .localName => child.isIdentifier
  | some .property, .key =>
    if n.head.computed then !n.head.shorthand
    else if n.head.shorthand then child.isIdentifier else child.isNaming
  | some .property, .value => !n.head.shorthand || n.carried?.any (·.isIdentifier)
  | _, _ => true

/-- Whether a node carries a tag, and a spelling if it is an identifier, and holds its children
under the labels of its kind: one child under a label that is not for a list, and nothing under a
label that may not stand there. -/
def isShaped (n : Node) : Bool :=
  n.isTyped && (!n.isIdentifier || n.head.name.isSome) &&
    n.children.all (fun c ↦ n.admits c.1 c.2) &&
    match n.kind with
    | some kind => kind.labels?.all fun labels ↦
      n.children.all (fun c ↦ labels.contains c.1) &&
        labels.all fun field ↦ kind.listFields.contains field || (n.items field).length ≤ 1
    | none => true

/-- A program whose nodes all have the shape that the grammar gives to their kind. -/
structure WellFormed (tree : Node) : Prop where
  program : tree.kind = some .program
  shaped : ∀ n ∈ tree.nodes, n.isShaped = true

section Shaped

variable {n : Node} {kind : Kind} {labels : List Field}

theorem isTyped_of_isShaped (h : n.isShaped = true) : n.isTyped = true := by
  simp only [isShaped, Bool.and_eq_true] at h
  exact h.1.1.1

theorem exists_name_of_isShaped (h : n.isShaped = true) (hn : n.isIdentifier = true) :
    ∃ name, n.head.name = some name := by
  simp only [isShaped, Bool.and_eq_true, hn, Bool.not_true, Bool.false_or] at h
  exact Option.isSome_iff_exists.mp h.1.1.2

theorem admits_of_isShaped (h : n.isShaped = true) {field : Field} {child : Node}
    (hchild : (field, some child) ∈ n.branches) : n.admits field child = true := by
  simp only [isShaped, Bool.and_eq_true, List.all_eq_true] at h
  exact h.1.2 (field, child) (mem_children_iff.mpr hchild)

theorem mem_labels_of_isShaped (h : n.isShaped = true) (hkind : n.kind = some kind)
    (hlabels : kind.labels? = some labels) {c : Field × Node} (hc : c ∈ n.children) :
    c.1 ∈ labels := by
  simp only [isShaped, hkind, hlabels, Option.all_some, Bool.and_eq_true, List.all_eq_true] at h
  simpa using h.2.1 c hc

theorem length_items_of_isShaped (h : n.isShaped = true) (hkind : n.kind = some kind)
    (hlabels : kind.labels? = some labels) {field : Field} (hfield : field ∈ labels)
    (hlist : field ∉ kind.listFields) : (n.items field).length ≤ 1 := by
  simp only [isShaped, hkind, hlabels, Option.all_some, Bool.and_eq_true, List.all_eq_true] at h
  simpa [hlist] using h.2.2 field hfield

/-- The child under a label that is not for a list. -/
theorem child?_eq_some_of_mem {field : Field} {child : Node}
    (hsingle : (n.items field).length ≤ 1) (hchild : (field, some child) ∈ n.branches) :
    n.child? field = some child := by
  have hmem := mem_items_iff.mpr hchild
  rw [child?]
  rcases hitems : n.items field with _ | ⟨item, _ | ⟨_, _⟩⟩
  · simp [hitems] at hmem
  · simpa [hitems, eq_comm] using hmem
  · simp [hitems] at hsingle

end Shaped

namespace WellFormed

variable {tree : Node}

theorem isTyped (h : tree.WellFormed) : ∀ n ∈ tree.nodes, n.isTyped = true :=
  fun n hn ↦ isTyped_of_isShaped (h.shaped n hn)

end WellFormed

end Node

end Relabel
