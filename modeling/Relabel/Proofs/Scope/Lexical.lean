import Relabel.Proofs.Scope.Effect
import Relabel.Proofs.Syntax.Shape

/-!
# The rules of lexical scoping

What a program says about scopes and names, read off its tree from the root down. Every node has a
standing: the scopes around it, innermost first, and what it is used for by the node that holds it.
The standing of a child follows from that of its parent and the label between them. A name is bound
by the innermost scope around it that takes a declaration of the name anywhere in the program.

No order of work enters here, and no scope has a number: a scope is known by the node that opens it.
-/

namespace Relabel

/-- A scope, known by the node that opens it. -/
structure Opening where
  type : ScopeType
  node : NodeId
deriving Repr, DecidableEq

/-- What a node is used for where it stands. -/
inductive Use where
  /-- It is executed or evaluated, and an identifier refers to a binding. -/
  | plain
  /-- An identifier is the name of a property, a label or a member of a module. -/
  | name
  /-- A block is the body of a function or a catch clause, and shares its scope. -/
  | body
  /-- It is a pattern or a part of one, and its identifiers are declared in a scope. -/
  | binds (target : Option Opening) (kind : BindingKind)
deriving Repr, DecidableEq

/-- One place where a name is written, with the scopes around it. -/
structure Occurrence where
  identifier : Node
  parent : Node
  scopes : List Opening
  /-- The shorthand property whose value the identifier is. -/
  owner : Option Node

def Occurrence.name (o : Occurrence) : String := o.identifier.head.name.getD ""

namespace Lexical

/-- A scope that is opened, with the scopes around it. -/
structure Region where
  type : ScopeType
  node : Node
  around : List Opening

/-- A name that is declared, with the scope that takes it. -/
structure Declaration where
  target : Option Opening
  kind : BindingKind
  occurrence : Occurrence

def Declaration.name (d : Declaration) : String := d.occurrence.name

inductive Mark where
  | opened (region : Region)
  | declared (declaration : Declaration)
  | referred (occurrence : Occurrence)

end Lexical

open Lexical (Mark)

/-- How a node stands in its program. -/
structure Standing where
  /-- The scopes around the node, innermost first. -/
  scopes : List Opening
  parent : Node
  use : Use := .plain
  /-- The shorthand property whose value the node is. -/
  owner : Option Node := none

namespace Standing

/-- The type of the scope that a node opens, if it opens one. -/
def opens? (c : Standing) (n : Node) : Option ScopeType :=
  match n.kind with
  | some .functionDeclaration | some .functionExpression | some .arrowFunction => some .function
  | some .catchClause => some .catchClause
  | some .blockStatement => if c.use = .body then none else some .block
  | some .forStatement | some .forInStatement | some .forOfStatement => some .loop
  | some .switchStatement => some .switch
  | some .classExpression => if (Task.ownName? n).isSome then some .classBody else none
  | _ => none

/-- The scopes inside a node: those around it, and the one that it opens. -/
def inner (c : Standing) (n : Node) : List Opening :=
  match c.opens? n with
  | some type => ⟨type, n.id⟩ :: c.scopes
  | none => c.scopes

/-- What stands outside the scope that its node opens: the name of a function declaration, and what
a switch is about. -/
def isOutside (n : Node) (field : Field) : Bool :=
  match n.kind, field with
  | some .functionDeclaration, .id | some .switchStatement, .discriminant => true
  | _, _ => false

/-- The scope that takes what is declared with `var`: the nearest one of a function or the
program. -/
def hoist? (c : Standing) : Option Opening :=
  c.scopes.find? (·.type.takesVariables)

/-- Where a declarator, a specifier or a pattern holds a part that is bound if it is bound itself.
-/
def isPart (n : Node) (field : Field) : Bool :=
  match n.kind, field with
  | some .variableDeclarator, .id | some .importSpecifier, .localName
  | some .importDefaultSpecifier, .localName | some .importNamespaceSpecifier, .localName
  | some .objectPattern, .properties | some .property, .value | some .arrayPattern, .elements
  | some .assignmentPattern, .left | some .restElement, .argument => true
  | _, _ => false

/-- What a child of a node is used for. -/
def useUnder (c : Standing) (n : Node) (field : Field) (child : Node) : Use :=
  match n.kind, field with
  | some .functionDeclaration, .id => .binds c.scopes.head? .function
  | some .classDeclaration, .id => .binds c.scopes.head? .classDeclaration
  | some .functionExpression, .id | some .classExpression, .id => .binds (c.inner n).head? .ownName
  | some .functionDeclaration, .params | some .functionExpression, .params
  | some .arrowFunction, .params => .binds (c.inner n).head? .parameter
  | some .catchClause, .param => .binds (c.inner n).head? .catchParameter
  | some .variableDeclaration, .declarations =>
    let target := if n.head.variety == some "var" then c.hoist? else c.scopes.head?
    .binds target (.declaration n.head.variety)
  | some .importDeclaration, .specifiers => .binds c.scopes.getLast? .imported
  | some .functionDeclaration, .body | some .functionExpression, .body
  | some .arrowFunction, .body | some .catchClause, .body =>
    if child.hasKind .blockStatement then .body else .plain
  | _, _ =>
    if isPart n field then
      match c.use with
      | .binds target kind => .binds target kind
      | _ => .plain
    else if Task.isPropertyName n field then .name else .plain

/-- The shorthand property that has a child as its value. -/
def ownerUnder (c : Standing) (n : Node) (field : Field) : Option Node :=
  match n.kind, field with
  | some .property, .value => if n.head.shorthand then some n else none
  | some .assignmentPattern, .left => c.owner
  | _, _ => none

/-- How a child of a node stands. -/
def below (c : Standing) (n : Node) (field : Field) (child : Node) : Standing where
  scopes := if isOutside n field then c.scopes else c.inner n
  parent := n
  use := c.useUnder n field child
  owner := c.ownerUnder n field

def occurrence (c : Standing) (n : Node) : Occurrence :=
  ⟨n, c.parent, c.scopes, c.owner⟩

/-- What a node says by itself. -/
def own (c : Standing) (n : Node) : List Mark :=
  if n.isIdentifier then
    match c.use with
    | .binds target kind => [.declared ⟨target, kind, c.occurrence n⟩]
    | .name => []
    | _ => [.referred (c.occurrence n)]
  else
    match c.opens? n with
    | some type => [.opened ⟨type, n, c.scopes⟩]
    | none => []

mutual

/-- What a node and all nodes below it say, in reading order. -/
def marks : Standing → Node → List Mark
  | c, .mk head branches => c.own (.mk head branches) ++ marksAlong c (.mk head branches) branches

def marksAlong : Standing → Node → List (Field × Option Node) → List Mark
  | _, _, [] => []
  | c, n, (field, some child) :: rest => marks (c.below n field child) child ++ marksAlong c n rest
  | c, n, (_, none) :: rest => marksAlong c n rest

end

theorem marks_eq (c : Standing) (n : Node) :
    c.marks n = c.own n ++ n.children.flatMap fun x ↦ (c.below n x.1 x.2).marks x.2 := by
  have halong (n : Node) (branches : List (Field × Option Node)) :
      c.marksAlong n branches = (branches.filterMap fun b ↦ b.2.map (b.1, ·)).flatMap
        fun x ↦ (c.below n x.1 x.2).marks x.2 := by
    induction branches with
    | nil => simp [marksAlong]
    | cons branch rest ih =>
      rcases branch with ⟨field, child⟩
      cases child with
      | none => simpa [marksAlong] using ih
      | some child => simp [marksAlong, ih]
  rcases n with ⟨head, branches⟩
  rw [marks, halong]
  rfl

theorem own_of_isPart {n : Node} {field : Field} (h : isPart n field = true) (c : Standing) :
    c.own n = [] := by
  unfold isPart at h
  split at h <;> simp_all [own, opens?, Node.isIdentifier, Node.hasKind]

theorem below_of_isPart {n : Node} {field : Field} (h : isPart n field = true) (c : Standing)
    (child : Node) :
    c.below n field child =
      { scopes := c.scopes
        parent := n
        use := match c.use with
          | .binds target kind => .binds target kind
          | _ => .plain
        owner := c.ownerUnder n field } := by
  have hpart := h
  unfold isPart at h
  split at h <;>
    simp_all [below, inner, opens?, isOutside, useUnder]

end Standing

namespace Lexical

/-- How a program stands: inside the scope that it opens itself. -/
def top (tree : Node) : Standing where
  scopes := [⟨.program, tree.id⟩]
  parent := tree

/-- All that a program says about scopes and names. -/
def marks (tree : Node) : List Mark :=
  .opened ⟨.program, tree, []⟩ :: (top tree).marks tree

def Mark.region? : Mark → Option Region
  | opened region => some region
  | _ => none

def Mark.declaration? : Mark → Option Declaration
  | declared declaration => some declaration
  | _ => none

def Mark.reference? : Mark → Option Occurrence
  | referred occurrence => some occurrence
  | _ => none

/-- The scopes of a program. -/
def regions (tree : Node) : List Region :=
  (marks tree).filterMap Mark.region?

/-- The declarations of a program. -/
def declarations (tree : Node) : List Declaration :=
  (marks tree).filterMap Mark.declaration?

/-- The identifiers of a program in reference position. -/
def references (tree : Node) : List Occurrence :=
  (marks tree).filterMap Mark.reference?

/-- Whether a scope takes a declaration of a name. -/
def binds (tree : Node) (name : String) (scope : Opening) : Bool :=
  (declarations tree).any fun d ↦ d.target == some scope && d.name == name

/-- The scope whose binding a name refers to: the innermost one that takes a declaration of it. -/
def binder? (tree : Node) (o : Occurrence) : Option Opening :=
  o.scopes.find? (binds tree o.name)

end Lexical

end Relabel
