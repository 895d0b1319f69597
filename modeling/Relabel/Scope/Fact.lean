import Relabel.Scope.Basic

/-!
# Facts about scoping

The analysis of a program reads it node by node from a list of tasks. Working off a task states
facts, such as a scope being opened or a name being declared, and leads to further tasks on smaller
parts of the program. Names bound by a pattern are declared at once, while the default values and
computed keys inside the pattern are left for later.
-/

namespace Relabel

/-- Where a task stands: its scope, and the scope that takes the names declared with `var`. -/
structure Place where
  scope : ScopeId
  hoist : ScopeId
deriving Repr, DecidableEq

inductive Fact where
  /-- A scope is opened; scopes are numbered in this order. -/
  | opened (type : ScopeType) (node : Node) (parent : Option ScopeId)
  /-- A node sits in a scope. -/
  | placed (node : NodeId) (scope : ScopeId)
  | declared (target : ScopeId) (kind : BindingKind) (site : Site)
  | referred (site : Site)

/-- A node to be analysed. -/
structure Task where
  node : Node
  parent : Node
  field : Field
  place : Place
  /-- The shorthand property whose value the node is. -/
  owner : Option Node := none

namespace Task

/-- The total size of the nodes to be analysed. -/
def weight (tasks : List Task) : Nat :=
  total (tasks.map (·.node.size))

end Task

/-- The facts that a declaration states, and the tasks it leaves, the last one first to be done. -/
structure Declared where
  facts : List Fact := []
  deferred : List Task := []

instance : Append Declared where
  append a b := ⟨a.facts ++ b.facts, a.deferred ++ b.deferred⟩

/-- The names of a pattern are declared in `target`; the pattern stands at `place`. -/
structure Declaring where
  target : ScopeId
  kind : BindingKind
  place : Place

namespace Declaring

/-- Declares one identifier. -/
def identifier (d : Declaring) (n parent : Node) (owner : Option Node) : Declared :=
  ⟨[.placed n.id d.place.scope, .declared d.target d.kind ⟨n, parent, d.place.scope, owner⟩], []⟩

def defer (d : Declaring) (n parent : Node) (field : Field) : Declared :=
  ⟨[], [{ node := n, parent, field, place := d.place }]⟩

/-- Leaves the child under a label for later. -/
def deferUnder (d : Declaring) (parent : Node) (field : Field) :
    List (Field × Option Node) → Declared
  | [] => {}
  | (f, child) :: rest =>
    if f = field then
      match child with
      | some child => d.defer child parent field
      | none => {}
    else d.deferUnder parent field rest

mutual

/-- Declares every identifier that a pattern binds. -/
def pattern (d : Declaring) (parent : Node) (owner : Option Node) : Node → Declared
  | .mk head branches =>
    let n := Node.mk head branches
    let placed : Declared := ⟨[.placed head.id d.place.scope], []⟩
    match head.kind with
    | some .identifier => placed ++ d.identifier n parent owner
    | some .objectPattern => placed ++ properties d branches
    | some .arrayPattern => placed ++ elements d n branches
    | some .assignmentPattern =>
      placed ++ under d n owner .left branches ++ d.deferUnder n .right branches
    | some .restElement => placed ++ under d n none .argument branches
    | _ => placed ++ d.defer n parent .left

/-- Declares what the child under a label binds. -/
def under (d : Declaring) (parent : Node) (owner : Option Node) (field : Field) :
    List (Field × Option Node) → Declared
  | [] => {}
  | (f, some child) :: rest =>
    if f = field then pattern d parent owner child else under d parent owner field rest
  | (f, none) :: rest => if f = field then {} else under d parent owner field rest

/-- Declares what the elements of an array pattern bind. -/
def elements (d : Declaring) (parent : Node) : List (Field × Option Node) → Declared
  | [] => {}
  | (.elements, some child) :: rest => pattern d parent none child ++ elements d parent rest
  | _ :: rest => elements d parent rest

/-- Declares what the properties of an object pattern bind. -/
def properties (d : Declaring) : List (Field × Option Node) → Declared
  | [] => {}
  | (.properties, some (.mk head branches)) :: rest =>
    let prop := Node.mk head branches
    let placed : Declared := ⟨[.placed head.id d.place.scope], []⟩
    let bound :=
      if head.kind = some .restElement then under d prop none .argument branches
      else
        (if head.computed then d.deferUnder prop .key branches else {}) ++
          under d prop (if head.shorthand then some prop else none) .value branches
    placed ++ bound ++ properties d rest
  | _ :: rest => properties d rest

end

/-- Declares the patterns in a list, which may have gaps. -/
def patterns (d : Declaring) (parent : Node) : List (Option Node) → Declared
  | [] => {}
  | some n :: rest => d.pattern parent none n ++ d.patterns parent rest
  | none :: rest => d.patterns parent rest

end Declaring

namespace Task

/-- Tasks for the nodes in a list. -/
def ofItems (parent : Node) (field : Field) (place : Place) (items : List (Option Node)) :
    List Task :=
  items.filterMap fun item ↦ item.map fun n ↦ { node := n, parent, field, place }

/-- A task for the child under a label. -/
def ofChild (parent : Node) (field : Field) (place : Place) (owner : Option Node) : List Task :=
  match parent.child? field with
  | some n => [{ node := n, parent, field, place, owner }]
  | none => []

/-- Tasks for all children of a node, in reading order. -/
def ofChildren (parent : Node) (place : Place) : List Task :=
  parent.children.map fun (field, n) ↦ { node := n, parent, field, place }

/-- Whether an identifier under a label of its parent names a property or a label, and so refers to
no binding. -/
def isPropertyName (parent : Node) (field : Field) : Bool :=
  match parent.kind with
  | some .memberExpression => field == .property && !parent.head.computed
  | some .property | some .methodDefinition => field == .key && !parent.head.computed
  | some .labeledStatement | some .breakStatement | some .continueStatement => field == .label
  | some .metaProperty => true
  | some .exportSpecifier => field == .exported
  | some .importSpecifier => field == .imported
  | _ => false

/-- What working off a task gives: facts, and the tasks to be done next. -/
structure Outcome where
  facts : List Fact
  tasks : List Task

def identifier (t : Task) : Outcome :=
  ⟨if isPropertyName t.parent t.field then []
    else [.referred ⟨t.node, t.parent, t.place.scope, t.owner⟩], []⟩

/-- The name of a function or class, if it is a plain one. -/
def ownName? (n : Node) : Option Node :=
  (n.child? .id).filter (·.isIdentifier)

/-- The body of a function or catch clause that is a block. -/
def ownBlock? (n : Node) : Option Node :=
  (n.child? .body).filter (·.hasKind .blockStatement)

/-- The statements of a block that shares the scope of what it belongs to. -/
def blockBody (place : Place) (body : Node) : Outcome :=
  ⟨[.placed body.id place.scope], ofItems body .body place (body.items .body)⟩

/-- The facts of declaring a function's or class's name. -/
def declareName (d : Declaring) (n : Node) : List Fact :=
  match ownName? n with
  | some name => (d.identifier name n none).facts
  | none => []

/-- A function's body is read before the default values and computed keys of its parameters. -/
def function (fresh : ScopeId) (t : Task) : Outcome :=
  let inner : Place := ⟨fresh, fresh⟩
  let outerName :=
    if t.node.hasKind .functionDeclaration then
      declareName ⟨t.place.scope, .function, t.place⟩ t.node
    else []
  let innerName :=
    if t.node.hasKind .functionExpression then declareName ⟨fresh, .ownName, inner⟩ t.node else []
  let params := Declaring.patterns ⟨fresh, .parameter, inner⟩ t.node (t.node.items .params)
  let body := match ownBlock? t.node with
    | some body => blockBody inner body
    | none => ⟨[], ofChild t.node .body inner none⟩
  ⟨outerName ++ [.opened .function t.node (some t.place.scope)] ++ innerName ++ params.facts ++
      body.facts,
    body.tasks ++ params.deferred.reverse⟩

/-- The declarators of a declaration are declared last to first and initialised first to last. -/
def declarators (t : Task) (target : ScopeId) : List (Option Node) → Outcome
  | [] => ⟨[], []⟩
  | none :: rest => declarators t target rest
  | some declarator :: rest =>
    let later := declarators t target rest
    let d : Declaring := ⟨target, .declaration t.node.head.variety, t.place⟩
    let bound := Declaring.under d declarator none .id declarator.branches
    ⟨later.facts ++ .placed declarator.id t.place.scope :: bound.facts,
      ofChild declarator .init t.place none ++ bound.deferred.reverse ++ later.tasks⟩

def variableDeclaration (t : Task) : Outcome :=
  let target := if t.node.head.variety == some "var" then t.place.hoist else t.place.scope
  declarators t target (t.node.items .declarations)

def catchClause (fresh : ScopeId) (t : Task) : Outcome :=
  let inner : Place := ⟨fresh, t.place.hoist⟩
  let param := Declaring.under ⟨fresh, .catchParameter, inner⟩ t.node none .param t.node.branches
  let body := match ownBlock? t.node with
    | some body => blockBody inner body
    | none => ⟨[], []⟩
  ⟨[.opened .catchClause t.node (some t.place.scope)] ++ param.facts ++ body.facts,
    body.tasks ++ param.deferred.reverse⟩

def block (fresh : ScopeId) (t : Task) : Outcome :=
  ⟨[.opened .block t.node (some t.place.scope)],
    ofItems t.node .body ⟨fresh, t.place.hoist⟩ (t.node.items .body)⟩

def loop (fresh : ScopeId) (t : Task) : Outcome :=
  ⟨[.opened .loop t.node (some t.place.scope)], ofChildren t.node ⟨fresh, t.place.hoist⟩⟩

/-- The discriminant of a switch stands outside the scope of its cases. -/
def switch (fresh : ScopeId) (t : Task) : Outcome :=
  ⟨[.opened .switch t.node (some t.place.scope)],
    ofChild t.node .discriminant t.place none ++
      ofItems t.node .cases ⟨fresh, t.place.hoist⟩ (t.node.items .cases)⟩

/-- A class expression with a name has a scope for it. -/
def classLike (fresh : ScopeId) (t : Task) : Outcome :=
  let parts (place : Place) :=
    ofChild t.node .superClass place none ++ ofChild t.node .body place none
  let inner : Place := ⟨fresh, t.place.hoist⟩
  if t.node.hasKind .classDeclaration then
    ⟨declareName ⟨t.place.scope, .classDeclaration, t.place⟩ t.node, parts t.place⟩
  else if (ownName? t.node).isSome then
    ⟨[.opened .classBody t.node (some t.place.scope)] ++
        declareName ⟨fresh, .ownName, inner⟩ t.node, parts inner⟩
  else ⟨[], parts t.place⟩

/-- Imported names belong to the program's scope, which has number zero. -/
def importDeclaration (t : Task) : Outcome :=
  let specifiers := (t.node.items .specifiers).filterMap id
  let names := specifiers.flatMap fun specifier ↦
    let local? := (specifier.child? .localName).filter (·.isIdentifier)
    .placed specifier.id t.place.scope :: match local? with
      | some name => (Declaring.identifier ⟨0, .imported, t.place⟩ name specifier none).facts
      | none => []
  let source := match t.node.child? .source with
    | some source => [.placed source.id t.place.scope]
    | none => []
  ⟨names ++ source, []⟩

def property (t : Task) : Outcome :=
  ⟨[], ofChild t.node .key t.place none ++
    ofChild t.node .value t.place (if t.node.head.shorthand then some t.node else none)⟩

def assignmentPattern (t : Task) : Outcome :=
  ⟨[], ofChild t.node .left t.place t.owner ++ ofChild t.node .right t.place none⟩

/-- Works off a task; `fresh` is the number of the scope opened next. -/
def expand (fresh : ScopeId) (t : Task) : Outcome :=
  let outcome := match t.node.kind with
    | some .identifier => t.identifier
    | some .functionDeclaration | some .functionExpression | some .arrowFunction =>
      t.function fresh
    | some .variableDeclaration => t.variableDeclaration
    | some .catchClause => t.catchClause fresh
    | some .blockStatement => t.block fresh
    | some .forStatement | some .forInStatement | some .forOfStatement => t.loop fresh
    | some .switchStatement => t.switch fresh
    | some .classDeclaration | some .classExpression => t.classLike fresh
    | some .importDeclaration => t.importDeclaration
    | some .property => t.property
    | some .assignmentPattern => t.assignmentPattern
    | _ => ⟨[], ofChildren t.node t.place⟩
  { outcome with facts := .placed t.node.id t.place.scope :: outcome.facts }

end Task

end Relabel
