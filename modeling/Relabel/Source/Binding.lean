import Relabel.Source.Grammar

/-!
# Bound patterns

Patterns of declarations and parameters, and expressions that turn out to be patterns.
-/

namespace Relabel.Source

/-- What a pattern binds: the tokens of its names. -/
abbrev Bound := List Token

section

variable (g : Grammar) (variety : Option String)

/-- A pattern that may have a default. -/
def defaultedPattern : Parsing (Piece × Bound) := do
  let start ← lookahead
  let (pattern, bound) ← g.pattern variety
  if ← accept "=" then
    let outer ← context
    modifyContext ({ · with allowYield := true })
    let right ← isolate g.assignment
    modifyContext ({ · with allowYield := outer.allowYield })
    let whole ← finish (start.marker 0) .assignmentPattern (one .left pattern ++ one .right right)
    return (whole, bound)
  return (pattern, bound)

/-- The rest of an array. -/
def restPattern : Parsing (Piece × Bound) := do
  let start ← here
  expect "..."
  let (pattern, bound) ← g.pattern variety
  return (← finish start .restElement (one .argument pattern), bound)

def arrayPattern : Parsing (Piece × Bound) := do
  let start ← here
  expect "["
  let found ← collect do
    if ← isNext "]" then return none
    else if ← accept "," then return some (none, [])
    else if ← isNext "..." then
      let (rest, bound) ← restPattern g variety
      unless ← isNext "]" do
        let t ← advance
        unexpected t
      return some (some rest, bound)
    else
      let (item, bound) ← defaultedPattern g variety
      unless ← isNext "]" do expect ","
      return some (some item, bound)
  expect "]"
  let pattern ← finish start .arrayPattern (found.map fun item ↦ (.elements, item.1))
  return (pattern, found.flatMap (·.2))

def propertyPattern : Parsing (Piece × Bound) := do
  let start ← here
  let t ← lookahead
  let plain (key : Term) (value : Piece) (computed : Bool) : Parsing Piece :=
    finish start .property (one .key key ++ one .value value)
      ({ · with variety := some "init", computed })
  if t.type == .identifier then
    let key ← boundName none
    let target ← identifierNode start t.text
    if ← accept "=" then
      let right ← g.assignment
      let value ← finishTerm (t.marker 0) .assignmentPattern (one .left target ++ one .right right)
      return (← finishShorthand start key value false, [t])
    else if ← accept ":" then
      let (value, bound) ← defaultedPattern g variety
      return (← plain key value false, bound)
    else
      return (← finishShorthand start key target false, [t])
  else
    let computed ← isNext "["
    let key ← propertyKey g
    expect ":"
    let (value, bound) ← defaultedPattern g variety
    return (← plain key value computed, bound)

/-- The rest of an object. -/
def restProperty : Parsing (Piece × Bound) := do
  let start ← here
  expect "..."
  let (pattern, bound) ← g.pattern none
  if ← isNext "=" then refuse (.unexpectedToken "=")
  unless ← isNext "\x7d" do refuse .bareToken
  return (← finish start .restElement (one .argument pattern), bound)

def objectPattern : Parsing (Piece × Bound) := do
  let start ← here
  expect "\x7b"
  let found ← commaItems "\x7d" do
    if ← isNext "..." then restProperty g else propertyPattern g variety
  expect "\x7d"
  let pattern ← finish start .objectPattern (many .properties (found.map (·.1)))
  return (pattern, found.flatMap (·.2))

def pattern : Parsing (Piece × Bound) := do
  if ← isNext "[" then arrayPattern g variety
  else if ← isNext "\x7b" then objectPattern g variety
  else
    let t ← lookahead
    if t.isKeyword "let" && (variety == some "const" || variety == some "let") then
      refuseToken t .letAsName
    return (← boundName variety, [t])

/-- The rest of the parameters of a function. -/
def restParameter : Parsing (Piece × Bound) := do
  let start ← here
  expect "..."
  let (pattern, bound) ← g.pattern none
  if ← isNext "=" then refuse (.unexpectedToken "=")
  unless ← isNext ")" do refuse .afterRestParameter
  return (← finish start .restElement (one .argument pattern), bound)

end

/-- The kind that a node has as part of a pattern. -/
def patternKind : Kind → Kind
  | .spreadElement => .restElement
  | .arrayExpression => .arrayPattern
  | .objectExpression => .objectPattern
  | .assignmentExpression => .assignmentPattern
  | kind => kind

/-- Whether a part of a node is a pattern if the node is. -/
def isPatternPart (kind : Kind) (field : Field) : Bool :=
  match kind, field with
  | .spreadElement, .argument | .arrayExpression, .elements | .objectExpression, .properties
  | .assignmentExpression, .left => true
  | _, _ => false

mutual

/-- An expression read as a pattern. -/
def patternOf : Node → Node
  | .mk head branches =>
    match head.kind with
    | none => .mk head branches
    | some kind =>
      let operator := if kind == .assignmentExpression then none else head.operator
      .mk { head with kind := some (patternKind kind), operator } (patternBranches kind branches)

/-- The branches of an expression read as a pattern. A property of an object keeps its key. -/
def patternBranches (kind : Kind) : List (Field × Option Node) → List (Field × Option Node)
  | [] => []
  | (field, some child) :: rest =>
    let child := if !isPatternPart kind field then child
      else if child.hasKind .property then patternProperty child
      else patternOf child
    (field, some child) :: patternBranches kind rest
  | (field, none) :: rest => (field, none) :: patternBranches kind rest

def patternProperty : Node → Node
  | .mk head branches => .mk head (patternValues branches)

def patternValues : List (Field × Option Node) → List (Field × Option Node)
  | [] => []
  | (field, some child) :: rest =>
    (field, some (if field = .value then patternOf child else child)) :: patternValues rest
  | (field, none) :: rest => (field, none) :: patternValues rest

end

theorem isTerm_patternOf (n : Node) : (patternOf n).isTerm = n.isTerm := by
  have hsame (kind : Kind) : (patternKind kind).isStatement = kind.isStatement := by
    cases kind <;> rfl
  rcases n with ⟨head, branches⟩
  rw [patternOf]
  cases hkind : head.kind with
  | none => rfl
  | some kind =>
    change (!(patternKind kind).isStatement) = !head.kind.any Kind.isStatement
    rw [hkind, hsame]
    rfl

/-- A part of an expression that is read as a pattern. -/
def patternPart (kind : Kind) (field : Field) (child : Node) : Node :=
  if !isPatternPart kind field then child
  else if child.hasKind .property then patternProperty child
  else patternOf child

theorem patternBranches_eq_map (kind : Kind) (branches : List (Field × Option Node)) :
    patternBranches kind branches =
      branches.map fun branch ↦ (branch.1, branch.2.map (patternPart kind branch.1)) := by
  induction branches with
  | nil => rfl
  | cons branch rest ih =>
    rcases branch with ⟨field, _ | child⟩
    · exact congrArg _ ih
    · exact congrArg _ ih

theorem patternValues_eq_map (branches : List (Field × Option Node)) :
    patternValues branches = branches.map fun branch ↦
      (branch.1, branch.2.map fun child ↦
        if branch.1 = .value then patternOf child else child) := by
  induction branches with
  | nil => rfl
  | cons branch rest ih =>
    rcases branch with ⟨field, _ | child⟩
    · exact congrArg _ ih
    · exact congrArg _ ih

theorem whole_of_mem_map {branches : List (Field × Option Node)} {f : Field → Node → Node}
    (h : ∀ field child, (field, some child) ∈ branches → (f field child).Whole) {field : Field}
    {child : Node}
    (hchild : (field, some child) ∈ branches.map fun branch ↦
      (branch.1, branch.2.map (f branch.1))) : child.Whole := by
  obtain ⟨⟨place, part⟩, hpart, heq⟩ := List.mem_map.mp hchild
  obtain ⟨-, heq⟩ := Prod.mk.inj heq
  obtain ⟨part, rfl, rfl⟩ := Option.map_eq_some_iff.mp heq
  exact h place part hpart

section Whole

variable {n : Node} (h : n.Whole) (hparts : ∀ field child, (field, some child) ∈ n.branches →
  (patternOf child).Whole ∧ (patternProperty child).Whole)

include h hparts

/-- As a pattern of its own, a property that stands for a name is what it was. -/
theorem whole_patternOf_of_parts : (patternOf n).Whole := by
  rcases n with ⟨head, branches⟩
  rw [patternOf]
  cases hkind : head.kind with
  | none => exact h
  | some kind =>
    refine .mk (fun hshorthand ↦ ?_) fun _ _ hchild ↦ ?_
    · obtain ⟨key, value, hpair⟩ := h.pair hshorthand
      obtain rfl : kind = .property := Option.some.inj (hkind.symm.trans hpair.kind)
      obtain rfl : branches = _ := hpair.branches
      exact ⟨key, value, rfl, hpair.isMethod, hpair.lists, rfl, hpair.key, hpair.value⟩
    · change _ ∈ patternBranches kind branches at hchild
      rw [patternBranches_eq_map] at hchild
      refine whole_of_mem_map (fun field child hbranch ↦ ?_) hchild
      unfold patternPart
      split
      · exact h.part hbranch
      · split
        · exact (hparts field child hbranch).2
        · exact (hparts field child hbranch).1

/-- Of a property in a pattern only the value becomes a pattern. -/
theorem whole_patternProperty_of_parts : (patternProperty n).Whole := by
  rcases n with ⟨head, branches⟩
  rw [patternProperty]
  refine .mk (fun hshorthand ↦ ?_) fun _ _ hchild ↦ ?_
  · obtain ⟨key, value, hpair⟩ := h.pair hshorthand
    obtain rfl : branches = _ := hpair.branches
    refine ⟨key, patternOf value, hpair.kind, hpair.isMethod, hpair.lists, rfl, hpair.key, ?_⟩
    rw [isTerm_patternOf]
    exact hpair.value
  · change _ ∈ patternValues branches at hchild
    rw [patternValues_eq_map] at hchild
    refine whole_of_mem_map (f := fun field child ↦ if field = .value then patternOf child
      else child) (fun field child hbranch ↦ ?_) hchild
    split
    · exact (hparts field child hbranch).1
    · exact h.part hbranch

end Whole

/-- What is whole stays whole as a pattern. -/
theorem whole_patterns {n : Node} (h : n.Whole) :
    (patternOf n).Whole ∧ (patternProperty n).Whole := by
  induction h with
  | mk pair part ih =>
    exact ⟨whole_patternOf_of_parts (.mk pair part) ih,
      whole_patternProperty_of_parts (.mk pair part) ih⟩

/-- A piece read as a pattern. -/
def asPattern (p : Piece) : Piece :=
  ⟨patternOf p.node, (whole_patterns p.whole).1⟩

end Relabel.Source
