import Relabel.Scope.Weight

/-!
# Scope analysis

The analysis of a program collects the facts about its scoping by working off tasks, and builds the
store from them. References are resolved at the end, when every declaration is known.
-/

namespace Relabel

namespace Fact

/-- The number of scopes that a list of facts opens. -/
def opens (facts : List Fact) : Nat :=
  facts.countP fun fact ↦ match fact with
    | opened .. => true
    | _ => false

end Fact

/-- Works off a list of tasks, first things first, and collects the facts. It stops at a node that
carries no tag. -/
def survey (fresh : ScopeId) : List Task → Except TreeFault (List Fact)
  | [] => .ok []
  | task :: rest =>
    if task.node.isTyped then
      let outcome := task.expand fresh
      (outcome.facts ++ ·) <$> survey (fresh + Fact.opens outcome.facts) (outcome.tasks ++ rest)
    else .error (.untyped task.parent.kind)
termination_by tasks => Task.weight tasks
decreasing_by
  have smaller := task.weight_expand_lt fresh
  simp only [Task.weight_append]
  simp only [Task.weight, List.map_cons, total_cons] at smaller ⊢
  omega

namespace Program

/-- The facts about a program, whose own scope has number zero. -/
def facts (program : Node) : Except TreeFault (List Fact) :=
  let place : Place := ⟨0, 0⟩
  let start := [.opened .program program none, .placed program.id 0]
  (start ++ ·) <$> survey 1 (Task.ofItems program .body place (program.items .body))

end Program

namespace Store

/-- Declares a site in a scope: a name has one binding in one scope. -/
def declare (s : Store) (target : ScopeId) (kind : BindingKind) (site : Site) : Store :=
  match s.own? target site.name with
  | some b =>
    { s with
      bindings := s.bindings.modify b fun binding ↦
        { binding with declarations := binding.declarations ++ [site] }
      owners := s.owners.set site.id b }
  | none =>
    let b := s.bindings.size
    { s with
      bindings := s.bindings.push
        { name := site.name, kind, scope := target, declarations := [site] }
      scopes := s.scopes.modify target fun scope ↦
        { scope with table := scope.table.set site.name b }
      owners := s.owners.set site.id b }

def openScope (s : Store) (type : ScopeType) (node : Node) (parent : Option ScopeId) : Store :=
  let id := s.scopes.size
  let scopes := match parent with
    | some outer => s.scopes.modify outer fun scope ↦
      { scope with children := scope.children ++ [id] }
    | none => s.scopes
  { s with scopes := scopes.push { type, node, parent } }

/-- Adds what a fact says; references wait until all declarations are known. -/
def learn (s : Store) : Fact → Store
  | .opened type node parent => s.openScope type node parent
  | .placed node scope => { s with places := s.places.set node scope }
  | .declared target kind site => s.declare target kind site
  | .referred _ => s

/-- Resolves a reference: it goes to the index, and to the binding it refers to. -/
def resolve (s : Store) (site : Site) : Store :=
  let name := site.name
  let found := s.lookup? site.scope name
  let index := s.index.set name ((s.index.get? name).getD [] ++ [⟨site, found⟩])
  match found with
  | some b =>
    { s with
      index
      bindings := s.bindings.modify b fun binding ↦
        { binding with references := binding.references ++ [site] }
      owners := s.owners.set site.id b }
  | none => { s with index, free := site.id :: s.free }

/-- The store that a list of facts describes. -/
def ofFacts (facts : List Fact) : Store :=
  let declared := facts.foldl learn {}
  let sites := facts.filterMap fun fact ↦ match fact with
    | .referred site => some site
    | _ => none
  sites.foldl resolve declared

/-- Analyses a program. -/
def analyze (program : Node) : Except TreeFault Store :=
  if program.hasKind .program then ofFacts <$> Program.facts program
  else .error (.notProgram program.kind)

end Store

end Relabel
