import Relabel.Proofs.Scope.Counting

/-!
# Surveys read off the rules

A survey works from a list of tasks, declares patterns at once and leaves their defaults for later,
and numbers the scopes as it opens them. What it states is nevertheless what the rules of lexical
scoping say about the tree, each thing as often as they say it: under a numbering of the scopes,
what a task states and what it leaves to be done is what the part of the tree that it is about says
where it stands.
-/

namespace Relabel

open Lexical (Mark)

/-! ## Tasks -/

/-- The kinds of node that have no rules of their own. -/
def Kind.isPlain : Kind → Bool
  | identifier | functionDeclaration | functionExpression | arrowFunction | variableDeclaration
  | catchClause | blockStatement | forStatement | forInStatement | forOfStatement
  | switchStatement | classDeclaration | classExpression | importDeclaration | property
  | assignmentPattern => false
  | _ => true

namespace Task

variable {p : Mark → Bool} {ν : Numbering} {n : Node} {place : Place} {field : Field}
  {c : Standing}

/-- How often working off a task says something with a property, now or later. -/
def Outcome.sum (p : Mark → Bool) (ν : Numbering) (outcome : Outcome) : Nat :=
  Fact.said p ν outcome.facts + due p ν outcome.tasks

theorem due_ofItems
    (hbelow : ∀ child, c.below n field child = .reading ν place n field none) :
    due p ν (ofItems n field place (n.items field)) = c.countUnder p n field := by
  rw [Standing.countUnder_eq_items, due, ofItems, List.map_filterMap]
  congr 1
  apply List.filterMap_congr
  intro item _
  cases item with
  | none => rfl
  | some child =>
    rw [Option.map_some, Option.map_some, Option.map_some, hbelow]
    rfl

theorem due_ofChild {owner : Option Node} (hsingle : (n.items field).length ≤ 1)
    (hbelow : ∀ child, n.child? field = some child →
      c.below n field child = .reading ν place n field owner) :
    due p ν (ofChild n field place owner) = c.countUnder p n field := by
  rw [Standing.countUnder_eq_child p hsingle, ofChild]
  cases hchild : n.child? field with
  | none => rfl
  | some child =>
    rw [Option.elim_some, hbelow child hchild]
    rfl

theorem due_ofChildren
    (hbelow : ∀ field child, c.below n field child = .reading ν place n field none) :
    due p ν (ofChildren n place) =
      total (n.children.map fun x ↦ (c.below n x.1 x.2).count p x.2) := by
  rw [due, ofChildren, List.map_map]
  congr 1
  apply List.map_congr_left
  intro x _
  rw [hbelow]
  rfl

/-- The name of a function or class is declared where it stands. -/
theorem said_declareName {d : Declaring} (hshaped : ∀ m ∈ n.nodes, m.isShaped = true)
    (hsingle : (n.items .id).length ≤ 1)
    (hname : ∀ child, n.child? .id = some child → child.isIdentifier = true)
    (hbelow : ∀ child, c.below n .id child = d.standing ν n none) :
    Fact.said p ν (declareName d n) = c.countUnder p n .id := by
  rw [Standing.countUnder_eq_child p hsingle, declareName, ownName?]
  cases hchild : n.child? .id with
  | none => rfl
  | some child =>
    have hidentifier := hname child hchild
    have hshapedChild := hshaped child (Node.mem_nodes_of_mem_branches n.mem_nodes_self
      (Node.mem_branches_of_child? hchild))
    rw [Option.filter_some, if_pos hidentifier, Option.elim_some, hbelow,
      ← Declaring.sum_identifier hshapedChild hidentifier]
    rfl

/-- A block that shares the scope of what it belongs to says what its statements say. -/
theorem sum_blockBody {body : Node} (hshaped : body.isShaped = true)
    (hkind : body.hasKind .blockStatement = true) (hscopes : c.scopes = ν place.scope)
    (huse : c.use = .body) : (blockBody place body).sum p ν = c.count p body := by
  have hblock : body.kind = some .blockStatement := by simpa [Node.hasKind] using hkind
  have hbelow (child : Node) : c.below body .body child = .reading ν place body .body none := by
    simp [Standing.below, Standing.inner, Standing.opens?, Standing.useUnder, Standing.isPart,
      Standing.ownerUnder, Standing.isOutside, Standing.reading, isPropertyName, hblock, huse,
      hscopes]
  have hown : c.own body = [] := by
    simp [Standing.own, Standing.opens?, Node.isIdentifier, Node.hasKind, hblock, huse]
  rw [Standing.count_eq_labels p hshaped hblock rfl, hown, Outcome.sum, blockBody,
    due_ofItems hbelow]
  simp

/-- The body of a function says what it says where it stands, be it a block or an expression. -/
theorem sum_functionBody (hshaped : ∀ m ∈ n.nodes, m.isShaped = true)
    (hsingle : (n.items .body).length ≤ 1) (hproperty : isPropertyName n .body = false)
    (hbelow : ∀ child, c.below n .body child =
      ⟨ν place.scope, n, if child.hasKind .blockStatement then .body else .plain, none⟩) :
    (functionBody place n).sum p ν = c.countUnder p n .body := by
  unfold functionBody
  cases hblock : ownBlock? n with
  | some body =>
    obtain ⟨hbody, hkind⟩ := Option.filter_eq_some_iff.mp hblock
    have hmem := Node.mem_nodes_of_mem_branches n.mem_nodes_self (Node.mem_branches_of_child? hbody)
    rw [Standing.countUnder_eq_child p hsingle, hbody, Option.elim_some, hbelow, if_pos hkind]
    exact sum_blockBody (hshaped body hmem) hkind rfl rfl
  | none =>
    have hexpression (child : Node) (hchild : n.child? .body = some child) :
        child.hasKind .blockStatement = false := by
      simpa [ownBlock?, hchild, Option.filter_some] using hblock
    have hdue : due p ν (ofChild n .body place none) = c.countUnder p n .body := by
      apply due_ofChild hsingle
      intro child hchild
      rw [hbelow, hexpression child hchild]
      simp [Standing.reading, hproperty]
    simpa [Outcome.sum] using hdue

section Handlers

variable {t : Task} {fresh : ScopeId}

theorem shaped_child (hshaped : ∀ m ∈ n.nodes, m.isShaped = true) {child : Node}
    (hchild : (field, some child) ∈ n.branches) : ∀ m ∈ child.nodes, m.isShaped = true :=
  fun m hm ↦ hshaped m (Node.mem_nodes_iff.mpr (.inr ⟨field, child, hchild, hm⟩))

/-- The opening of a scope is what the node says by itself. -/
theorem said_opened {type : ScopeType} (hidentifier : t.node.isIdentifier = false)
    (hopens : (t.standing ν).opens? t.node = some type) (facts : List Fact) :
    Fact.said p ν (.opened type t.node (some t.place.scope) :: facts) =
      ((t.standing ν).own t.node).countP p + Fact.said p ν facts := by
  rw [Fact.said_cons, Standing.own, hidentifier, hopens]
  rfl

theorem inner_of_opens {type : ScopeType} (hopens : (t.standing ν).opens? t.node = some type)
    (hν : ν fresh = ⟨type, t.node.id⟩ :: ν t.place.scope) :
    (t.standing ν).inner t.node = ν fresh := by
  rw [Standing.inner, hopens, hν]
  rfl

def IsFunction (n : Node) : Prop :=
  n.kind = some .functionDeclaration ∨ n.kind = some .functionExpression ∨
    n.kind = some .arrowFunction

/-- A function opens its scope after its name was declared outside. -/
theorem numbers_function (h : Fact.Numbers ν fresh (t.function fresh).facts) :
    ν fresh = ⟨.function, t.node.id⟩ :: ν t.place.scope := by
  have hname : Fact.opens (nameOf .functionDeclaration ⟨t.place.scope, .function, t.place⟩
      t.node) = 0 := by
    unfold nameOf declareName
    split
    · cases ownName? t.node <;> rfl
    · rfl
  rw [function_eq, Fact.numbers_append, hname, Nat.add_zero] at h
  exact h.2.1

/-- A class expression with a name opens a scope for it. -/
theorem numbers_classLike (h : Fact.Numbers ν fresh (t.classLike fresh).facts)
    (hkind : t.node.kind = some .classExpression) (hname : (ownName? t.node).isSome = true) :
    ν fresh = ⟨.classBody, t.node.id⟩ :: ν t.place.scope := by
  have hdeclaration : t.node.hasKind .classDeclaration = false := by simp [Node.hasKind, hkind]
  rw [classLike, hdeclaration, hname] at h
  exact h.1

theorem sum_function (hshaped : ∀ m ∈ t.node.nodes, m.isShaped = true)
    (hfunction : IsFunction t.node)
    (hν : ν fresh = ⟨.function, t.node.id⟩ :: ν t.place.scope) :
    (t.function fresh).sum p ν = (t.standing ν).count p t.node := by
  have hn := hshaped t.node t.node.mem_nodes_self
  have hopens : (t.standing ν).opens? t.node = some .function := by
    rcases hfunction with hkind | hkind | hkind <;> simp [Standing.opens?, hkind]
  have hidentifier : t.node.isIdentifier = false := by
    rcases hfunction with hkind | hkind | hkind <;> simp [Node.isIdentifier, Node.hasKind, hkind]
  have hinner := inner_of_opens hopens hν
  have hparams : (functionParams fresh t.node).sum p ν =
      (t.standing ν).countUnder p t.node .params := by
    rw [functionParams, Declaring.sum_patterns, Standing.countUnder_eq_total]
    intro child hchild
    have hadmits := Node.admits_of_isShaped hn hchild
    have hpattern : child.isPattern = true := by
      rcases hfunction with hkind | hkind | hkind <;> simpa [Node.admits, hkind] using hadmits
    rw [Declaring.sum_pattern (shaped_child hshaped hchild) hpattern]
    congr 1
    rcases hfunction with hkind | hkind | hkind <;>
      simp [Standing.below, hinner, Standing.useUnder, Standing.ownerUnder, Standing.isOutside,
        Declaring.standing, hkind]
  have hsingle : (t.node.items .body).length ≤ 1 := by
    rcases hfunction with hkind | hkind | hkind <;>
      exact Node.length_items_of_isShaped hn hkind rfl (by decide) (by decide)
  have hbelow (child : Node) : (t.standing ν).below t.node .body child =
      ⟨ν fresh, t.node, if child.hasKind .blockStatement then .body else .plain, none⟩ := by
    rcases hfunction with hkind | hkind | hkind <;>
      simp [Standing.below, hinner, Standing.useUnder, Standing.ownerUnder, Standing.isOutside,
        hkind]
  have hproperty : isPropertyName t.node .body = false := by
    rcases hfunction with hkind | hkind | hkind <;> simp [isPropertyName, hkind]
  have hbody : (functionBody ⟨fresh, fresh⟩ t.node).sum p ν =
      (t.standing ν).countUnder p t.node .body :=
    sum_functionBody hshaped hsingle hproperty hbelow
  rw [function_eq]
  simp only [Outcome.sum, Declared.sum] at hparams hbody ⊢
  simp only [Fact.said_append, said_opened hidentifier hopens, due_append, due_reverse]
  -- The name of a function belongs outside, inside or nowhere, by the kind of the function.
  rcases hfunction with hkind | hkind | hkind
  · have hname : Fact.said p ν (declareName ⟨t.place.scope, .function, t.place⟩ t.node) =
        (t.standing ν).countUnder p t.node .id := by
      apply said_declareName hshaped
      · exact Node.length_items_of_isShaped hn hkind rfl (by decide) (by decide)
      · intro child hchild
        simpa [Node.admits, hkind] using
          Node.admits_of_isShaped hn (Node.mem_branches_of_child? hchild)
      · intro child
        simp [Standing.below, Standing.useUnder, Standing.ownerUnder, Standing.isOutside,
          Declaring.standing, standing, Standing.reading, hkind]
    rw [Standing.count_eq_labels p hn hkind rfl]
    simp [nameOf, Node.hasKind, hkind, hname]
    omega
  · have hname : Fact.said p ν (declareName ⟨fresh, .ownName, ⟨fresh, fresh⟩⟩ t.node) =
        (t.standing ν).countUnder p t.node .id := by
      apply said_declareName hshaped
      · exact Node.length_items_of_isShaped hn hkind rfl (by decide) (by decide)
      · intro child hchild
        simpa [Node.admits, hkind] using
          Node.admits_of_isShaped hn (Node.mem_branches_of_child? hchild)
      · intro child
        simp [Standing.below, hinner, Standing.useUnder, Standing.ownerUnder, Standing.isOutside,
          Declaring.standing, hkind]
    rw [Standing.count_eq_labels p hn hkind rfl]
    simp [nameOf, Node.hasKind, hkind, hname]
    omega
  · rw [Standing.count_eq_labels p hn hkind rfl]
    simp [nameOf, Node.hasKind, hkind]
    omega

/-- The body of a catch clause is a block, so that nothing is left out. -/
theorem catchBody_eq_functionBody (hn : n.isShaped = true) (hkind : n.kind = some .catchClause) :
    catchBody place n = functionBody place n := by
  unfold catchBody functionBody
  cases hown : ownBlock? n with
  | some body => rfl
  | none =>
    rw [ofChild]
    cases hchild : n.child? .body with
    | none => rfl
    | some child =>
      have hadmits := Node.admits_of_isShaped hn (Node.mem_branches_of_child? hchild)
      simp only [Node.admits, hkind] at hadmits
      simp [ownBlock?, hchild, Option.filter_some, hadmits] at hown

theorem sum_catchClause (hshaped : ∀ m ∈ t.node.nodes, m.isShaped = true)
    (hkind : t.node.kind = some .catchClause)
    (hν : ν fresh = ⟨.catchClause, t.node.id⟩ :: ν t.place.scope) :
    (t.catchClause fresh).sum p ν = (t.standing ν).count p t.node := by
  have hn := hshaped t.node t.node.mem_nodes_self
  have hopens : (t.standing ν).opens? t.node = some .catchClause := by
    simp [Standing.opens?, hkind]
  have hidentifier : t.node.isIdentifier = false := by
    simp [Node.isIdentifier, Node.hasKind, hkind]
  have hinner := inner_of_opens hopens hν
  have hparam : (catchParam ⟨fresh, t.place.hoist⟩ t.node).sum p ν =
      (t.standing ν).countUnder p t.node .param := by
    apply Declaring.sum_part
      (Node.length_items_of_isShaped hn hkind rfl (by decide) (by decide))
    · simp [Standing.below, hinner, Standing.useUnder, Standing.ownerUnder, Standing.isOutside,
        Declaring.standing, hkind]
    · intro child hchild
      have hmem := Node.mem_branches_of_child? hchild
      have hpattern : child.isPattern = true := by
        simpa [Node.admits, hkind] using Node.admits_of_isShaped hn hmem
      exact Declaring.sum_pattern (shaped_child hshaped hmem) hpattern _ _
  have hbody : (functionBody ⟨fresh, t.place.hoist⟩ t.node).sum p ν =
      (t.standing ν).countUnder p t.node .body := by
    apply sum_functionBody hshaped
      (Node.length_items_of_isShaped hn hkind rfl (by decide) (by decide))
    · simp [isPropertyName, hkind]
    · simp [Standing.below, hinner, Standing.useUnder, Standing.ownerUnder, Standing.isOutside,
        hkind]
  rw [catchClause_eq, catchBody_eq_functionBody hn hkind, Standing.count_eq_labels p hn hkind rfl]
  simp only [Outcome.sum, Declared.sum] at hparam hbody ⊢
  simp only [Fact.said_append, said_opened hidentifier hopens, due_append, due_reverse,
    List.map_cons, List.map_nil, total_cons, total_nil]
  omega

theorem sum_block (hn : t.node.isShaped = true) (hkind : t.node.kind = some .blockStatement)
    (hν : ν fresh = ⟨.block, t.node.id⟩ :: ν t.place.scope) :
    (t.block fresh).sum p ν = (t.standing ν).count p t.node := by
  have hopens : (t.standing ν).opens? t.node = some .block := by
    unfold standing Standing.reading
    by_cases hname : isPropertyName t.parent t.field = true <;>
      simp [Standing.opens?, hkind, hname]
  have hidentifier : t.node.isIdentifier = false := by
    simp [Node.isIdentifier, Node.hasKind, hkind]
  have hbelow (child : Node) : (t.standing ν).below t.node .body child =
      .reading ν ⟨fresh, t.place.hoist⟩ t.node .body none := by
    simp [Standing.below, inner_of_opens hopens hν, Standing.useUnder, Standing.isPart,
      Standing.ownerUnder, Standing.isOutside, Standing.reading, hkind]
  rw [Outcome.sum, block, said_opened hidentifier hopens, due_ofItems hbelow,
    Standing.count_eq_labels p hn hkind rfl]
  simp

theorem sum_loop (hloop : t.node.kind = some .forStatement ∨ t.node.kind = some .forInStatement ∨
      t.node.kind = some .forOfStatement)
    (hν : ν fresh = ⟨.loop, t.node.id⟩ :: ν t.place.scope) :
    (t.loop fresh).sum p ν = (t.standing ν).count p t.node := by
  have hopens : (t.standing ν).opens? t.node = some .loop := by
    rcases hloop with hkind | hkind | hkind <;> simp [Standing.opens?, hkind]
  have hidentifier : t.node.isIdentifier = false := by
    rcases hloop with hkind | hkind | hkind <;> simp [Node.isIdentifier, Node.hasKind, hkind]
  have hbelow (field : Field) (child : Node) : (t.standing ν).below t.node field child =
      .reading ν ⟨fresh, t.place.hoist⟩ t.node field none := by
    rcases hloop with hkind | hkind | hkind <;>
      simp [Standing.below, inner_of_opens hopens hν, Standing.useUnder, Standing.isPart,
        Standing.ownerUnder, Standing.isOutside, Standing.reading, hkind]
  rw [Outcome.sum, loop, said_opened hidentifier hopens, due_ofChildren hbelow, Standing.count_eq]
  rfl

theorem sum_switch (hn : t.node.isShaped = true) (hkind : t.node.kind = some .switchStatement)
    (hν : ν fresh = ⟨.switch, t.node.id⟩ :: ν t.place.scope) :
    (t.switch fresh).sum p ν = (t.standing ν).count p t.node := by
  have hopens : (t.standing ν).opens? t.node = some .switch := by simp [Standing.opens?, hkind]
  have hidentifier : t.node.isIdentifier = false := by
    simp [Node.isIdentifier, Node.hasKind, hkind]
  have hdiscriminant : due p ν (ofChild t.node .discriminant t.place none) =
      (t.standing ν).countUnder p t.node .discriminant := by
    apply due_ofChild (Node.length_items_of_isShaped hn hkind rfl (by decide) (by decide))
    simp [Standing.below, Standing.useUnder, Standing.isPart, Standing.ownerUnder,
      Standing.isOutside, Standing.reading, standing, hkind]
  have hcases : due p ν (ofItems t.node .cases ⟨fresh, t.place.hoist⟩ (t.node.items .cases)) =
      (t.standing ν).countUnder p t.node .cases := by
    apply due_ofItems
    simp [Standing.below, inner_of_opens hopens hν, Standing.useUnder, Standing.isPart,
      Standing.ownerUnder, Standing.isOutside, Standing.reading, hkind]
  rw [Outcome.sum, switch, said_opened hidentifier hopens, due_append, hdiscriminant, hcases,
    Standing.count_eq_labels p hn hkind rfl]
  simp

/-- A part of something that is read is read. -/
theorem below_standing (h : Standing.isPart t.node field = true) (child : Node) :
    (t.standing ν).below t.node field child =
      ⟨ν t.place.scope, t.node, .plain, (t.standing ν).ownerUnder t.node field⟩ := by
  rw [Standing.below_of_isPart h]
  by_cases hname : isPropertyName t.parent t.field = true <;>
    simp [standing, Standing.reading, hname]

theorem sum_property (hn : t.node.isShaped = true) (hkind : t.node.kind = some .property) :
    t.property.sum p ν = (t.standing ν).count p t.node := by
  have hispart : Standing.isPart t.node .value = true := by simp [Standing.isPart, hkind]
  have hkey : due p ν (ofChild t.node .key t.place none) =
      (t.standing ν).countUnder p t.node .key := by
    apply due_ofChild (Node.length_items_of_isShaped hn hkind rfl (by decide) (by decide))
    simp [Standing.below, Standing.inner, Standing.opens?, Standing.useUnder, Standing.isPart,
      Standing.ownerUnder, Standing.isOutside, Standing.reading, standing, hkind]
  have hvalue : due p ν (ofChild t.node .value t.place
      (if t.node.head.shorthand then some t.node else none)) =
      (t.standing ν).countUnder p t.node .value := by
    apply due_ofChild (Node.length_items_of_isShaped hn hkind rfl (by decide) (by decide))
    simp [below_standing hispart, Standing.ownerUnder, Standing.reading, isPropertyName, hkind]
  rw [Outcome.sum, property, due_append, hkey, hvalue, Standing.count_eq_labels p hn hkind rfl,
    Standing.own_of_isPart hispart]
  simp

theorem sum_assignmentPattern (hn : t.node.isShaped = true)
    (hkind : t.node.kind = some .assignmentPattern) :
    t.assignmentPattern.sum p ν = (t.standing ν).count p t.node := by
  have hispart : Standing.isPart t.node .left = true := by simp [Standing.isPart, hkind]
  have hleft : due p ν (ofChild t.node .left t.place t.owner) =
      (t.standing ν).countUnder p t.node .left := by
    apply due_ofChild (Node.length_items_of_isShaped hn hkind rfl (by decide) (by decide))
    simp [below_standing hispart, Standing.ownerUnder, Standing.reading, isPropertyName, hkind]
  have hright : due p ν (ofChild t.node .right t.place none) =
      (t.standing ν).countUnder p t.node .right := by
    apply due_ofChild (Node.length_items_of_isShaped hn hkind rfl (by decide) (by decide))
    simp [Standing.below, Standing.inner, Standing.opens?, Standing.useUnder, Standing.isPart,
      Standing.ownerUnder, Standing.isOutside, Standing.reading, standing, hkind]
  rw [Outcome.sum, assignmentPattern, due_append, hleft, hright,
    Standing.count_eq_labels p hn hkind rfl, Standing.own_of_isPart hispart]
  simp

theorem sum_identifier (hn : t.node.isShaped = true) (hkind : t.node.kind = some .identifier) :
    t.identifier.sum p ν = (t.standing ν).count p t.node := by
  have hidentifier := Node.isIdentifier_iff.mpr hkind
  rw [Standing.count_eq_labels p hn hkind rfl, Standing.own, if_pos hidentifier, Outcome.sum,
    identifier]
  by_cases hname : isPropertyName t.parent t.field = true
  · simp [standing, Standing.reading, hname]
  · simp [standing, Standing.reading, hname, Fact.said, Fact.marks]
    rfl

theorem sum_classLike (hshaped : ∀ m ∈ t.node.nodes, m.isShaped = true)
    (hclass : t.node.kind = some .classDeclaration ∨ t.node.kind = some .classExpression)
    (hν : t.node.kind = some .classExpression → (ownName? t.node).isSome = true →
      ν fresh = ⟨.classBody, t.node.id⟩ :: ν t.place.scope) :
    (t.classLike fresh).sum p ν = (t.standing ν).count p t.node := by
  have hn := hshaped t.node t.node.mem_nodes_self
  have hparts (place : Place) (hinner : (t.standing ν).inner t.node = ν place.scope) :
      due p ν (ofChild t.node .superClass place none ++ ofChild t.node .body place none) =
        (t.standing ν).countUnder p t.node .superClass +
          (t.standing ν).countUnder p t.node .body := by
    rw [due_append]
    congr 1
    all_goals
      rcases hclass with hkind | hkind <;>
        exact due_ofChild (Node.length_items_of_isShaped hn hkind rfl (by decide) (by decide))
          (by simp [Standing.below, hinner, Standing.useUnder, Standing.isPart,
            Standing.ownerUnder, Standing.isOutside, Standing.reading, hkind])
  have hname {d : Declaring} (hbelow : ∀ child, (t.standing ν).below t.node .id child =
        d.standing ν t.node none) :
      Fact.said p ν (declareName d t.node) = (t.standing ν).countUnder p t.node .id := by
    rcases hclass with hkind | hkind <;>
      exact said_declareName hshaped
        (Node.length_items_of_isShaped hn hkind rfl (by decide) (by decide))
        (fun child hchild ↦ by
          simpa [Node.admits, hkind] using
            Node.admits_of_isShaped hn (Node.mem_branches_of_child? hchild)) hbelow
  have hidentifier : t.node.isIdentifier = false := by
    rcases hclass with hkind | hkind <;> simp [Node.isIdentifier, Node.hasKind, hkind]
  unfold classLike
  rcases hclass with hkind | hkind
  · have hopens : (t.standing ν).opens? t.node = none := by simp [Standing.opens?, hkind]
    have hinner : (t.standing ν).inner t.node = ν t.place.scope := by
      simp [Standing.inner, hopens]
    have hdeclared := hname (d := ⟨t.place.scope, .classDeclaration, t.place⟩) (by
      simp [Standing.below, hinner, Standing.useUnder, Standing.ownerUnder, Standing.isOutside,
        Declaring.standing, hkind])
    rw [Standing.count_eq_labels p hn hkind rfl]
    simp [Node.hasKind, hkind, Outcome.sum, hdeclared, ← hparts t.place hinner, Standing.own,
      hopens, hidentifier]
  · have hdeclaration : t.node.hasKind .classDeclaration = false := by simp [Node.hasKind, hkind]
    rw [hdeclaration, Standing.count_eq_labels p hn hkind rfl]
    by_cases hsome : (ownName? t.node).isSome = true
    · have hopens : (t.standing ν).opens? t.node = some .classBody := by
        simp [Standing.opens?, hkind, hsome]
      have hinner := inner_of_opens hopens (hν hkind hsome)
      have hdeclared := hname (d := ⟨fresh, .ownName, ⟨fresh, t.place.hoist⟩⟩) (by
        simp [Standing.below, hinner, Standing.useUnder, Standing.ownerUnder, Standing.isOutside,
          Declaring.standing, hkind])
      have hinside := hparts ⟨fresh, t.place.hoist⟩ hinner
      simp only [Bool.false_eq_true, if_false, hsome, if_true, Outcome.sum, List.singleton_append,
        said_opened hidentifier hopens, hdeclared, hinside, List.map_cons, List.map_nil,
        total_cons, total_nil]
      omega
    · have hopens : (t.standing ν).opens? t.node = none := by
        simp [Standing.opens?, hkind, hsome]
      have hinner : (t.standing ν).inner t.node = ν t.place.scope := by
        simp [Standing.inner, hopens]
      -- The class has no name, so nothing is said under that label.
      have hid : (t.standing ν).countUnder p t.node .id = 0 := by
        rw [← hname (d := ⟨t.place.scope, .ownName, t.place⟩) (by
          simp [Standing.below, hinner, Standing.useUnder, Standing.ownerUnder, Standing.isOutside,
            Declaring.standing, hkind])]
        simp [declareName, Option.not_isSome_iff_eq_none.mp hsome]
      simp [hsome, Outcome.sum, hparts t.place hinner, hid, Standing.own, hopens, hidentifier]

theorem sum_declarator {d : Declaring} {declarator : Node}
    (hshaped : ∀ m ∈ declarator.nodes, m.isShaped = true)
    (hkind : declarator.kind = some .variableDeclarator) (parent : Node) :
    (d.part declarator none .id).sum p ν + due p ν (ofChild declarator .init d.place none) =
      (d.standing ν parent none).count p declarator := by
  have hn := hshaped declarator declarator.mem_nodes_self
  have hispart : Standing.isPart declarator .id = true := by simp [Standing.isPart, hkind]
  have hid : (d.part declarator none .id).sum p ν =
      (d.standing ν parent none).countUnder p declarator .id := by
    apply Declaring.sum_part (Node.length_items_of_isShaped hn hkind rfl (by decide) (by decide))
    · simp [Declaring.below_standing hispart, Standing.ownerUnder, hkind]
    · intro child hchild
      have hmem := Node.mem_branches_of_child? hchild
      have hpattern : child.isPattern = true := by
        simpa [Node.admits, hkind] using Node.admits_of_isShaped hn hmem
      exact Declaring.sum_pattern (shaped_child hshaped hmem) hpattern _ _
  have hinit : due p ν (ofChild declarator .init d.place none) =
      (d.standing ν parent none).countUnder p declarator .init := by
    apply due_ofChild (Node.length_items_of_isShaped hn hkind rfl (by decide) (by decide))
    simp [Standing.below, Standing.inner, Standing.opens?, Standing.useUnder, Standing.isPart,
      Standing.ownerUnder, Standing.isOutside, Standing.reading, isPropertyName,
      Declaring.standing, hkind]
  rw [hid, hinit, Standing.count_eq_labels p hn hkind rfl, Standing.own_of_isPart hispart]
  simp

/-- Declarators are declared last to first, and initialised first to last. -/
theorem sum_declarators (target : ScopeId) (items : List (Option Node)) :
    (declarators t target items).sum p ν = total (items.filterMap (Option.map fun declarator ↦
      (Declaring.part ⟨target, .declaration t.node.head.variety, t.place⟩ declarator none
        .id).sum p ν + due p ν (ofChild declarator .init t.place none))) := by
  induction items with
  | nil => rfl
  | cons item rest ih =>
    cases item with
    | none => exact ih
    | some declarator =>
      simp only [Outcome.sum] at ih
      simp only [declarators, Declaring.under_eq_part, Outcome.sum, Fact.said_append,
        Fact.said_placed, due_append, due_reverse, Declared.sum, List.filterMap_cons,
        Option.map_some, total_cons] at ih ⊢
      omega

theorem sum_variableDeclaration (hshaped : ∀ m ∈ t.node.nodes, m.isShaped = true)
    (hkind : t.node.kind = some .variableDeclaration)
    (hhoist : (ν t.place.hoist).head? = (t.standing ν).hoist?) :
    t.variableDeclaration.sum p ν = (t.standing ν).count p t.node := by
  have hn := hshaped t.node t.node.mem_nodes_self
  have hown : (t.standing ν).own t.node = [] := by
    simp [Standing.own, Standing.opens?, Node.isIdentifier, Node.hasKind, hkind]
  rw [variableDeclaration, sum_declarators, Standing.count_eq_labels p hn hkind rfl, hown,
    Standing.countUnder_eq_total p (c := t.standing ν)]
  · simp
  · intro declarator hmem
    have hdeclarator : declarator.kind = some .variableDeclarator := by
      simpa [Node.admits, hkind, Node.hasKind] using Node.admits_of_isShaped hn hmem
    rw [sum_declarator (shaped_child hshaped hmem) hdeclarator t.node]
    congr 1
    by_cases hvar : t.node.head.variety = some "var" <;>
      simp [Standing.below, Standing.inner, Standing.opens?, Standing.useUnder,
        Standing.ownerUnder, Standing.isOutside, Declaring.standing, hkind, hvar, hhoist]

theorem said_specifiers (items : List (Option Node)) :
    Fact.said p ν ((items.filterMap id).flatMap fun specifier ↦
        .placed specifier.id place.scope :: specifierName place specifier) =
      total (items.filterMap (Option.map fun specifier ↦
        Fact.said p ν (specifierName place specifier))) := by
  induction items with
  | nil => rfl
  | cons item rest ih =>
    cases item with
    | none => exact ih
    | some specifier => simpa [List.filterMap_cons] using ih

/-- The local name of a specifier is declared where it stands. -/
theorem said_localName {d : Declaring} (hd : d = ⟨0, .imported, place⟩) {specifier : Node}
    (hshaped : ∀ m ∈ specifier.nodes, m.isShaped = true)
    (hsingle : (specifier.items .localName).length ≤ 1)
    (hname : ∀ child, specifier.child? .localName = some child → child.isIdentifier = true)
    (hbelow : ∀ child, c.below specifier .localName child = d.standing ν specifier none) :
    Fact.said p ν (specifierName place specifier) = c.countUnder p specifier .localName := by
  rw [Standing.countUnder_eq_child p hsingle, specifierName]
  cases hchild : specifier.child? .localName with
  | none => rfl
  | some child =>
    have hidentifier := hname child hchild
    have hmem := Node.mem_branches_of_child? hchild
    rw [Option.filter_some, if_pos hidentifier, Option.elim_some, hbelow, hd,
      ← Declaring.sum_identifier (shaped_child hshaped hmem child child.mem_nodes_self)
        hidentifier]
    rfl

/-- The name of the member that is imported says nothing. -/
theorem countUnder_imported {specifier : Node}
    (hshaped : ∀ m ∈ specifier.nodes, m.isShaped = true)
    (hkind : specifier.kind = some .importSpecifier) :
    c.countUnder p specifier .imported = 0 := by
  have hn := hshaped specifier specifier.mem_nodes_self
  rw [Standing.countUnder_eq_child p
    (Node.length_items_of_isShaped hn hkind rfl (by decide) (by decide))]
  cases hchild : specifier.child? .imported with
  | none => rfl
  | some child =>
    have hmem := Node.mem_branches_of_child? hchild
    apply Standing.count_of_isNaming p (shaped_child hshaped hmem child child.mem_nodes_self)
    · simpa [Node.admits, hkind] using Node.admits_of_isShaped hn hmem
    · simp [Standing.below, Standing.useUnder, Standing.isPart, isPropertyName, hkind]

theorem said_specifierName {d : Declaring} (hd : d = ⟨0, .imported, place⟩) {specifier : Node}
    (hshaped : ∀ m ∈ specifier.nodes, m.isShaped = true)
    (hspecifier : specifier.isSpecifier = true) (parent : Node) :
    Fact.said p ν (specifierName place specifier) =
      (d.standing ν parent none).count p specifier := by
  have hn := hshaped specifier specifier.mem_nodes_self
  -- The three kinds of specifier differ in what they have besides the local name.
  have hkinds : specifier.kind = some .importSpecifier ∨
      specifier.kind = some .importDefaultSpecifier ∨
      specifier.kind = some .importNamespaceSpecifier := by
    simpa [Node.isSpecifier, Node.hasKind, or_assoc] using hspecifier
  have hispart : Standing.isPart specifier .localName = true := by
    rcases hkinds with hkind | hkind | hkind <;> simp [Standing.isPart, hkind]
  have hlocal : Fact.said p ν (specifierName place specifier) =
      (d.standing ν parent none).countUnder p specifier .localName := by
    rcases hkinds with hkind | hkind | hkind <;>
      exact said_localName hd hshaped
        (Node.length_items_of_isShaped hn hkind rfl (by decide) (by decide))
        (fun child hchild ↦ by
          simpa [Node.admits, hkind] using
            Node.admits_of_isShaped hn (Node.mem_branches_of_child? hchild))
        (by simp [Declaring.below_standing hispart, Standing.ownerUnder, hkind])
  rcases hkinds with hkind | hkind | hkind <;>
    rw [hlocal, Standing.count_eq_labels p hn hkind rfl, Standing.own_of_isPart hispart]
  · simp [countUnder_imported hshaped hkind]
  · simp
  · simp

theorem sum_importDeclaration (hshaped : ∀ m ∈ t.node.nodes, m.isShaped = true)
    (hkind : t.node.kind = some .importDeclaration)
    (hprogram : (ν 0).head? = (ν t.place.scope).getLast?) :
    t.importDeclaration.sum p ν = (t.standing ν).count p t.node := by
  have hn := hshaped t.node t.node.mem_nodes_self
  have hown : (t.standing ν).own t.node = [] := by
    simp [Standing.own, Standing.opens?, Node.isIdentifier, Node.hasKind, hkind]
  have hspecifiers : Fact.said p ν (((t.node.items .specifiers).filterMap id).flatMap
      fun specifier ↦ .placed specifier.id t.place.scope :: specifierName t.place specifier) =
      (t.standing ν).countUnder p t.node .specifiers := by
    rw [said_specifiers, Standing.countUnder_eq_total p]
    intro specifier hmem
    have hspecifier : specifier.isSpecifier = true := by
      simpa [Node.admits, hkind] using Node.admits_of_isShaped hn hmem
    rw [said_specifierName rfl (shaped_child hshaped hmem) hspecifier t.node]
    congr 1
    simp [Standing.below, Standing.inner, Standing.opens?, Standing.useUnder, Standing.ownerUnder,
      Standing.isOutside, Declaring.standing, hkind, hprogram]
  have hsource : (t.standing ν).countUnder p t.node .source = 0 := by
    rw [Standing.countUnder_eq_child p
      (Node.length_items_of_isShaped hn hkind rfl (by decide) (by decide))]
    cases hchild : t.node.child? .source with
    | none => rfl
    | some child =>
      have hmem := Node.mem_branches_of_child? hchild
      have hliteral : child.hasKind .literal = true := by
        simpa [Node.admits, hkind] using Node.admits_of_isShaped hn hmem
      exact Standing.count_of_literal p (shaped_child hshaped hmem child child.mem_nodes_self)
        hliteral
  have hplaced : Fact.said p ν (importSource t.place t.node) = 0 := by
    unfold importSource
    cases t.node.child? .source <;> rfl
  rw [importDeclaration_eq, Outcome.sum, Fact.said_append, hspecifiers, hplaced, due_nil,
    Standing.count_eq_labels p hn hkind rfl, hown]
  simp [hsource]

theorem isPropertyName_of_isPart (h : Standing.isPart n field = true) :
    isPropertyName n field = false := by
  unfold Standing.isPart at h
  split at h <;> simp_all [isPropertyName]

theorem opens?_of_isPlain (hplain : n.kind.all Kind.isPlain = true) : c.opens? n = none := by
  unfold Standing.opens?
  split <;> simp_all [Kind.isPlain]

/-- What stands below a node without rules of its own is read where the node stands. -/
theorem below_of_isPlain (hplain : t.node.kind.all Kind.isPlain = true) (field : Field)
    (child : Node) :
    (t.standing ν).below t.node field child = .reading ν t.place t.node field none := by
  have houtside : Standing.isOutside t.node field = false := by
    unfold Standing.isOutside
    split <;> simp_all [Kind.isPlain]
  have howner : (t.standing ν).ownerUnder t.node field = none := by
    unfold Standing.ownerUnder
    split <;> simp_all [Kind.isPlain]
  have huse : (t.standing ν).useUnder t.node field child =
      if isPropertyName t.node field then .name else .plain := by
    by_cases hispart : Standing.isPart t.node field = true
    · have hbelow : (t.standing ν).useUnder t.node field child = .plain :=
        congrArg Standing.use (below_standing hispart child)
      rw [isPropertyName_of_isPart hispart]
      exact hbelow
    · unfold Standing.useUnder
      split <;> simp_all [Kind.isPlain]
  simp [Standing.below, Standing.inner, opens?_of_isPlain hplain, houtside, howner, huse,
    Standing.reading]

theorem sum_ofChildren (hplain : t.node.kind.all Kind.isPlain = true) :
    (Outcome.mk [] (ofChildren t.node t.place)).sum p ν = (t.standing ν).count p t.node := by
  have hidentifier : t.node.isIdentifier = false := by
    rw [Bool.eq_false_iff]
    intro hidentifier
    rw [Node.isIdentifier_iff.mp hidentifier] at hplain
    exact absurd hplain (by decide)
  have hown : (t.standing ν).own t.node = [] := by
    simp [Standing.own, hidentifier, opens?_of_isPlain hplain]
  rw [Standing.count_eq, hown, Outcome.sum, due_ofChildren (below_of_isPlain hplain)]
  rfl

end Handlers

/-- Working off a task says, now or later, what its node says where it stands. -/
theorem sum_expand {t : Task} {fresh : ScopeId} (hshaped : ∀ m ∈ t.node.nodes, m.isShaped = true)
    (hhoist : (ν t.place.hoist).head? = (t.standing ν).hoist?)
    (hprogram : (ν 0).head? = (ν t.place.scope).getLast?)
    (hν : Fact.Numbers ν fresh (t.expand fresh).facts) :
    (t.expand fresh).sum p ν = (t.standing ν).count p t.node := by
  have hn := hshaped t.node t.node.mem_nodes_self
  -- Saying where the node sits says nothing about scopes and names.
  have hplaced {outcome : Outcome} (h : Fact.Numbers ν fresh outcome.facts →
        outcome.sum p ν = (t.standing ν).count p t.node) :
      Fact.Numbers ν fresh (.placed t.node.id t.place.scope :: outcome.facts) →
      Outcome.sum p ν { outcome with
        facts := .placed t.node.id t.place.scope :: outcome.facts } =
          (t.standing ν).count p t.node := h
  unfold expand at hν ⊢
  revert hν
  apply hplaced
  split
  · rename_i hkind
    exact fun _ ↦ sum_identifier hn hkind
  · rename_i hkind
    exact fun hν ↦ sum_function hshaped (.inl hkind) (numbers_function hν)
  · rename_i hkind
    exact fun hν ↦ sum_function hshaped (.inr (.inl hkind)) (numbers_function hν)
  · rename_i hkind
    exact fun hν ↦ sum_function hshaped (.inr (.inr hkind)) (numbers_function hν)
  · rename_i hkind
    exact fun _ ↦ sum_variableDeclaration hshaped hkind hhoist
  · rename_i hkind
    exact fun hν ↦ sum_catchClause hshaped hkind hν.1
  · rename_i hkind
    exact fun hν ↦ sum_block hn hkind hν.1
  · rename_i hkind
    exact fun hν ↦ sum_loop (.inl hkind) hν.1
  · rename_i hkind
    exact fun hν ↦ sum_loop (.inr (.inl hkind)) hν.1
  · rename_i hkind
    exact fun hν ↦ sum_loop (.inr (.inr hkind)) hν.1
  · rename_i hkind
    exact fun hν ↦ sum_switch hn hkind hν.1
  · rename_i hkind
    exact fun hν ↦ sum_classLike hshaped (.inl hkind) fun hother _ ↦ by simp [hkind] at hother
  · rename_i hkind
    exact fun hν ↦ sum_classLike hshaped (.inr hkind) (numbers_classLike hν)
  · rename_i hkind
    exact fun _ ↦ sum_importDeclaration hshaped hkind hprogram
  · rename_i hkind
    exact fun _ ↦ sum_property hn hkind
  · rename_i hkind
    exact fun _ ↦ sum_assignmentPattern hn hkind
  · refine fun _ ↦ sum_ofChildren ?_
    cases hkind : t.node.kind with
    | none => rfl
    | some kind =>
      rw [Option.all_some]
      unfold Kind.isPlain
      split
      all_goals first
        | rfl
        | exact absurd hkind (by assumption)

end Task

/-! ## Whole surveys -/

/-- A numbering agrees with a place on the scopes that can take a declaration made there. -/
structure Place.Known (ν : Numbering) (place : Place) : Prop where
  nonempty : ν place.scope ≠ []
  hoist : (ν place.hoist).head? = (ν place.scope).find? (·.type.takesVariables)
  program : (ν 0).head? = (ν place.scope).getLast?

variable {p : Mark → Bool} {ν : Numbering} {R : Node → Prop}

theorem Task.Effect.known {fresh : ScopeId} {t : Task} {outcome : Outcome}
    (h : Effect R fresh t outcome) (hknown : t.place.Known ν)
    (hν : Fact.Numbers ν fresh outcome.facts) : ∀ u ∈ outcome.tasks, u.place.Known ν := by
  cases h with
  | stay facts tasks =>
    intro u hu
    rwa [(tasks u hu).place_eq]
  | enter type before after inner facts outside inside scope hoist tasks =>
    rw [facts, Fact.numbers_append, Fact.opens_eq_zero outside] at hν
    have hfresh : ν fresh = ⟨type, t.node.id⟩ :: ν t.place.scope := hν.2.1
    have hinner : inner.Known ν := by
      constructor
      · simp [scope, hfresh]
      · rw [hoist, scope, hfresh, List.find?_cons]
        cases htype : type.takesVariables with
        | true => simp [hfresh]
        | false => simpa using hknown.hoist
      · rw [scope, hfresh, List.getLast?_cons_of_ne_nil hknown.nonempty]
        exact hknown.program
    intro u hu
    rcases tasks u hu with hu | hu
    · rwa [hu.place_eq]
    · rwa [hu.place_eq]

/-- A whole survey says what its tasks are about. -/
theorem said_survey (hR : Node.Hereditary R) (hshaped : ∀ n, R n → ∀ m ∈ n.nodes, m.isShaped = true)
    {fresh : ScopeId} {tasks : List Task}
    (htasks : ∀ t ∈ tasks, R t.node ∧ Node.Owned R t.owner t.node ∧ t.place.Known ν)
    {facts : List Fact} (hfacts : survey fresh tasks = .ok facts)
    (hν : Fact.Numbers ν fresh facts) : Fact.said p ν facts = Task.due p ν tasks := by
  induction hfacts using survey_ok_induction with
  | nil fresh => rfl
  | step fresh t rest later _ _ hlater ih =>
    obtain ⟨hhere, hthere⟩ := Fact.numbers_append.mp hν
    obtain ⟨hmem, howned, hknown⟩ := htasks t List.mem_cons_self
    have heffect : Task.Effect R fresh t (t.expand fresh) := t.effect_expand hR hmem howned
    have hstep := Task.sum_expand (p := p) (hshaped t.node hmem) hknown.hoist hknown.program hhere
    have hrest := ih (fun u hu ↦ by
      rcases List.mem_append.mp hu with hu | hu
      · obtain ⟨humem, huowned⟩ := heffect.left hu
        exact ⟨humem, huowned, heffect.known hknown hhere u hu⟩
      · exact htasks u (List.mem_cons_of_mem t hu)) hthere
    calc
      Fact.said p ν ((t.expand fresh).facts ++ later) =
          Fact.said p ν (t.expand fresh).facts + Fact.said p ν later := Fact.said_append ..
      _ = (t.expand fresh).sum p ν + Task.due p ν rest := by
        rw [hrest, Task.due_append, Task.Outcome.sum, Nat.add_assoc]
      _ = Task.due p ν (t :: rest) := by
        rw [hstep]
        rfl

/-- Nothing stops a survey of nodes that all carry a tag. -/
theorem exists_survey (hR : Node.Hereditary R) (htyped : ∀ n, R n → n.isTyped = true)
    (fresh : ScopeId) {tasks : List Task}
    (htasks : ∀ t ∈ tasks, R t.node ∧ Node.Owned R t.owner t.node) :
    ∃ facts, survey fresh tasks = .ok facts := by
  induction fresh, tasks using survey_induction with
  | nil fresh => exact ⟨[], by rw [survey]⟩
  | step fresh t rest hhere ih =>
    obtain ⟨later, hlater⟩ := ih (Task.owned_tasks hR htasks fresh)
    refine ⟨(t.expand fresh).facts ++ later, ?_⟩
    rw [survey, if_pos hhere]
    exact map_eq_ok_iff.mpr ⟨later, hlater, rfl⟩
  | untyped fresh t rest hhere =>
    exact absurd (htyped t.node (htasks t List.mem_cons_self).1) hhere

namespace Program

variable {tree : Node}

/-- The statements of a program are nodes of it that stand in its scope. -/
theorem standsAt_start (tree : Node) :
    ∀ t ∈ Task.ofItems tree .body ⟨0, 0⟩ (tree.items .body),
      t.StandsAt (· ∈ tree.nodes) ⟨0, 0⟩ :=
  Task.standsAt_ofItems (Node.hereditary_mem_nodes tree) tree.mem_nodes_self .body

theorem exists_facts_of_isTyped (h : ∀ n ∈ tree.nodes, n.isTyped = true) :
    ∃ facts, Program.facts tree = .ok facts := by
  obtain ⟨later, hlater⟩ := exists_survey (Node.hereditary_mem_nodes tree) h 1
    fun t ht ↦ ⟨(standsAt_start tree t ht).mem, (standsAt_start tree t ht).owned⟩
  exact ⟨_, map_eq_ok_iff.mpr ⟨later, hlater, rfl⟩⟩

theorem exists_facts (h : tree.WellFormed) : ∃ facts, Program.facts tree = .ok facts :=
  exists_facts_of_isTyped h.isTyped

/-- A program says what its statements say in its scope. -/
theorem due_start (h : tree.WellFormed) (hν : ν 0 = [⟨.program, tree.id⟩]) :
    Task.due p ν (Task.ofItems tree .body ⟨0, 0⟩ (tree.items .body)) =
      (Lexical.top tree).count p tree := by
  have hshaped := h.shaped tree tree.mem_nodes_self
  have hown : (Lexical.top tree).own tree = [] := by
    simp [Standing.own, Standing.opens?, Node.isIdentifier, Node.hasKind, h.program]
  have hbelow (child : Node) : (Lexical.top tree).below tree .body child =
      .reading ν ⟨0, 0⟩ tree .body none := by
    simp [Standing.below, Standing.inner, Standing.opens?, Standing.useUnder, Standing.isPart,
      Standing.ownerUnder, Standing.isOutside, Standing.reading, Task.isPropertyName,
      Lexical.top, h.program, hν]
  rw [Standing.count_eq_labels p hshaped h.program rfl, hown, Task.due_ofItems hbelow]
  simp

/-- The facts about a program say what the rules say about it, each thing as often. -/
theorem perm_marks (h : tree.WellFormed) {facts : List Fact}
    (hfacts : Program.facts tree = .ok facts) (hν : Fact.Numbers ν 0 facts) :
    (facts.flatMap (Fact.marks ν)).Perm (Lexical.marks tree) := by
  obtain ⟨later, hlater, rfl⟩ := map_eq_ok_iff.mp hfacts
  obtain ⟨hzero, hrest⟩ : ν 0 = [⟨.program, tree.id⟩] ∧ Fact.Numbers ν 1 later := hν
  have hknown : Place.Known ν ⟨0, 0⟩ := by
    constructor <;> simp [hzero, ScopeType.takesVariables]
  have hcount (p : Mark → Bool) : Fact.said p ν later = (Lexical.top tree).count p tree := by
    rw [← due_start h hzero]
    apply said_survey (Node.hereditary_mem_nodes tree) _ _ hlater hrest
    · intro n hn m hm
      exact h.shaped m (Node.mem_nodes_trans hn hm)
    · intro t ht
      have hstands := standsAt_start tree t ht
      exact ⟨hstands.mem, hstands.owned, hstands.place_eq ▸ hknown⟩
  classical
  refine List.Perm.cons _ (List.perm_iff_count.mpr fun mark ↦ ?_)
  exact hcount (· == mark)

end Program

end Relabel
