import Relabel.Proofs.Scope.Lexical
import Relabel.Proofs.Scope.Survey

/-!
# Counting what is said

The rules of lexical scoping say things about a tree node by node, a survey states them in an order
of its own. To compare the two, what is said is counted: how often a part of a tree says something
where it stands, and how often facts and tasks say it under a numbering of the scopes. A declared
pattern says what it says where it stands.
-/

namespace Relabel

open Lexical (Mark)

/-- For each number of a scope, the scope and those around it, innermost first. -/
abbrev Numbering := ScopeId → List Opening

/-- What a site says under a numbering of the scopes. -/
def Site.occurrence (ν : Numbering) (site : Site) : Occurrence :=
  ⟨site.identifier, site.parent, ν site.scope, site.owner⟩

namespace Fact

/-- What a fact says under a numbering of the scopes. -/
def marks (ν : Numbering) : Fact → List Mark
  | opened type node parent => [.opened ⟨type, node, parent.elim [] ν⟩]
  | placed .. => []
  | declared target kind site => [.declared ⟨(ν target).head?, kind, site.occurrence ν⟩]
  | referred site => [.referred (site.occurrence ν)]

/-- The scopes that facts open are numbered from `fresh` on. -/
def Numbers (ν : Numbering) : ScopeId → List Fact → Prop
  | _, [] => True
  | fresh, opened type node parent :: rest =>
    ν fresh = ⟨type, node.id⟩ :: parent.elim [] ν ∧ Numbers ν (fresh + 1) rest
  | fresh, _ :: rest => Numbers ν fresh rest

theorem numbers_append {ν : Numbering} {fresh : ScopeId} {facts rest : List Fact} :
    Numbers ν fresh (facts ++ rest) ↔
      Numbers ν fresh facts ∧ Numbers ν (fresh + opens facts) rest := by
  induction facts generalizing fresh with
  | nil => simp [Numbers, opens]
  | cons fact facts ih =>
    cases fact with
    | opened type node parent =>
      have hopens : opens (.opened type node parent :: facts) = opens facts + 1 :=
        List.countP_cons_of_pos rfl
      rw [List.cons_append, Numbers, ih, Numbers, hopens, and_assoc, Nat.add_assoc,
        Nat.add_comm 1]
    | _ => exact ih

theorem opens_eq_zero {R : Node → Prop} {place : Place} {facts : List Fact}
    (h : ∀ fact ∈ facts, fact.StandsAt R place) : opens facts = 0 := by
  apply List.countP_eq_zero.mpr
  intro fact hfact
  cases fact with
  | opened => exact (h _ hfact).elim
  | _ => simp

end Fact

section Count

variable (p : Mark → Bool) (ν : Numbering)

namespace Standing

variable (c : Standing) (n : Node)

/-- How often a node and the nodes below it say something with a property. -/
def count : Nat :=
  (c.marks n).countP p

/-- The same for the children under one label. -/
def countUnder (field : Field) : Nat :=
  total ((n.under field).map fun x ↦ (c.below n x.1 x.2).count p x.2)

theorem count_eq :
    c.count p n =
      (c.own n).countP p + total (n.children.map fun x ↦ (c.below n x.1 x.2).count p x.2) := by
  unfold count
  rw [marks_eq, List.countP_append]
  congr 1
  induction n.children with
  | nil => rfl
  | cons x rest ih => rw [List.flatMap_cons, List.countP_append, ih, List.map_cons, total_cons]

variable {c n}

theorem count_congr {c' : Standing} (hown : c.own n = c'.own n)
    (hbelow : ∀ field child, c.below n field child = c'.below n field child) :
    c.count p n = c'.count p n := by
  rw [count_eq, count_eq, hown]
  simp only [hbelow]

theorem nodup_labels {kind : Kind} {labels : List Field} (h : kind.labels? = some labels) :
    labels.Nodup := by
  cases kind <;> simp [Kind.labels?] at h <;> subst h <;> decide

/-- What a node says is what it says by itself and what is said under its labels. -/
theorem count_eq_labels (hshaped : n.isShaped = true) {kind : Kind} (hkind : n.kind = some kind)
    {labels : List Field} (hlabels : kind.labels? = some labels) :
    c.count p n = (c.own n).countP p + total (labels.map (c.countUnder p n)) := by
  have hall : n.children.filter (fun x ↦ labels.contains x.1) = n.children := by
    apply List.filter_eq_self.mpr
    intro x hx
    simpa using Node.mem_labels_of_isShaped hshaped hkind hlabels hx
  unfold countUnder
  rw [count_eq, n.total_under_eq _ (nodup_labels hlabels), hall]

/-- What is said under a label is what the items of the list say. -/
theorem countUnder_eq_items (field : Field) :
    c.countUnder p n field = total ((n.items field).filterMap fun item ↦
      item.map fun child ↦ (c.below n field child).count p child) := by
  have hbranches (branches : List (Field × Option Node)) :
      ((branches.filterMap fun b ↦ b.2.map (b.1, ·)).filter fun x ↦ x.1 = field).map
          (fun x ↦ (c.below n x.1 x.2).count p x.2) =
        (branches.filterMap fun b ↦ if b.1 = field then some b.2 else none).filterMap
          fun item ↦ item.map fun child ↦ (c.below n field child).count p child := by
    induction branches with
    | nil => rfl
    | cons branch rest ih =>
      rcases branch with ⟨place, child⟩
      by_cases hplace : place = field <;> cases child <;> simp_all
  unfold countUnder Node.under Node.children Node.items
  rw [hbranches]

/-- To count what is said under a label, it is enough to know what each item of the list says. -/
theorem countUnder_eq_total {field : Field} {weight : Node → Nat}
    (h : ∀ child, (field, some child) ∈ n.branches →
      weight child = (c.below n field child).count p child) :
    total ((n.items field).filterMap (Option.map weight)) = c.countUnder p n field := by
  rw [countUnder_eq_items]
  congr 1
  apply List.filterMap_congr
  intro item hitem
  cases item with
  | none => rfl
  | some child => exact congrArg some (h child (Node.mem_items_iff.mp hitem))

/-- What is said under a label that is not for a list is what the child says. -/
theorem countUnder_eq_child {field : Field} (hsingle : (n.items field).length ≤ 1) :
    c.countUnder p n field =
      (n.child? field).elim 0 fun child ↦ (c.below n field child).count p child := by
  rw [countUnder_eq_items, Node.child?]
  rcases hitems : n.items field with _ | ⟨item, _ | ⟨_, _⟩⟩
  · rfl
  · cases item <;> simp
  · simp [hitems] at hsingle

theorem count_of_literal (hshaped : n.isShaped = true) (hn : n.hasKind .literal = true) :
    c.count p n = 0 := by
  have hkind : n.kind = some .literal := by simpa [Node.hasKind] using hn
  rw [count_eq_labels p hshaped hkind rfl]
  simp [own, opens?, Node.isIdentifier, Node.hasKind, hkind]

/-- The name of a property or of a member of a module says nothing. -/
theorem count_of_isNaming (hshaped : n.isShaped = true) (hn : n.isNaming = true)
    (huse : c.use = .name) : c.count p n = 0 := by
  rw [Node.isNaming, Bool.or_eq_true] at hn
  rcases hn with hn | hn
  · rw [count_eq_labels p hshaped (Node.isIdentifier_iff.mp hn) rfl, own, if_pos hn, huse]
    rfl
  · exact count_of_literal p hshaped hn

/-- A node that is read at a place. -/
def reading (place : Place) (parent : Node) (field : Field) (owner : Option Node) : Standing where
  scopes := ν place.scope
  parent := parent
  use := if Task.isPropertyName parent field then .name else .plain
  owner := owner

end Standing

/-- How often facts say something with a property. -/
def Fact.said (facts : List Fact) : Nat :=
  (facts.flatMap (marks ν)).countP p

/-- How a task stands. -/
def Task.standing (t : Task) : Standing :=
  .reading ν t.place t.parent t.field t.owner

@[simp]
theorem Task.scopes_standing (t : Task) : (t.standing ν).scopes = ν t.place.scope := rfl

@[simp]
theorem Task.owner_standing (t : Task) : (t.standing ν).owner = t.owner := rfl

/-- How often what is left to be done will say something with a property. -/
def Task.due (tasks : List Task) : Nat :=
  total (tasks.map fun t ↦ (t.standing ν).count p t.node)

@[simp]
theorem Fact.said_append (a b : List Fact) : said p ν (a ++ b) = said p ν a + said p ν b := by
  simp [said]

@[simp]
theorem Fact.said_nil : said p ν [] = 0 := rfl

@[simp]
theorem Fact.said_placed (n : NodeId) (scope : ScopeId) (facts : List Fact) :
    said p ν (.placed n scope :: facts) = said p ν facts := rfl

theorem Fact.said_cons (fact : Fact) (facts : List Fact) :
    said p ν (fact :: facts) = (fact.marks ν).countP p + said p ν facts := by
  simp [said]

@[simp]
theorem Task.due_nil : due p ν [] = 0 := rfl

@[simp]
theorem Task.due_append (a b : List Task) : due p ν (a ++ b) = due p ν a + due p ν b := by
  simp [due]

@[simp]
theorem Task.due_reverse (a : List Task) : due p ν a.reverse = due p ν a := by
  simp [due]

/-- How often a declaration says something with a property, now or later. -/
def Declared.sum (d : Declared) : Nat :=
  Fact.said p ν d.facts + Task.due p ν d.deferred

@[simp]
theorem Declared.sum_append (a b : Declared) : (a ++ b).sum p ν = a.sum p ν + b.sum p ν := by
  simp only [sum, facts_append, deferred_append, Fact.said_append, Task.due_append]
  omega

@[simp]
theorem Declared.sum_empty : ({} : Declared).sum p ν = 0 := rfl

@[simp]
theorem Declared.sum_placed (n : NodeId) (scope : ScopeId) :
    (⟨[.placed n scope], []⟩ : Declared).sum p ν = 0 := rfl

/-! ## Patterns -/

namespace Declaring

variable (d : Declaring)

/-- How a pattern stands that is declared. -/
def standing (parent : Node) (owner : Option Node) : Standing where
  scopes := ν d.place.scope
  parent := parent
  use := .binds (ν d.target).head? d.kind
  owner := owner

variable {p ν d} {n : Node}

theorem sum_identifier (hshaped : n.isShaped = true) (hn : n.isIdentifier = true) (parent : Node)
    (owner : Option Node) :
    (d.identifier n parent owner).sum p ν = (d.standing ν parent owner).count p n := by
  have hkind := Node.isIdentifier_iff.mp hn
  rw [Standing.count_eq_labels p hshaped hkind rfl, Standing.own, if_pos hn]
  rfl

theorem sum_part {parent : Node} {owner : Option Node} {field : Field} {c : Standing}
    (hsingle : (parent.items field).length ≤ 1)
    (hbelow : ∀ child, c.below parent field child = d.standing ν parent owner)
    (hpattern : ∀ child, parent.child? field = some child →
      (d.pattern parent owner child).sum p ν = (d.standing ν parent owner).count p child) :
    (d.part parent owner field).sum p ν = c.countUnder p parent field := by
  rw [Standing.countUnder_eq_child p hsingle, part]
  cases hchild : parent.child? field with
  | none => rfl
  | some child => simpa [hbelow] using hpattern child hchild

theorem sum_later {parent : Node} {field : Field} {c : Standing}
    (hsingle : (parent.items field).length ≤ 1)
    (hbelow : ∀ child, c.below parent field child = .reading ν d.place parent field none) :
    (d.later parent field).sum p ν = c.countUnder p parent field := by
  rw [Standing.countUnder_eq_child p hsingle, later]
  cases hchild : parent.child? field with
  | none => rfl
  | some child =>
    rw [Option.elim_some, hbelow]
    exact Nat.zero_add _

theorem sum_patterns (parent : Node) (items : List (Option Node)) :
    (d.patterns parent items).sum p ν =
      total (items.filterMap (Option.map fun child ↦ (d.pattern parent none child).sum p ν)) := by
  induction items with
  | nil => rfl
  | cons item rest ih =>
    cases item with
    | none => exact ih
    | some child => simp [patterns, ih]

theorem sum_propertyList (items : List (Option Node)) :
    (d.propertyList items).sum p ν =
      total (items.filterMap (Option.map fun child ↦ (d.property child).sum p ν)) := by
  induction items with
  | nil => rfl
  | cons item rest ih =>
    cases item with
    | none => exact ih
    | some child => simp [propertyList, ih]

/-- A member expression in a pattern is no pattern: it is read like any other. -/
theorem count_standing_eq_reading (hkind : n.kind = some .memberExpression) (parent : Node)
    (owner : Option Node) (field : Field) :
    (d.standing ν parent owner).count p n =
      (Standing.reading ν d.place parent field none).count p n := by
  apply Standing.count_congr
  · simp [Standing.own, Standing.opens?, Node.isIdentifier, Node.hasKind, hkind]
  · intro place child
    simp [Standing.below, Standing.inner, Standing.opens?, Standing.useUnder, Standing.isPart,
      Standing.ownerUnder, Standing.isOutside, standing, Standing.reading, hkind]

theorem below_standing {field : Field} (h : Standing.isPart n field = true) (parent : Node)
    (owner : Option Node) (child : Node) :
    (d.standing ν parent owner).below n field child =
      d.standing ν n ((d.standing ν parent owner).ownerUnder n field) :=
  Standing.below_of_isPart h _ child

/-- What a node says when it is declared, as a pattern or as a property of one, is what it says
where it stands. -/
structure Faithful (p : Mark → Bool) (ν : Numbering) (d : Declaring) (n : Node) : Prop where
  pattern : n.isPattern = true → ∀ parent owner,
    (d.pattern parent owner n).sum p ν = (d.standing ν parent owner).count p n
  property : (n.hasKind .restElement ||
      n.hasKind .property && (n.child? .value).all (·.isPattern)) = true → ∀ parent,
    (d.property n).sum p ν = (d.standing ν parent none).count p n

section Below

variable (hn : n.isShaped = true)
  (hbelow : ∀ field child, (field, some child) ∈ n.branches → Faithful p ν d child)

include hbelow in
/-- The part under a label that is not for a list. -/
theorem sum_part_of_below {field : Field} (hispart : Standing.isPart n field = true)
    (hsingle : (n.items field).length ≤ 1)
    (hpattern : ∀ child, n.child? field = some child → child.isPattern = true) (parent : Node)
    (owner : Option Node) :
    (d.part n ((d.standing ν parent owner).ownerUnder n field) field).sum p ν =
      (d.standing ν parent owner).countUnder p n field := by
  apply sum_part hsingle (below_standing hispart parent owner)
  intro child hchild
  have hfaithful := hbelow field child (Node.mem_branches_of_child? hchild)
  exact hfaithful.pattern (hpattern child hchild) n _

include hn hbelow

theorem sum_restElement (hkind : n.kind = some .restElement) (parent : Node)
    (owner : Option Node) :
    (d.part n none .argument).sum p ν = (d.standing ν parent owner).count p n := by
  have hispart : Standing.isPart n .argument = true := by simp [Standing.isPart, hkind]
  have hargument := sum_part_of_below hbelow hispart
    (Node.length_items_of_isShaped hn hkind rfl (by decide) (by decide))
    (fun child hchild ↦ by
      simpa [Node.admits, hkind] using
        Node.admits_of_isShaped hn (Node.mem_branches_of_child? hchild)) parent owner
  rw [Standing.count_eq_labels p hn hkind rfl, Standing.own_of_isPart hispart]
  simpa [Standing.ownerUnder, hkind] using hargument

theorem sum_objectPattern (hkind : n.kind = some .objectPattern) (parent : Node)
    (owner : Option Node) :
    (d.propertyList (n.items .properties)).sum p ν = (d.standing ν parent owner).count p n := by
  have hispart : Standing.isPart n .properties = true := by simp [Standing.isPart, hkind]
  rw [Standing.count_eq_labels p hn hkind rfl, Standing.own_of_isPart hispart, sum_propertyList,
    Standing.countUnder_eq_total p (c := d.standing ν parent owner)]
  · simp
  · intro child hchild
    have hadmits := Node.admits_of_isShaped hn hchild
    rw [below_standing hispart]
    simpa [Standing.ownerUnder, hkind] using
      (hbelow _ child hchild).property (by simpa [Node.admits, hkind] using hadmits) n

theorem sum_arrayPattern (hkind : n.kind = some .arrayPattern) (parent : Node)
    (owner : Option Node) :
    (d.patterns n (n.items .elements)).sum p ν = (d.standing ν parent owner).count p n := by
  have hispart : Standing.isPart n .elements = true := by simp [Standing.isPart, hkind]
  rw [Standing.count_eq_labels p hn hkind rfl, Standing.own_of_isPart hispart, sum_patterns,
    Standing.countUnder_eq_total p (c := d.standing ν parent owner)]
  · simp
  · intro child hchild
    have hadmits := Node.admits_of_isShaped hn hchild
    rw [below_standing hispart]
    simpa [Standing.ownerUnder, hkind] using
      (hbelow _ child hchild).pattern (by simpa [Node.admits, hkind] using hadmits) n none

theorem sum_withDefault (hkind : n.kind = some .assignmentPattern) (parent : Node)
    (owner : Option Node) :
    (d.part n owner .left ++ d.later n .right).sum p ν =
      (d.standing ν parent owner).count p n := by
  have hispart : Standing.isPart n .left = true := by simp [Standing.isPart, hkind]
  have hleft := sum_part_of_below hbelow hispart
    (Node.length_items_of_isShaped hn hkind rfl (by decide) (by decide))
    (fun child hchild ↦ by
      simpa [Node.admits, hkind] using
        Node.admits_of_isShaped hn (Node.mem_branches_of_child? hchild)) parent owner
  have hright : (d.later n .right).sum p ν =
      (d.standing ν parent owner).countUnder p n .right := by
    apply sum_later (Node.length_items_of_isShaped hn hkind rfl (by decide) (by decide))
    simp [Standing.below, Standing.inner, Standing.opens?, Standing.useUnder, Standing.isPart,
      Standing.ownerUnder, Standing.isOutside, standing, Standing.reading, Task.isPropertyName,
      hkind]
  have howner : (d.standing ν parent owner).ownerUnder n .left = owner := by
    simp [Standing.ownerUnder, standing, hkind]
  rw [howner] at hleft
  rw [Standing.count_eq_labels p hn hkind rfl, Standing.own_of_isPart hispart,
    Declared.sum_append, hright, hleft]
  simp

omit hbelow in
/-- The key of a property in a pattern is read if it is computed, and otherwise says nothing. -/
theorem sum_patternKey (hkind : n.kind = some .property)
    (hkeys : ∀ key, n.child? .key = some key → key.isShaped = true) (parent : Node) :
    (if n.head.computed then d.later n .key else {}).sum p ν =
      (d.standing ν parent none).countUnder p n .key := by
  have hbelowKey (child : Node) : (d.standing ν parent none).below n .key child =
      .reading ν d.place n .key none := by
    simp [Standing.below, Standing.inner, Standing.opens?, Standing.useUnder, Standing.isPart,
      Standing.ownerUnder, Standing.isOutside, standing, Standing.reading, hkind]
  have hone : (n.items .key).length ≤ 1 :=
    Node.length_items_of_isShaped hn hkind rfl (by decide) (by decide)
  by_cases hcomputed : n.head.computed = true
  · rw [if_pos hcomputed, sum_later hone hbelowKey]
  · rw [if_neg hcomputed, Standing.countUnder_eq_child p hone]
    cases hchild : n.child? .key with
    | none => rfl
    | some key =>
      have hname : key.isNaming = true := by
        have hadmitted := Node.admits_of_isShaped hn (Node.mem_branches_of_child? hchild)
        simp only [Node.admits, hkind, hcomputed] at hadmitted
        cases hshorthand : n.head.shorthand <;> simp_all [Node.isNaming]
      rw [Option.elim_some, hbelowKey, Standing.count_of_isNaming p (hkeys key hchild) hname]
      · rfl
      · simp [Standing.reading, Task.isPropertyName, hkind, hcomputed]

theorem sum_patternProperty (hkind : n.kind = some .property)
    (hvalue : (n.child? .value).all (·.isPattern) = true)
    (hkeys : ∀ key, n.child? .key = some key → key.isShaped = true) (parent : Node) :
    ((if n.head.computed then d.later n .key else {}) ++
        d.part n (if n.head.shorthand then some n else none) .value).sum p ν =
      (d.standing ν parent none).count p n := by
  have hispart : Standing.isPart n .value = true := by simp [Standing.isPart, hkind]
  have hvaluePart := sum_part_of_below hbelow hispart
    (Node.length_items_of_isShaped hn hkind rfl (by decide) (by decide))
    (fun child hchild ↦ by simpa [hchild] using hvalue) parent none
  have howner : (d.standing ν parent none).ownerUnder n .value =
      if n.head.shorthand then some n else none := by
    simp [Standing.ownerUnder, hkind]
  rw [Declared.sum_append, sum_patternKey hn hkind hkeys parent,
    Standing.count_eq_labels p hn hkind rfl, Standing.own_of_isPart hispart, ← howner, hvaluePart]
  simp

end Below

/-- Patterns and properties of patterns hold each other, so both are treated at once. -/
theorem faithful (hshaped : ∀ m ∈ n.nodes, m.isShaped = true) : Faithful p ν d n := by
  induction n using Node.induction with
  | step n ih =>
    have hn := hshaped n n.mem_nodes_self
    have hbelow (field : Field) (child : Node) (hchild : (field, some child) ∈ n.branches) :=
      ih field child hchild fun m hm ↦ hshaped m (Node.mem_nodes_iff.mpr
        (.inr ⟨field, child, hchild, hm⟩))
    constructor
    · intro hpattern parent owner
      rw [pattern_eq, Declared.sum_append, Declared.sum_placed, Nat.zero_add]
      unfold Node.isPattern at hpattern
      split at hpattern
      case h_1 hkind =>
        simp only [hkind]
        exact sum_identifier hn (Node.isIdentifier_iff.mpr hkind) parent owner
      case h_2 hkind =>
        simp only [hkind]
        rw [count_standing_eq_reading hkind parent owner .left]
        exact Nat.zero_add _
      case h_3 hkind =>
        simp only [hkind]
        exact sum_objectPattern hn hbelow hkind parent owner
      case h_4 hkind =>
        simp only [hkind]
        exact sum_arrayPattern hn hbelow hkind parent owner
      case h_5 hkind =>
        simp only [hkind]
        exact sum_withDefault hn hbelow hkind parent owner
      case h_6 hkind =>
        simp only [hkind]
        exact sum_restElement hn hbelow hkind parent owner
      case h_7 => exact absurd hpattern (by simp)
    · intro hproperty parent
      unfold property
      rw [Declared.sum_append, Declared.sum_placed, Nat.zero_add]
      by_cases hrest : n.kind = some .restElement
      · rw [if_pos hrest]
        exact sum_restElement hn hbelow hrest parent none
      · obtain ⟨hkind, hvalue⟩ : n.kind = some .property ∧
            (n.child? .value).all (·.isPattern) = true := by
          simpa [Node.hasKind, hrest] using hproperty
        rw [if_neg hrest]
        exact sum_patternProperty hn hbelow hkind hvalue (fun key hkey ↦ hshaped key
          (Node.mem_nodes_of_mem_branches n.mem_nodes_self (Node.mem_branches_of_child? hkey)))
          parent

theorem sum_pattern (hshaped : ∀ m ∈ n.nodes, m.isShaped = true) (hn : n.isPattern = true)
    (parent : Node) (owner : Option Node) :
    (d.pattern parent owner n).sum p ν = (d.standing ν parent owner).count p n :=
  (faithful hshaped).pattern hn parent owner

end Declaring

end Count

end Relabel
