import Mathlib.Data.List.Forall2
import Relabel.Proofs.Scope.Ownership
import Relabel.Proofs.Syntax.Edited

/-!
# Surveys of edited programs

The survey of an edited program states the same facts as the survey of the program, apart from the
spellings and from where nodes sit: the scopes are opened by the same nodes, and the same
identifiers are declared and referred to in the same order. Sketches keep of a fact what is the
same. The new key of a written-out property is the name of a property like the old one, so neither
of them is a site.
-/

namespace Relabel

/-- What a fact says up to edits. -/
inductive Sketch where
  | opened (type : ScopeType) (node : NodeId) (parent : Option ScopeId)
  | declared (target : ScopeId) (kind : BindingKind) (identifier : NodeId) (name : String)
      (scope : ScopeId) (parent : Node)
  | referred (identifier : NodeId) (name : String) (scope : ScopeId)

namespace Fact

/-- The sketch of a fact, with what edits make of a node; where a node sits is left out. -/
def sketch? (e : Edits) : Fact → Option Sketch
  | opened type node parent => some (.opened type node.id parent)
  | placed .. => none
  | declared target kind site =>
    some (.declared target kind site.id (site.spelling e) site.scope (e.apply site.parent))
  | referred site => some (.referred site.id (site.spelling e) site.scope)

def sketches (e : Edits) (facts : List Fact) : List Sketch :=
  facts.filterMap (sketch? e)

@[simp]
theorem sketches_append (e : Edits) (a b : List Fact) :
    sketches e (a ++ b) = sketches e a ++ sketches e b := by
  simp [sketches]

@[simp]
theorem sketches_nil (e : Edits) : sketches e [] = [] := rfl

@[simp]
theorem sketches_placed (e : Edits) (n : NodeId) (scope : ScopeId) (facts : List Fact) :
    sketches e (.placed n scope :: facts) = sketches e facts := rfl

/-- The number of opened scopes can be read off the sketches. -/
theorem opens_eq (e : Edits) (facts : List Fact) :
    opens facts = (sketches e facts).countP fun sketch ↦ match sketch with
      | .opened .. => true
      | _ => false := by
  induction facts with
  | nil => rfl
  | cons fact rest ih =>
    cases fact <;> simp_all [opens, sketches, sketch?, List.filterMap_cons]

end Fact

/-- Only the keys of properties that are named by identifiers were replaced, and none that is
computed. -/
def Edits.Respects (e : Edits) (R : Node → Prop) : Prop :=
  ∀ n, R n → ∀ name, e.writtenOut.get? n.id = some (some name) →
    n.kind = some .property ∧ n.head.computed = false ∧
      ∀ key, n.child? .key = some key → key.isIdentifier = true

/-- An identifier that names a property or a label. -/
def Task.IsName (t : Task) : Prop :=
  t.node.isIdentifier = true ∧ isPropertyName t.parent t.field = true

/-- A task on the edited program that corresponds to a task on the program. -/
inductive Task.Alike (e : Edits) (t t' : Task) : Prop
  | edited (node : t'.node = e.apply t.node) (parent : t'.parent = e.apply t.parent)
      (field : t'.field = t.field) (place : t'.place = t.place)
  | name (before : t.IsName) (after : t'.IsName)

structure Declared.Alike (e : Edits) (d d' : Declared) : Prop where
  facts : Fact.sketches {} d'.facts = Fact.sketches e d.facts
  deferred : List.Forall₂ (Task.Alike e) d.deferred d'.deferred

structure Task.Outcome.Alike (e : Edits) (outcome outcome' : Task.Outcome) : Prop where
  facts : Fact.sketches {} outcome'.facts = Fact.sketches e outcome.facts
  tasks : List.Forall₂ (Task.Alike e) outcome.tasks outcome'.tasks

section

variable {e : Edits} {R : Node → Prop}

theorem Edits.Respects.keepsKey (he : e.Respects R) {n : Node} (hn : R n)
    (hkept : n.kind ≠ some .property ∨ n.head.computed = true) : e.KeepsKey n := by
  intro name hname
  obtain ⟨hkind, hcomputed, -⟩ := he n hn name hname
  rcases hkept with hkept | hkept
  · exact hkept hkind
  · rw [hcomputed] at hkept
    exact absurd hkept (by simp)

theorem Task.isPropertyName_apply (e : Edits) (parent : Node) (field : Field) :
    isPropertyName (e.apply parent) field = isPropertyName parent field := by
  unfold isPropertyName
  rw [Edits.kind_apply, Edits.head_apply]
  rfl

theorem Site.spelling_apply (e : Edits) (n parent parent' : Node) (scope : ScopeId)
    (owner owner' : Option Node) :
    (Site.mk (e.apply n) parent' scope owner').spelling {} =
      (Site.mk n parent scope owner).spelling e := by
  unfold Site.spelling
  rw [Edits.head_apply]
  rfl

namespace Declared

theorem alike_empty : ({} : Declared).Alike e {} :=
  ⟨rfl, .nil⟩

theorem Alike.append {a a' b b' : Declared} (ha : a.Alike e a') (hb : b.Alike e b') :
    (a ++ b).Alike e (a' ++ b') := by
  constructor
  · simp only [facts_append, Fact.sketches_append, ha.facts, hb.facts]
  · exact List.rel_append ha.deferred hb.deferred

theorem alike_placed (n n' : NodeId) (scope scope' : ScopeId) :
    (⟨[.placed n scope], []⟩ : Declared).Alike e ⟨[.placed n' scope'], []⟩ :=
  ⟨rfl, .nil⟩

end Declared

namespace Declaring

variable (d : Declaring)

theorem alike_identifier (n parent : Node) (owner owner' : Option Node) :
    (d.identifier n parent owner).Alike e (d.identifier (e.apply n) (e.apply parent) owner') := by
  refine ⟨?_, .nil⟩
  have hspelling := Site.spelling_apply e n parent (e.apply parent) d.place.scope owner owner'
  have hid : (Site.mk (e.apply n) (e.apply parent) d.place.scope owner').id = n.id := e.id_apply n
  simp only [identifier, Fact.sketches, List.filterMap_cons, Fact.sketch?, hspelling, hid,
    Edits.apply_empty]
  rfl

theorem alike_defer (n parent : Node) (field : Field) :
    (d.defer n parent field).Alike e (d.defer (e.apply n) (e.apply parent) field) :=
  ⟨rfl, .cons (.edited rfl rfl rfl rfl) .nil⟩

theorem alike_later {parent : Node} {field : Field}
    (hchild : (e.apply parent).child? field = (parent.child? field).map e.apply) :
    (d.later parent field).Alike e (d.later (e.apply parent) field) := by
  unfold later
  rw [hchild]
  cases parent.child? field with
  | none => exact Declared.alike_empty
  | some child => exact d.alike_defer child parent field

theorem alike_patterns {parent : Node} {items : List (Option Node)}
    (h : ∀ n, some n ∈ items →
      (d.pattern parent none n).Alike e (d.pattern (e.apply parent) none (e.apply n))) :
    (d.patterns parent items).Alike e
      (d.patterns (e.apply parent) (items.map (Option.map e.apply))) := by
  induction items with
  | nil => exact Declared.alike_empty
  | cons item rest ih =>
    have hrest := ih fun n hn ↦ h n (List.mem_cons_of_mem item hn)
    cases item with
    | none => exact hrest
    | some n => exact (h n List.mem_cons_self).append hrest

theorem alike_propertyList {items : List (Option Node)}
    (h : ∀ n, some n ∈ items → (d.property n).Alike e (d.property (e.apply n))) :
    (d.propertyList items).Alike e (d.propertyList (items.map (Option.map e.apply))) := by
  induction items with
  | nil => exact Declared.alike_empty
  | cons item rest ih =>
    have hrest := ih fun n hn ↦ h n (List.mem_cons_of_mem item hn)
    cases item with
    | none => exact hrest
    | some n => exact (h n List.mem_cons_self).append hrest

theorem alike_part {parent : Node} {field : Field} (hfield : field ≠ .key)
    {owner owner' : Option Node}
    (h : ∀ n, (field, some n) ∈ parent.branches →
      (d.pattern parent owner n).Alike e (d.pattern (e.apply parent) owner' (e.apply n))) :
    (d.part parent owner field).Alike e (d.part (e.apply parent) owner' field) := by
  unfold part
  rw [Edits.child?_apply e parent hfield]
  cases hchild : parent.child? field with
  | none => exact Declared.alike_empty
  | some n => exact h n (Node.mem_branches_of_child? hchild)

/-- Patterns and properties of patterns hold each other, so both are treated at once. -/
theorem alike_pattern_and_property (hR : Node.Hereditary R) (he : e.Respects R) {n : Node}
    (hn : R n) :
    (∀ parent owner owner', (d.pattern parent owner n).Alike e
        (d.pattern (e.apply parent) owner' (e.apply n))) ∧
      (d.property n).Alike e (d.property (e.apply n)) := by
  induction n using Node.induction with
  | step n ih =>
    have hchild {field : Field} {child : Node} (hmem : (field, some child) ∈ n.branches) :=
      ih field child hmem (hR n field child hn hmem)
    have hpart {field : Field} (hfield : field ≠ .key) (owner owner' : Option Node) :
        (d.part n owner field).Alike e (d.part (e.apply n) owner' field) :=
      d.alike_part hfield fun child hmem ↦ (hchild hmem).1 n owner owner'
    constructor
    · intro parent owner owner'
      rw [pattern_eq, pattern_eq, Edits.kind_apply]
      apply (Declared.alike_placed _ _ _ _).append
      split
      · exact d.alike_identifier n parent owner owner'
      · rw [Edits.items_apply e n (by decide)]
        exact d.alike_propertyList fun prop hprop ↦ (hchild (Node.mem_items_iff.mp hprop)).2
      · rw [Edits.items_apply e n (by decide)]
        exact d.alike_patterns fun element helement ↦
          (hchild (Node.mem_items_iff.mp helement)).1 n none none
      · exact (hpart (by decide) owner owner').append
          (d.alike_later (Edits.child?_apply e n (by decide)))
      · exact hpart (by decide) none none
      · exact d.alike_defer n parent .left
    · unfold property
      apply (Declared.alike_placed _ _ _ _).append
      rw [Edits.kind_apply]
      split
      · exact hpart (by decide) none none
      · have hcomputed : (e.apply n).head.computed = n.head.computed := by
          rw [Edits.head_apply]
          rfl
        rw [hcomputed]
        apply Declared.Alike.append
        · split
          · rename_i hkept
            exact d.alike_later ((he.keepsKey hn (.inr hkept)).child?_apply .key)
          · exact Declared.alike_empty
        · exact hpart (by decide) _ _

theorem alike_pattern (hR : Node.Hereditary R) (he : e.Respects R) (parent : Node) {n : Node}
    (hn : R n) : (d.pattern parent none n).Alike e (d.pattern (e.apply parent) none (e.apply n)) :=
  (d.alike_pattern_and_property hR he hn).1 parent none none

end Declaring

/-! ## Tasks -/

namespace Task

variable {fresh : ScopeId} {t t' : Task}

theorem alike_ofItems (e : Edits) (n : Node) {field : Field} (hfield : field ≠ .key)
    (place : Place) :
    List.Forall₂ (Alike e) (ofItems n field place (n.items field))
      (ofItems (e.apply n) field place ((e.apply n).items field)) := by
  rw [Edits.items_apply e n hfield]
  unfold ofItems
  induction n.items field with
  | nil => exact .nil
  | cons item rest ih =>
    cases item with
    | none => exact ih
    | some child => exact .cons (.edited rfl rfl rfl rfl) ih

theorem alike_ofChild {n : Node} {field : Field}
    (hchild : (e.apply n).child? field = (n.child? field).map e.apply) (place : Place)
    (owner owner' : Option Node) :
    List.Forall₂ (Alike e) (ofChild n field place owner)
      (ofChild (e.apply n) field place owner') := by
  unfold ofChild
  rw [hchild]
  cases n.child? field with
  | none => exact .nil
  | some child => exact .cons (.edited rfl rfl rfl rfl) .nil

theorem alike_ofChildren {n : Node} (h : e.KeepsKey n) (place : Place) :
    List.Forall₂ (Alike e) (ofChildren n place) (ofChildren (e.apply n) place) := by
  unfold ofChildren
  rw [h.children_apply]
  induction n.children with
  | nil => exact .nil
  | cons c rest ih => exact .cons (.edited rfl rfl rfl rfl) ih

theorem ownName?_apply (e : Edits) (n : Node) :
    ownName? (e.apply n) = (ownName? n).map e.apply := by
  unfold ownName?
  rw [Edits.child?_apply e n (by decide)]
  cases n.child? .id with
  | none => rfl
  | some name => by_cases hname : name.isIdentifier = true <;> simp [Option.filter, hname]

theorem ownBlock?_apply (e : Edits) (n : Node) :
    ownBlock? (e.apply n) = (ownBlock? n).map e.apply := by
  unfold ownBlock?
  rw [Edits.child?_apply e n (by decide)]
  cases n.child? .body with
  | none => rfl
  | some body =>
    by_cases hbody : body.hasKind .blockStatement = true <;> simp [Option.filter, hbody]

theorem alike_blockBody (e : Edits) (place : Place) (body : Node) :
    (blockBody place body).Alike e (blockBody place (e.apply body)) :=
  ⟨rfl, alike_ofItems e body (by decide) place⟩

theorem sketches_declareName (e : Edits) (d : Declaring) (n : Node) :
    Fact.sketches {} (declareName d (e.apply n)) = Fact.sketches e (declareName d n) := by
  unfold declareName
  rw [ownName?_apply]
  cases ownName? n with
  | none => rfl
  | some name => exact (d.alike_identifier name n none none).facts

theorem sketches_nameOf (e : Edits) (kind : Kind) (d : Declaring) (n : Node) :
    Fact.sketches {} (nameOf kind d (e.apply n)) = Fact.sketches e (nameOf kind d n) := by
  unfold nameOf
  rw [Edits.hasKind_apply]
  split
  · exact sketches_declareName e d n
  · rfl

theorem sketches_opened (e : Edits) (type : ScopeType) (n : Node) (parent : Option ScopeId)
    (facts : List Fact) :
    Fact.sketches e (.opened type n parent :: facts) =
      .opened type n.id parent :: Fact.sketches e facts := rfl

theorem alike_functionBody (e : Edits) (place : Place) (n : Node) :
    (functionBody place n).Alike e (functionBody place (e.apply n)) := by
  unfold functionBody
  rw [ownBlock?_apply]
  cases ownBlock? n with
  | some body => exact alike_blockBody e place body
  | none => exact ⟨rfl, alike_ofChild (Edits.child?_apply e n (by decide)) place none none⟩

theorem alike_catchBody (e : Edits) (place : Place) (n : Node) :
    (catchBody place n).Alike e (catchBody place (e.apply n)) := by
  unfold catchBody
  rw [ownBlock?_apply]
  cases ownBlock? n with
  | some body => exact alike_blockBody e place body
  | none => exact ⟨rfl, .nil⟩

theorem alike_function (hR : Node.Hereditary R) (he : e.Respects R) (hn : R t.node)
    (hnode : t'.node = e.apply t.node) (hplace : t'.place = t.place) :
    (t.function fresh).Alike e (t'.function fresh) := by
  have hparams : (functionParams fresh t.node).Alike e (functionParams fresh t'.node) := by
    unfold functionParams
    rw [hnode, Edits.items_apply e t.node (by decide)]
    exact Declaring.alike_patterns _ fun param hparam ↦ Declaring.alike_pattern _ hR he t.node
      (hR t.node .params param hn (Node.mem_items_iff.mp hparam))
  have hbody := alike_functionBody e ⟨fresh, fresh⟩ t.node
  rw [← hnode] at hbody
  rw [function_eq, function_eq]
  constructor
  · simp only [Fact.sketches_append, sketches_opened, hparams.facts, hbody.facts]
    rw [hnode, hplace, sketches_nameOf, sketches_nameOf, Edits.id_apply]
  · exact List.rel_append hbody.tasks (List.rel_reverse hparams.deferred)

theorem alike_catchClause (hR : Node.Hereditary R) (he : e.Respects R) (hn : R t.node)
    (hnode : t'.node = e.apply t.node) (hplace : t'.place = t.place) :
    (t.catchClause fresh).Alike e (t'.catchClause fresh) := by
  have hparam : (catchParam ⟨fresh, t.place.hoist⟩ t.node).Alike e
      (catchParam ⟨fresh, t'.place.hoist⟩ t'.node) := by
    rw [hnode, hplace]
    exact Declaring.alike_part _ (by decide) fun param hparam ↦
      Declaring.alike_pattern _ hR he t.node (hR t.node .param param hn hparam)
  have hbody : (catchBody ⟨fresh, t.place.hoist⟩ t.node).Alike e
      (catchBody ⟨fresh, t'.place.hoist⟩ t'.node) := by
    rw [hnode, hplace]
    exact alike_catchBody e ⟨fresh, t.place.hoist⟩ t.node
  rw [catchClause_eq, catchClause_eq]
  constructor
  · simp only [Fact.sketches_append, sketches_opened, hparam.facts, hbody.facts]
    rw [hnode, hplace, Edits.id_apply]
  · exact List.rel_append hbody.tasks (List.rel_reverse hparam.deferred)

theorem alike_declarators (hR : Node.Hereditary R) (he : e.Respects R)
    (hplace : t'.place = t.place) (hvariety : t'.node.head.variety = t.node.head.variety)
    (target : ScopeId) {items : List (Option Node)} (hitems : ∀ n, some n ∈ items → R n) :
    (declarators t target items).Alike e
      (declarators t' target (items.map (Option.map e.apply))) := by
  induction items with
  | nil => exact ⟨rfl, .nil⟩
  | cons item rest ih =>
    have hrest := ih fun n hn ↦ hitems n (List.mem_cons_of_mem item hn)
    cases item with
    | none => exact hrest
    | some declarator =>
      have hdeclarator := hitems declarator List.mem_cons_self
      have hbound : (Declaring.part ⟨target, .declaration t.node.head.variety, t.place⟩ declarator
          none .id).Alike e (Declaring.part ⟨target, .declaration t.node.head.variety, t.place⟩
            (e.apply declarator) none .id) :=
        Declaring.alike_part _ (by decide) fun n hn ↦
          Declaring.alike_pattern _ hR he declarator (hR declarator .id n hdeclarator hn)
      have hinit := alike_ofChild (Edits.child?_apply e declarator (by decide : Field.init ≠ .key))
        t.place none none
      simp only [List.map_cons, Option.map_some, declarators, Declaring.under_eq_part, hplace,
        hvariety]
      constructor
      · simp only [Fact.sketches_append, Fact.sketches_placed, hrest.facts, hbound.facts]
      · exact List.rel_append (List.rel_append hinit (List.rel_reverse hbound.deferred))
          hrest.tasks

theorem alike_classLike (e : Edits) (hnode : t'.node = e.apply t.node)
    (hplace : t'.place = t.place) : (t.classLike fresh).Alike e (t'.classLike fresh) := by
  have hparts (place : Place) : List.Forall₂ (Alike e)
      (ofChild t.node .superClass place none ++ ofChild t.node .body place none)
      (ofChild (e.apply t.node) .superClass place none ++
        ofChild (e.apply t.node) .body place none) :=
    List.rel_append (alike_ofChild (Edits.child?_apply e t.node (by decide)) place none none)
      (alike_ofChild (Edits.child?_apply e t.node (by decide)) place none none)
  unfold classLike
  rw [hnode, hplace, Edits.hasKind_apply, ownName?_apply, Option.isSome_map]
  split
  · exact ⟨sketches_declareName e _ t.node, hparts _⟩
  · split
    · refine ⟨?_, hparts _⟩
      simp only [List.singleton_append, sketches_opened, sketches_declareName, Edits.id_apply]
    · exact ⟨rfl, hparts _⟩

theorem sketches_specifierName (e : Edits) (place : Place) (specifier : Node) :
    Fact.sketches {} (specifierName place (e.apply specifier)) =
      Fact.sketches e (specifierName place specifier) := by
  unfold specifierName
  rw [Edits.child?_apply e specifier (by decide)]
  cases specifier.child? .localName with
  | none => rfl
  | some name =>
    by_cases hname : name.isIdentifier = true
    · simp only [Option.map_some, Option.filter, Edits.isIdentifier_apply, hname, if_true]
      exact (Declaring.alike_identifier _ name specifier none none).facts
    · simp only [Option.map_some, Option.filter, Edits.isIdentifier_apply, hname]
      rfl

theorem alike_importDeclaration (e : Edits) (hnode : t'.node = e.apply t.node)
    (hplace : t'.place = t.place) : t.importDeclaration.Alike e t'.importDeclaration := by
  have hsource (e' : Edits) (n : Node) : Fact.sketches e' (importSource t.place n) = [] := by
    unfold importSource
    cases n.child? .source <;> rfl
  rw [importDeclaration_eq, importDeclaration_eq, hnode, hplace, Edits.items_apply e _ (by decide)]
  refine ⟨?_, .nil⟩
  simp only [Fact.sketches_append, hsource, List.append_nil]
  induction t.node.items .specifiers with
  | nil => rfl
  | cons item rest ih =>
    cases item with
    | none => exact ih
    | some specifier =>
      simp only [List.map_cons, Option.map_some, List.filterMap_cons, id_eq, List.flatMap_cons,
        Fact.sketches_append, Fact.sketches_placed, sketches_specifierName]
      exact congrArg _ ih

/-- A key that was replaced named a property, and the new one does too. -/
theorem alike_key (he : e.Respects R) {n : Node} (hn : R n) (place : Place) :
    List.Forall₂ (Alike e) (ofChild n .key place none) (ofChild (e.apply n) .key place none) := by
  by_cases hkept : e.KeepsKey n
  · exact alike_ofChild (hkept.child?_apply .key) place none none
  · obtain ⟨name, hname⟩ : ∃ name, e.writtenOut.get? n.id = some (some name) := by
      simpa [Edits.KeepsKey] using hkept
    obtain ⟨hkind, hcomputed, hidentifier⟩ := he n hn name hname
    have hpropertyName : isPropertyName n .key = true := by
      simp [isPropertyName, hkind, hcomputed]
    unfold ofChild
    rw [Edits.child?_key_apply hname]
    cases hkey : n.child? .key with
    | none => exact .nil
    | some key =>
      refine .cons (.name ⟨hidentifier key hkey, hpropertyName⟩ ⟨rfl, ?_⟩) .nil
      rw [isPropertyName_apply]
      exact hpropertyName

theorem IsName.expand_eq (h : t.IsName) :
    t.expand fresh = ⟨[.placed t.node.id t.place.scope], []⟩ := by
  unfold expand
  simp only [Node.isIdentifier_iff.mp h.1, identifier, h.2, if_true]

theorem alike_identifier (hnode : t'.node = e.apply t.node) (hparent : t'.parent = e.apply t.parent)
    (hfield : t'.field = t.field) (hplace : t'.place = t.place) :
    t.identifier.Alike e t'.identifier := by
  unfold identifier
  rw [hnode, hparent, hfield, hplace, isPropertyName_apply]
  refine ⟨?_, .nil⟩
  split
  · rfl
  · have hspelling := Site.spelling_apply e t.node t.parent (e.apply t.parent) t.place.scope
      t.owner t'.owner
    have hid : (Site.mk (e.apply t.node) (e.apply t.parent) t.place.scope t'.owner).id =
        t.node.id := e.id_apply t.node
    simp only [Fact.sketches, List.filterMap_cons, Fact.sketch?, hspelling, hid]
    rfl

theorem alike_variableDeclaration (hR : Node.Hereditary R) (he : e.Respects R) (hn : R t.node)
    (hnode : t'.node = e.apply t.node) (hplace : t'.place = t.place) :
    t.variableDeclaration.Alike e t'.variableDeclaration := by
  have hvariety : t'.node.head.variety = t.node.head.variety := by
    rw [hnode, Edits.head_apply]
    rfl
  unfold variableDeclaration
  rw [hvariety, hplace, hnode, Edits.items_apply e t.node (by decide)]
  apply alike_declarators hR he hplace hvariety
  intro declarator hmem
  exact hR t.node .declarations declarator hn (Node.mem_items_iff.mp hmem)

/-- A scope is opened by the same node, whatever is done inside it. -/
theorem alike_opened (e : Edits) (type : ScopeType) (n : Node) (parent : Option ScopeId)
    {tasks tasks' : List Task} (h : List.Forall₂ (Alike e) tasks tasks') :
    Outcome.Alike e ⟨[.opened type n parent], tasks⟩
      ⟨[.opened type (e.apply n) parent], tasks'⟩ := by
  refine ⟨?_, h⟩
  rw [sketches_opened, sketches_opened, Edits.id_apply]
  rfl

/-- Working off tasks that are alike gives outcomes that are alike. -/
theorem alike_expand (hR : Node.Hereditary R) (he : e.Respects R) (hn : R t.node)
    (h : t.Alike e t') : (t.expand fresh).Alike e (t'.expand fresh) := by
  cases h with
  | name before after =>
    -- The nodes have nothing to do with each other, but neither of them says anything.
    rw [before.expand_eq, after.expand_eq]
    exact ⟨rfl, .nil⟩
  | edited hnode hparent hfield hplace =>
    have hplaced {outcome outcome' : Outcome} (h : outcome.Alike e outcome') (x x' : NodeId)
        (scope scope' : ScopeId) :
        Outcome.Alike e { outcome with facts := .placed x scope :: outcome.facts }
          { outcome' with facts := .placed x' scope' :: outcome'.facts } :=
      ⟨h.facts, h.tasks⟩
    have hchildren (hkind : t.node.kind ≠ some .property) (place : Place) :=
      alike_ofChildren (he.keepsKey hn (.inl hkind)) place
    have hloop (hkind : t.node.kind ≠ some .property) : (t.loop fresh).Alike e (t'.loop fresh) := by
      unfold loop
      rw [hnode, hplace]
      exact alike_opened e .loop t.node _ (hchildren hkind _)
    have hchild {field : Field} (hfield : field ≠ .key) (place : Place)
        (owner owner' : Option Node) :=
      alike_ofChild (Edits.child?_apply e t.node hfield) place owner owner'
    unfold expand
    apply hplaced
    rw [show t'.node.kind = t.node.kind by rw [hnode, Edits.kind_apply]]
    split
    · exact alike_identifier hnode hparent hfield hplace
    · exact alike_function hR he hn hnode hplace
    · exact alike_function hR he hn hnode hplace
    · exact alike_function hR he hn hnode hplace
    · exact alike_variableDeclaration hR he hn hnode hplace
    · exact alike_catchClause hR he hn hnode hplace
    · unfold block
      rw [hnode, hplace]
      exact alike_opened e .block t.node _ (alike_ofItems e t.node (by decide) _)
    · rename_i hkind
      exact hloop (by simp [hkind])
    · rename_i hkind
      exact hloop (by simp [hkind])
    · rename_i hkind
      exact hloop (by simp [hkind])
    · unfold switch
      rw [hnode, hplace]
      exact alike_opened e .switch t.node _ (List.rel_append (hchild (by decide) _ _ _)
        (alike_ofItems e t.node (by decide) _))
    · exact alike_classLike e hnode hplace
    · exact alike_classLike e hnode hplace
    · exact alike_importDeclaration e hnode hplace
    · unfold property
      rw [hnode, hplace]
      exact ⟨rfl, List.rel_append (alike_key he hn _) (hchild (by decide) _ _ _)⟩
    · unfold assignmentPattern
      rw [hnode, hplace]
      exact ⟨rfl, List.rel_append (hchild (by decide) _ _ _) (hchild (by decide) _ _ _)⟩
    · rename_i hkind _
      rw [hnode, hplace]
      exact ⟨rfl, hchildren hkind _⟩

end Task

/-! ## Surveys -/

theorem Task.Alike.isTyped_eq {t t' : Task} (h : t.Alike e t') :
    t'.node.isTyped = t.node.isTyped := by
  cases h with
  | edited node => rw [node, Edits.isTyped_apply]
  | name before after =>
    have htyped {n : Node} (hn : n.isIdentifier = true) : n.isTyped = true := by
      simp [Node.isTyped, Node.isIdentifier_iff.mp hn]
    rw [htyped before.1, htyped after.1]

/-- The survey of an edited program succeeds if that of the program does, with the same sketches. -/
theorem sketches_survey (hR : Node.Hereditary R) (he : e.Respects R) {fresh : ScopeId}
    {tasks tasks' : List Task}
    (htasks : ∀ t ∈ tasks, R t.node ∧ Node.Owned R t.owner t.node)
    (halike : List.Forall₂ (Task.Alike e) tasks tasks') {facts : List Fact}
    (hfacts : survey fresh tasks = .ok facts) :
    ∃ facts', survey fresh tasks' = .ok facts' ∧
      Fact.sketches {} facts' = Fact.sketches e facts := by
  induction hfacts using survey_ok_induction generalizing tasks' with
  | nil fresh =>
    cases halike
    exact ⟨[], by rw [survey], rfl⟩
  | step fresh t rest later _ htyped hlater ih =>
    cases halike with
    | cons hhere hrest =>
      rename_i t' rest'
      obtain ⟨hmem, howned⟩ := htasks t List.mem_cons_self
      have hexpand : (t.expand fresh).Alike e (t'.expand fresh) :=
        Task.alike_expand hR he hmem hhere
      obtain ⟨later', hlater', hsketches⟩ := ih (Task.owned_tasks hR htasks fresh)
        (List.rel_append hexpand.tasks hrest)
      have hopens : Fact.opens (t'.expand fresh).facts = Fact.opens (t.expand fresh).facts := by
        rw [Fact.opens_eq {}, hexpand.facts, ← Fact.opens_eq e]
      rw [← hopens] at hlater'
      refine ⟨(t'.expand fresh).facts ++ later', ?_, ?_⟩
      · rw [survey, if_pos (hhere.isTyped_eq.trans htyped)]
        exact map_eq_ok_iff.mpr ⟨later', hlater', rfl⟩
      · rw [Fact.sketches_append, Fact.sketches_append, hexpand.facts, hsketches]

theorem Program.sketches_facts {tree : Node} (he : e.Respects (· ∈ tree.nodes))
    {facts : List Fact} (h : Program.facts tree = .ok facts) :
    ∃ facts', Program.facts (e.apply tree) = .ok facts' ∧
      Fact.sketches {} facts' = Fact.sketches e facts := by
  obtain ⟨later, hlater, rfl⟩ := map_eq_ok_iff.mp h
  have hR := Node.hereditary_mem_nodes tree
  have htasks : ∀ t ∈ Task.ofItems tree .body ⟨0, 0⟩ (tree.items .body),
      t.node ∈ tree.nodes ∧ Node.Owned (· ∈ tree.nodes) t.owner t.node := by
    intro t ht
    have hstands := Task.standsAt_ofItems hR tree.mem_nodes_self .body t ht
    exact ⟨hstands.mem, hstands.owned⟩
  obtain ⟨later', hlater', hsketches⟩ := sketches_survey hR he htasks
    (Task.alike_ofItems e tree (by decide) ⟨0, 0⟩) hlater
  refine ⟨_, map_eq_ok_iff.mpr ⟨later', hlater', rfl⟩, ?_⟩
  simp only [Fact.sketches_append, hsketches, Task.sketches_opened, Fact.sketches_placed,
    Fact.sketches_nil, Edits.id_apply]

end

end Relabel
