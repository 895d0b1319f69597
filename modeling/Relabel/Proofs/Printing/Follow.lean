import Mathlib.Data.List.Forall2
import Mathlib.Data.Option.Defs
import Relabel.Printing.Render

/-!
# Printing that follows printing

Whether a node can be printed depends on the shape of what is below it, but neither on the depth of
indentation nor on the place where it stands, and not on how its identifiers are spelled, as long as
they are spelled as words. To say this of the whole printer, two computations are compared: one
follows another if it succeeds, at every depth, whenever the other one does at some depth. Each
printing function has one lemma, which follows its steps.
-/

namespace Relabel.Printing

variable {α β γ δ : Type} {R : α → β → Prop} {S : γ → δ → Prop}

/-- A computation that succeeds at every depth if another one does at some depth, with a result that
is related to the other's. -/
def Follows (R : α → β → Prop) (m : Print α) (m' : Print β) : Prop :=
  ∀ depth a, m depth = .ok a → ∀ depth', ∃ b, m' depth' = .ok b ∧ R a b

/-- The relation between results of which only the existence counts. -/
def Given (_ : α) (_ : β) : Prop := True

theorem run_bind (m : Print α) (f : α → Print β) (depth : Nat) :
    (m >>= f) depth = m depth >>= fun a ↦ f a depth := rfl

theorem bind_eq_ok_iff {m : Print α} {f : α → Print β} {depth : Nat} {b : β} :
    (m >>= f) depth = .ok b ↔ ∃ a, m depth = .ok a ∧ f a depth = .ok b := by
  rw [run_bind]
  cases m depth <;> simp [bind, Except.bind]

theorem exists_mapM_iff {f : α → Print β} {as : List α} {depth : Nat} :
    (∃ bs, as.mapM f depth = .ok bs) ↔ ∀ a ∈ as, ∃ b, f a depth = .ok b := by
  induction as with
  | nil => exact iff_of_true ⟨[], rfl⟩ (by simp)
  | cons a rest ih =>
    rw [List.mapM_cons, List.forall_mem_cons, ← ih]
    constructor
    · rintro ⟨_, hall⟩
      obtain ⟨b, hb, hall⟩ := bind_eq_ok_iff.mp hall
      obtain ⟨bs, hbs, -⟩ := bind_eq_ok_iff.mp hall
      exact ⟨⟨b, hb⟩, bs, hbs⟩
    · rintro ⟨⟨b, hb⟩, bs, hbs⟩
      exact ⟨b :: bs, bind_eq_ok_iff.mpr ⟨b, hb, bind_eq_ok_iff.mpr ⟨bs, hbs, rfl⟩⟩⟩

namespace Follows

theorem pure {a : α} {b : β} (h : R a b) : Follows R (Pure.pure a) (Pure.pure b) := by
  intro depth a' ha depth'
  obtain rfl : a = a' := Except.ok.inj ha
  exact ⟨b, rfl, h⟩

theorem given (a : α) (b : β) : Follows Given (Pure.pure a) (Pure.pure b) :=
  pure trivial

theorem throw {fault : PrintFault} {m' : Print β} :
    Follows R (MonadExcept.throw fault : Print α) m' := by
  intro depth a ha
  injection ha

theorem bind {m : Print α} {m' : Print β} {f : α → Print γ} {f' : β → Print δ} (hm : Follows R m m')
    (hf : ∀ a b, R a b → Follows S (f a) (f' b)) : Follows S (m >>= f) (m' >>= f') := by
  intro depth c hc depth'
  obtain ⟨a, ha, hc⟩ := bind_eq_ok_iff.mp hc
  obtain ⟨b, hb, hab⟩ := hm depth a ha depth'
  obtain ⟨d, hd, hcd⟩ := hf a b hab depth c hc depth'
  exact ⟨d, bind_eq_ok_iff.mpr ⟨b, hb, hd⟩, hcd⟩

theorem weaken {m : Print α} {m' : Print β} {R' : α → β → Prop} (hm : Follows R m m')
    (h : ∀ a b, R a b → R' a b) : Follows R' m m' := by
  intro depth a ha depth'
  obtain ⟨b, hb, hab⟩ := hm depth a ha depth'
  exact ⟨b, hb, h a b hab⟩

theorem ite {c : Prop} [Decidable c] {m k : Print α} {m' k' : Print β} (hm : Follows R m m')
    (hk : Follows R k k') : Follows R (if c then m else k) (if c then m' else k') := by
  split
  · exact hm
  · exact hk

/-- What always succeeds follows anything. -/
theorem always {m : Print α} {m' : Print β} (h : ∀ depth, ∃ b, m' depth = .ok b) :
    Follows Given m m' := by
  intro _ _ _ depth'
  obtain ⟨b, hb⟩ := h depth'
  exact ⟨b, hb, trivial⟩

/-- What always succeeds can come after what follows. -/
theorem andThen {m : Print α} {m' : Print β} (hm : Follows Given m m') {f : β → Print γ}
    (hf : ∀ b depth, ∃ c, f b depth = .ok c) : Follows Given m (m' >>= f) := by
  intro depth a ha depth'
  obtain ⟨b, hb, -⟩ := hm depth a ha depth'
  obtain ⟨c, hc⟩ := hf b depth'
  exact ⟨c, bind_eq_ok_iff.mpr ⟨b, hb, hc⟩, trivial⟩

/-- What follows a part of a computation follows the whole. -/
theorem ofFirst {m : Print α} {m' : Print β} (hm : Follows Given m m') {f : α → Print γ} :
    Follows Given (m >>= f) m' := by
  intro depth c hc depth'
  obtain ⟨a, ha, -⟩ := bind_eq_ok_iff.mp hc
  obtain ⟨b, hb, -⟩ := hm depth a ha depth'
  exact ⟨b, hb, trivial⟩

theorem ofLast {k : Print γ} {f : γ → Print α} {m' : Print β} (hf : ∀ c, Follows R (f c) m') :
    Follows R (k >>= f) m' := by
  intro depth a ha depth'
  obtain ⟨c, -, ha⟩ := bind_eq_ok_iff.mp ha
  exact hf c depth a ha depth'

theorem afterLine {m : Print α} {f : String → Print β} (hf : ∀ start, Follows R m (f start)) :
    Follows R m (newLine >>= f) :=
  fun depth a ha depth' ↦ hf _ depth a ha depth'

theorem shallow {m : Print α} {m' : Print β} (hm : Follows R m m') :
    Follows R (Printing.indented m) m' :=
  fun depth a ha depth' ↦ hm (depth + 1) a ha depth'

theorem deep {m : Print α} {m' : Print β} (hm : Follows R m m') :
    Follows R m (Printing.indented m') :=
  fun depth a ha depth' ↦ hm depth a ha (depth' + 1)

/-- What does not depend on the depth follows itself. -/
theorem same (result : Except PrintFault α) : Follows Eq (result : Print α) (result : Print α) :=
  fun _ a ha _ ↦ ⟨a, ha, rfl⟩

theorem indented {m : Print α} {m' : Print β} (hm : Follows R m m') :
    Follows R (indented m) (indented m') :=
  fun depth a ha depth' ↦ hm (depth + 1) a ha (depth' + 1)

theorem newLine : Follows Given newLine newLine :=
  fun _ _ _ _ ↦ ⟨_, rfl, trivial⟩

theorem base : Follows Given base base :=
  fun _ _ _ _ ↦ ⟨_, rfl, trivial⟩

theorem mapM {f : α → Print γ} {f' : β → Print δ} (hf : ∀ a b, R a b → Follows S (f a) (f' b))
    {as : List α} {bs : List β} (h : List.Forall₂ R as bs) :
    Follows (List.Forall₂ S) (as.mapM f) (bs.mapM f') := by
  induction h with
  | nil => exact pure .nil
  | cons hab _ ih =>
    rw [List.mapM_cons, List.mapM_cons]
    exact (hf _ _ hab).bind fun _ _ hfirst ↦ ih.bind fun _ _ hrest ↦ pure (.cons hfirst hrest)

end Follows

/-! ## Renderings -/

/-- An identifier that is spelled as a word. -/
def IsWord (n : Node) : Prop :=
  ∃ text, n.head.name = some text ∧ Text.isWord text.toList = true

/-- A rendering that follows another one in every position. What an expression starts with is looked
at only after the expression was printed. -/
structure Rendering.Follows (r r' : Rendering) : Prop where
  kind : r'.node.kind = r.node.kind
  word : r.node.kind = some .identifier → IsWord r.node ∧ IsWord r'.node
  spelled : r.node.kind ≠ some .identifier → r'.node.head.name = r.node.head.name
  value : r'.node.head.value = r.node.head.value ∨ r.node.kind = some .identifier
  expression : ∀ place place', Printing.Follows Given (r.expression place) (r'.expression place')
  statement : ∀ place place', Printing.Follows Given (r.statement place) (r'.statement place')
  callable : Printing.Follows Given r.callable r'.callable
  loopTarget : Printing.Follows Given r.loopTarget r'.loopTarget
  lead : ∀ place, Printing.Follows Given (r.expression place) r'.lead
  loopLead : Printing.Follows Given r.loopTarget r'.lead

/-- A node to be printed whose printing is to follow that of another one: the two differ at most in
spelling, and in that a shorthand property may be written out. -/
structure Parts.Follows (p p' : Parts) : Prop where
  head : p'.node.head =
    { p.node.head with name := p'.node.head.name, shorthand := p'.node.head.shorthand }
  branches : List.Forall₂ (fun b b' ↦ b'.1 = b.1 ∧ Option.Rel Rendering.Follows b.2 b'.2)
    p.branches p'.branches
  word : p.node.kind = some .identifier → IsWord p.node ∧ IsWord p'.node
  spelled : p.node.kind ≠ some .identifier → p'.node.head.name = p.node.head.name
  /-- A property that is written out has a key and a value that can be printed. -/
  shorthand : p.node.kind = some .property → p'.node.head.shorthand = p.node.head.shorthand ∨
    p.node.head.shorthand = true ∧ p'.node.head.shorthand = false ∧ p.node.head.isMethod = false ∧
      (∀ depth, ∃ text, propertyKey p' depth = .ok text) ∧
      ∀ place depth, ∃ text, (p'.child .value >>= (·.expression place)) depth = .ok text

/-- The first child under a label. -/
def Parts.first? (p : Parts) (field : Field) : Option Rendering :=
  (p.branches.find? fun branch ↦ branch.1 = field).bind (·.2)

theorem IsWord.name_eq_ok {n : Node} (h : IsWord n) : ∃ text, name n = .ok text := by
  obtain ⟨text, hname, hword⟩ := h
  exact ⟨text, by simp [name, hname, hword]⟩

theorem follows_name {n n' : Node} (hword : n.kind = some .identifier → IsWord n ∧ IsWord n')
    (hspelled : n.kind ≠ some .identifier → n'.head.name = n.head.name) :
    Follows Given (name n : Except PrintFault String) (name n' : Except PrintFault String) := by
  intro depth text htext depth'
  by_cases hkind : n.kind = some .identifier
  · obtain ⟨text', htext'⟩ := (hword hkind).2.name_eq_ok
    exact ⟨text', htext', trivial⟩
  · refine ⟨text, ?_, trivial⟩
    have hname : name n' = name n := by rw [name, name, hspelled hkind]
    rw [hname]
    exact htext

theorem Rendering.Follows.hasKind {r r' : Rendering} (h : r.Follows r') (kind : Kind) :
    r'.node.hasKind kind = r.node.hasKind kind := by
  rw [Node.hasKind, Node.hasKind, h.kind]

theorem Rendering.Follows.nameOf {r r' : Rendering} (h : r.Follows r') :
    Printing.Follows Given (nameOf r) (nameOf r') :=
  follows_name h.word h.spelled

theorem Follows.expression {m m' : Print Rendering} (hm : Follows Rendering.Follows m m')
    {place place' : ExpressionPlace} {f : String → Print γ} {f' : String → Print δ}
    (hf : ∀ a b, Follows S (f a) (f' b)) :
    Follows S (m >>= fun r ↦ r.expression place >>= f)
      (m' >>= fun r ↦ r.expression place' >>= f') :=
  hm.bind fun _ _ h ↦ (h.expression _ _).bind fun a b _ ↦ hf a b

theorem Follows.statement {m m' : Print Rendering} (hm : Follows Rendering.Follows m m')
    {place place' : StatementPlace} {f : String → Print γ} {f' : String → Print δ}
    (hf : ∀ a b, Follows S (f a) (f' b)) :
    Follows S (m >>= fun r ↦ r.statement place >>= f)
      (m' >>= fun r ↦ r.statement place' >>= f') :=
  hm.bind fun _ _ h ↦ (h.statement _ _).bind fun a b _ ↦ hf a b

namespace Parts.Follows

variable {p p' : Parts}

theorem kind (h : p.Follows p') : p'.node.kind = p.node.kind := by
  rw [Node.kind, h.head]
  rfl

theorem lists (h : p.Follows p') : p'.node.head.lists = p.node.head.lists := by
  rw [h.head]

theorem computed (h : p.Follows p') : p'.node.head.computed = p.node.head.computed := by
  rw [h.head]

theorem operator (h : p.Follows p') : p'.operator = p.operator := by
  rw [Parts.operator, h.head]
  rfl

theorem accessorWord? (h : p.Follows p') : accessorWord? p'.node = accessorWord? p.node := by
  rw [Printing.accessorWord?, h.head]
  rfl

theorem hasKind (h : p.Follows p') (kind : Kind) : p'.node.hasKind kind = p.node.hasKind kind := by
  rw [Node.hasKind, Node.hasKind, h.kind]

theorem checked (p p' : Parts) (field : Field) {r r' : Rendering} (h : r.Follows r') :
    Printing.Follows Rendering.Follows (p.checked field r) (p'.checked field r') := by
  unfold Parts.checked
  rw [h.kind]
  exact .ite (.pure h) .throw

theorem checkedItem (p p' : Parts) (field : Field) {r r' : Option Rendering}
    (h : Option.Rel Rendering.Follows r r') :
    Printing.Follows (Option.Rel Rendering.Follows) (r.mapM (p.checked field))
      (r'.mapM (p'.checked field)) := by
  cases h with
  | none => exact .pure .none
  | some h => exact (checked p p' field h).bind fun _ _ h ↦ .pure (.some h)

theorem first? (h : p.Follows p') (field : Field) :
    Option.Rel Rendering.Follows (p.first? field) (p'.first? field) := by
  have hbranches := h.branches
  unfold Parts.first?
  generalize p.branches = branches, p'.branches = branches' at hbranches ⊢
  induction hbranches with
  | nil => exact .none
  | cons hfirst _ ih =>
    rw [List.find?_cons, List.find?_cons, hfirst.1]
    split
    · exact hfirst.2
    · exact ih

theorem child? (h : p.Follows p') (field : Field) :
    Printing.Follows (Option.Rel Rendering.Follows) (p.child? field) (p'.child? field) := by
  unfold Parts.child?
  rw [h.lists]
  exact .ite (.pure .none) (checkedItem p p' field (h.first? field))

theorem child (h : p.Follows p') (field : Field) :
    Printing.Follows Rendering.Follows (p.child field) (p'.child field) := by
  refine (h.child? field).bind fun _ _ hchild ↦ ?_
  cases hchild with
  | none => exact .throw
  | some hchild => exact .pure hchild

theorem items (h : p.Follows p') (field : Field) :
    Printing.Follows (List.Forall₂ (Option.Rel Rendering.Follows)) (p.items field)
      (p'.items field) := by
  unfold Parts.items
  rw [h.lists]
  refine .ite ?_ .throw
  have hfiltered : List.Forall₂ (fun b b' ↦ b'.1 = b.1 ∧ Option.Rel Rendering.Follows b.2 b'.2)
      (p.branches.filter fun branch ↦ branch.1 = field)
      (p'.branches.filter fun branch ↦ branch.1 = field) := by
    have hbranches := h.branches
    generalize p.branches = branches, p'.branches = branches' at hbranches ⊢
    induction hbranches with
    | nil => exact .nil
    | cons hfirst _ ih =>
      rw [List.filter_cons, List.filter_cons, hfirst.1]
      split
      · exact .cons hfirst ih
      · exact ih
  exact .mapM (fun _ _ hbranch ↦ checkedItem p p' field hbranch.2) hfiltered

theorem list (h : p.Follows p') (field : Field) :
    Printing.Follows (List.Forall₂ Rendering.Follows) (p.list field) (p'.list field) := by
  refine (h.items field).bind fun _ _ hitems ↦ .mapM (fun _ _ hitem ↦ ?_) hitems
  cases hitem with
  | none => exact .throw
  | some hitem => exact .pure hitem

end Parts.Follows

end Relabel.Printing
