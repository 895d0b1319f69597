import Relabel.Proofs.Printing.Respelling

/-!
# Printed accesses

A name, what is read off it with points, and a call of that without arguments are printed as they
are spoken, in every place that does not bind tighter than a call. So is a choice whose test is a
conjunction of two such paths. These texts show how names are spelled, and nothing else about them.
-/

namespace Relabel

namespace Node

/-- A node of a kind, which holds lists just where the nodes of its kind do. -/
structure IsPlain (n : Node) (kind : Kind) : Prop where
  kind_eq : n.kind = some kind
  lists : n.head.lists = kind.listFields

/-- What is read off an object under a name, with a point. -/
structure Accesses (n object : Node) (property : String) : Prop where
  isPlain : n.IsPlain .memberExpression
  computed : n.head.computed = false
  isOptional : n.head.isOptional = false
  object : n.child? .object = some object
  property : (n.child? .property).any (·.isNamed property) = true

/-- A call without arguments. -/
structure Invokes (n callee : Node) : Prop where
  isPlain : n.IsPlain .callExpression
  isOptional : n.head.isOptional = false
  callee : n.child? .callee = some callee
  arguments : n.items .arguments = []

/-- A conjunction of two conditions. -/
structure Conjoins (n left right : Node) : Prop where
  isPlain : n.IsPlain .logicalExpression
  operator : n.head.operator = some "&&"
  left : n.child? .left = some left
  right : n.child? .right = some right

/-- A choice between two values. -/
structure Chooses (n test yes no : Node) : Prop where
  isPlain : n.IsPlain .conditionalExpression
  test : n.child? .test = some test
  consequent : n.child? .consequent = some yes
  alternate : n.child? .alternate = some no

/-- What is read off a name with points, and how that is written. -/
inductive Path (root : Node) : Node → String → Prop
  | name {word : String} (isNamed : root.isNamed word = true)
      (isWord : Text.isWord word.toList = true) : Path root root word
  | access {n object : Node} {text property : String} (path : Path root object text)
      (accesses : n.Accesses object property) (isWord : Text.isWord property.toList = true) :
      Path root n (text ++ "." ++ property)

theorem isNamed_iff {n : Node} {name : String} :
    n.isNamed name = true ↔ n.isIdentifier = true ∧ n.head.name = some name := by
  rw [isNamed, Bool.and_eq_true, beq_iff_eq]

theorem Path.isIdentifier {root n : Node} {text : String} (h : Path root n text) :
    root.isIdentifier = true := by
  induction h with
  | name hnamed _ => exact (isNamed_iff.mp hnamed).1
  | access _ _ _ ih => exact ih

/-- Where a path is more than a name, something is read off the name. -/
theorem Path.exists_access {root n : Node} {text : String} (h : Path root n text) :
    (n = root ∧ Text.isWord text.toList = true) ∨
      ∃ m ∈ n.nodes, m.kind = some .memberExpression ∧ m.child? .object = some root := by
  induction h with
  | name _ hword => exact .inl ⟨rfl, hword⟩
  | @access n object _ _ _ haccess _ ih =>
    rcases ih with ⟨rfl, -⟩ | ⟨m, hm, hkind, hobject⟩
    · exact .inr ⟨n, n.mem_nodes_self, haccess.isPlain.kind_eq, haccess.object⟩
    · have hbelow := mem_nodes_of_mem_branches n.mem_nodes_self
        (mem_branches_of_child? haccess.object)
      exact .inr ⟨m, mem_nodes_trans hbelow hm, hkind, hobject⟩

end Node

namespace Printing

/-- A node has a text wherever no tighter binding than a level is asked for, calls may stand without
parentheses, and nothing is an operand of `??`. -/
def Prints (level : Nat) (n : Node) (text : String) : Prop :=
  ∀ place : ExpressionPlace, place.level ≤ level → place.allowCall = true →
    place.inCoalesce = false → ∀ depth, (Node.fold rendering n).expression place depth = .ok text

theorem expression_fold (n : Node) (place : ExpressionPlace) :
    (Node.fold rendering n).expression place = expression (partsOf n) place := by
  rw [rendering_eq]

/-- A child under a label that is not for a list. -/
theorem child_partsOf {n child : Node} {kind : Kind} {field : Field} (hn : n.IsPlain kind)
    (hfield : field ∉ kind.listFields) (hchild : n.child? field = some child)
    (hkind : child.kind.isSome = true) (depth : Nat) :
    (partsOf n).child field depth = .ok (Node.fold rendering child) := by
  refine Parts.child_eq_ok (hn.lists ▸ hfield) ?_ (by rwa [node_fold]) depth
  rw [first?_partsOf, hchild, Option.map_some]

theorem child?_partsOf {n child : Node} {kind : Kind} {field : Field} (hn : n.IsPlain kind)
    (hfield : field ∉ kind.listFields) (hchild : n.child? field = some child)
    (hkind : child.kind.isSome = true) (depth : Nat) :
    (partsOf n).child? field depth = .ok (some (Node.fold rendering child)) := by
  obtain ⟨found, hfound, hsome⟩ :=
    bind_eq_ok_iff.mp (child_partsOf hn hfield hchild hkind depth)
  cases found with
  | none => injection hsome
  | some r =>
    obtain rfl : r = Node.fold rendering child := Except.ok.inj hsome
    exact hfound

/-- A list without items. -/
theorem list_partsOf {n : Node} {field : Field} (hlist : field ∈ n.head.lists)
    (hitems : n.items field = []) (depth : Nat) : (partsOf n).list field depth = .ok [] := by
  have hnone : (partsOf n).branches.filter (fun branch ↦ branch.1 = field) = [] := by
    rw [Node.items, List.filterMap_eq_nil_iff] at hitems
    simp only [partsOf, List.filter_eq_nil_iff, List.mem_map, forall_exists_index, and_imp]
    rintro _ branch hbranch rfl hfield
    exact absurd (hitems branch hbranch) (by simpa using hfield)
  refine bind_eq_ok_iff.mpr ⟨[], ?_, rfl⟩
  unfold Parts.items
  rw [if_pos (by simpa [partsOf] using hlist), hnone]
  rfl

theorem nameOf_fold {n : Node} {word : String} (hn : n.isNamed word = true)
    (hword : Text.isWord word.toList = true) (depth : Nat) :
    nameOf (Node.fold rendering n) depth = .ok word := by
  unfold nameOf name
  rw [node_fold, (Node.isNamed_iff.mp hn).2]
  simp only [hword, if_true]
  rfl

theorem isSome_kind {n : Node} {kind : Kind} (h : n.kind = some kind) : n.kind.isSome = true := by
  rw [h]
  rfl

theorem isSome_kind_of_isNamed {n : Node} {word : String} (h : n.isNamed word = true) :
    n.kind.isSome = true :=
  isSome_kind (Node.isIdentifier_iff.mp (Node.isNamed_iff.mp h).1)

theorem prints_access {n object : Node} {text property : String} (hn : n.Accesses object property)
    (hobject : Prints Level.call object text) (hkind : object.kind.isSome = true)
    (hliteral : object.hasKind .literal = false) (hword : Text.isWord property.toList = true) :
    Prints Level.call n (text ++ "." ++ property) := by
  intro place hlevel hcall _ depth
  obtain ⟨key, hkey, hnamed⟩ := (Option.any_eq_true _ _).mp hn.property
  have hmember : (Node.fold rendering n).expression place = member (partsOf n) place := by
    rw [expression_fold]
    unfold expression
    rw [show (partsOf n).node.kind = some .memberExpression from hn.isPlain.kind_eq]
  rw [hmember]
  refine bind_eq_ok_iff.mpr
    ⟨_, child_partsOf hn.isPlain (by decide) hn.object hkind depth, ?_⟩
  have hstart :=
    hobject { level := Level.call, allowCall := place.allowCall } le_rfl hcall rfl depth
  refine bind_eq_ok_iff.mpr ⟨text, hstart, ?_⟩
  refine bind_eq_ok_iff.mpr
    ⟨_, child_partsOf hn.isPlain (by decide) hkey (isSome_kind_of_isNamed hnamed) depth, ?_⟩
  have hhead : (partsOf n).node.head = n.head := rfl
  rw [hhead, hn.computed, hn.isOptional, node_fold, hliteral]
  refine bind_eq_ok_iff.mpr ⟨property, nameOf_fold hnamed hword depth, ?_⟩
  have htight : ¬ Level.member < place.level := by
    simp only [Level.member, Level.call] at hlevel ⊢
    omega
  unfold atLevel
  rw [if_neg htight]
  rfl

/-- A path is printed as it is spoken. -/
theorem prints_of_path {root n : Node} {text : String} (h : Node.Path root n text) :
    Prints Level.call n text ∧ n.kind.isSome = true ∧ n.hasKind .literal = false := by
  induction h with
  | name hnamed hword =>
    have hidentifier := (Node.isNamed_iff.mp hnamed).1
    refine ⟨fun place _ _ _ depth ↦ ?_, isSome_kind_of_isNamed hnamed, ?_⟩
    · rw [expression_of_isIdentifier hidentifier]
      unfold name
      rw [(Node.isNamed_iff.mp hnamed).2]
      simp only [hword, if_true]
      rfl
    · rw [Node.hasKind, Node.isIdentifier_iff.mp hidentifier]
      rfl
  | access _ haccess hword ih =>
    obtain ⟨hobject, hkind, hliteral⟩ := ih
    refine ⟨prints_access haccess hobject hkind hliteral hword,
      isSome_kind haccess.isPlain.kind_eq, ?_⟩
    rw [Node.hasKind, haccess.isPlain.kind_eq]
    rfl

theorem prints_invocation {n callee : Node} {text : String} (hn : n.Invokes callee)
    (hcallee : Prints Level.call callee text) (hkind : callee.kind.isSome = true) :
    Prints Level.call n (text ++ "()") := by
  intro place hlevel hcall _ depth
  have hexpression : (Node.fold rendering n).expression place = call (partsOf n) place := by
    rw [expression_fold]
    unfold expression
    rw [show (partsOf n).node.kind = some .callExpression from hn.isPlain.kind_eq]
  rw [hexpression]
  refine bind_eq_ok_iff.mpr
    ⟨_, child_partsOf hn.isPlain (by decide) hn.callee hkind depth, ?_⟩
  have hstart := hcallee { level := Level.call } le_rfl rfl rfl depth
  refine bind_eq_ok_iff.mpr ⟨text, hstart, ?_⟩
  have harguments : arguments (partsOf n) depth = .ok "()" := by
    have hlist := list_partsOf (hn.isPlain.lists ▸ List.mem_singleton_self _) hn.arguments depth
    exact bind_eq_ok_iff.mpr ⟨[], hlist, bind_eq_ok_iff.mpr ⟨[], rfl, rfl⟩⟩
  refine bind_eq_ok_iff.mpr ⟨"()", harguments, ?_⟩
  have hhead : (partsOf n).node.head = n.head := rfl
  rw [hhead, hn.isOptional, hcall]
  unfold atLevel
  rw [if_neg (Nat.not_lt.mpr hlevel)]
  simp
  rfl

theorem prints_conjunction {n left right : Node} {text text' : String} (hn : n.Conjoins left right)
    (hleft : Prints Level.call left text) (hright : Prints Level.call right text')
    (hkind : left.kind.isSome = true) (hkind' : right.kind.isSome = true) :
    Prints Level.coalesce n (join (join text "&&") text') := by
  intro place hlevel hcall hcoalesce depth
  have hbinary : (Node.fold rendering n).expression place = binary (partsOf n) place := by
    rw [expression_fold]
    unfold expression
    rw [show (partsOf n).node.kind = some .logicalExpression from hn.isPlain.kind_eq]
  have hsymbol : (partsOf n).operator = "&&" := by
    unfold Parts.operator
    rw [show (partsOf n).node.head.operator = some "&&" from hn.operator]
    rfl
  rw [hbinary]
  unfold binary
  rw [hsymbol, show Level.ofOperator? "&&" = some 5 by decide]
  simp only [show ("&&" == "**") = false by decide, show ("&&" == "??") = false by decide,
    show ("&&" == "in") = false by decide, Bool.or_false, Bool.false_and, Bool.false_eq_true,
    if_false, ExpressionPlace.inside, hcoalesce, Bool.and_false]
  have hoperand {operand : Node} {text : String} (hprints : Prints Level.call operand text)
      {level : Nat} (hlevel : level ≤ Level.call) :=
    hprints ⟨level, place.allowIn || decide (5 < place.level), place.allowCall, false⟩ hlevel hcall
      rfl depth
  refine bind_eq_ok_iff.mpr ⟨_, child_partsOf hn.isPlain (by decide) hn.left hkind depth, ?_⟩
  refine bind_eq_ok_iff.mpr ⟨text, hoperand hleft (by decide), ?_⟩
  refine bind_eq_ok_iff.mpr ⟨_, child_partsOf hn.isPlain (by decide) hn.right hkind' depth, ?_⟩
  refine bind_eq_ok_iff.mpr ⟨text', hoperand hright (by decide), ?_⟩
  have hloose : ¬ 5 < place.level := by
    simp only [Level.coalesce] at hlevel
    omega
  have hcomment : startsComment "&&" text' = false := by
    unfold startsComment
    rw [show ("&&" == "/") = false by decide, show "&&".endsWith "<" = false by decide +kernel]
    rfl
  unfold atLevel
  rw [hcomment, if_neg hloose]
  rfl

theorem prints_choice {n test yes no : Node} {text text' text'' : String}
    (hn : n.Chooses test yes no) (htest : Prints Level.coalesce test text)
    (hyes : Prints Level.call yes text') (hno : Prints Level.call no text'')
    (hkind : test.kind.isSome = true)
    (hkind' : yes.kind.isSome = true) (hkind'' : no.kind.isSome = true) :
    Prints Level.conditional n (text ++ " ? " ++ text' ++ " : " ++ text'') := by
  intro place hlevel hcall hcoalesce depth
  have hconditional : (Node.fold rendering n).expression place =
      conditional (partsOf n) place := by
    rw [expression_fold]
    unfold expression
    rw [show (partsOf n).node.kind = some .conditionalExpression from hn.isPlain.kind_eq]
  rw [hconditional]
  have hpart {part : Node} {text : String} {bound level : Nat} (hprints : Prints bound part text)
      (hlevel : level ≤ bound) :=
    hprints { place.inside Level.conditional with level := level } hlevel hcall hcoalesce depth
  refine bind_eq_ok_iff.mpr ⟨_, child_partsOf hn.isPlain (by decide) hn.test hkind depth, ?_⟩
  refine bind_eq_ok_iff.mpr ⟨text, hpart htest le_rfl, ?_⟩
  refine bind_eq_ok_iff.mpr
    ⟨_, child_partsOf hn.isPlain (by decide) hn.consequent hkind' depth, ?_⟩
  refine bind_eq_ok_iff.mpr ⟨text', hpart hyes (by decide), ?_⟩
  refine bind_eq_ok_iff.mpr
    ⟨_, child_partsOf hn.isPlain (by decide) hn.alternate hkind'' depth, ?_⟩
  refine bind_eq_ok_iff.mpr ⟨text'', hpart hno (by decide), ?_⟩
  unfold atLevel
  rw [if_neg (Nat.not_lt.mpr hlevel)]
  rfl

end Printing

end Relabel
