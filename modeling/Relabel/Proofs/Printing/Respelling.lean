import Relabel.Proofs.Printing.Statement
import Relabel.Proofs.Scope.Sharing
import Relabel.Source.Piece

/-!
# Respelling keeps programs printable

Edits respell identifiers and write out shorthand properties. As long as the new spellings are
words, every node of a program that can be printed can still be printed after the edits.
-/

namespace Relabel

/-- Every node of a tree has a printed form. -/
def Node.Printable (tree : Node) : Prop :=
  ∀ n ∈ tree.nodes, ∃ text, n.render = .ok text

/-- Every shorthand property of a tree can be written out. A key that is also the value, or the
target of the value, is a bare name. -/
def Node.PlainShorthands (tree : Node) : Prop :=
  ∀ p ∈ tree.nodes, p.kind = some .property → p.head.shorthand = true →
    ∃ key value, p.IsPair key value ∧
      (Edits.sharesKey p = true → p.head.computed = false ∧ key.branches = [])

namespace Node.IsPair

variable {n key value : Node}

theorem child?_key (h : n.IsPair key value) : n.child? .key = some key := by
  rcases n with ⟨head, branches⟩
  obtain rfl : branches = _ := h.branches
  rfl

theorem child?_value (h : n.IsPair key value) : n.child? .value = some value := by
  rcases n with ⟨head, branches⟩
  obtain rfl : branches = _ := h.branches
  rfl

theorem eq_key (h : n.IsPair key value) {child : Node}
    (hchild : (.key, some child) ∈ n.branches) : child = key := by
  rw [h.branches] at hchild
  simpa using hchild

end Node.IsPair

theorem Node.PlainShorthands.namesKeys {tree : Node} (h : tree.PlainShorthands) :
    tree.NamesKeys := by
  intro p hp hkind hshorthand hshares
  obtain ⟨_, _, -, hbare⟩ := h p hp hkind hshorthand
  exact (hbare hshares).1

/-- Edits that respell identifiers of a tree and put in keys for identifiers, always with words. -/
structure Edits.Wordy (e : Edits) (tree : Node) : Prop where
  spellings : ∀ x text, e.spellings.get? x = some text → Text.isWord text.toList = true
  keys : ∀ x text, e.writtenOut.get? x = some (some text) → Text.isWord text.toList = true
  identifiers : ∀ n ∈ tree.nodes, (e.spellings.get? n.id).isSome = true → n.isIdentifier = true
  respects : e.Respects (· ∈ tree.nodes)
  shared : ∀ n ∈ tree.nodes, ∀ text, e.writtenOut.get? n.id = some (some text) →
    n.head.shorthand = true ∧ Edits.sharesKey n = true

namespace Printing

/-- A node with the renderings of its children. -/
def partsOf (n : Node) : Parts :=
  ⟨n, n.branches.map fun b ↦ (b.1, b.2.map (Node.fold rendering))⟩

theorem rendering_eq (n : Node) : Node.fold rendering n =
    { node := n
      expression := expression (partsOf n)
      statement := statement (partsOf n)
      callable := callable (partsOf n)
      loopTarget := loopTarget (partsOf n) (expression (partsOf n) { level := Level.call })
      lead := lead (partsOf n) } :=
  Node.fold_eq rendering n

@[simp]
theorem node_fold (n : Node) : (Node.fold rendering n).node = n := by
  rw [rendering_eq]

theorem first?_partsOf (n : Node) (field : Field) :
    (partsOf n).first? field = (n.child? field).map (Node.fold rendering) := by
  rcases n with ⟨head, branches⟩
  unfold partsOf Parts.first?
  simp only [Node.branches]
  induction branches with
  | nil => rfl
  | cons branch rest ih =>
    rw [List.map_cons, List.find?_cons, Node.child?_cons]
    by_cases hfield : branch.1 = field
    · simp [hfield]
    · simpa [hfield] using ih

theorem Parts.child_eq_ok {p : Parts} {field : Field} {r : Rendering}
    (hlists : field ∉ p.node.head.lists) (hfirst : p.first? field = some r)
    (hkind : r.node.kind.isSome = true) (depth : Nat) : p.child field depth = .ok r := by
  refine bind_eq_ok_iff.mpr ⟨some r, ?_, rfl⟩
  unfold Parts.child?
  rw [if_neg (by simpa using hlists)]
  change (p.first? field).mapM (p.checked field) depth = _
  rw [hfirst]
  change (p.checked field r >>= fun r ↦ pure (some r)) depth = _
  refine bind_eq_ok_iff.mpr ⟨r, ?_, rfl⟩
  unfold Parts.checked
  rw [if_pos hkind]
  rfl

theorem expression_of_isIdentifier {n : Node} (hn : n.isIdentifier = true)
    (place : ExpressionPlace) :
    (Node.fold rendering n).expression place = (name n : Except PrintFault String) := by
  rw [rendering_eq]
  dsimp only
  unfold expression
  rw [show (partsOf n).node.kind = some .identifier from Node.isIdentifier_iff.mp hn]
  rfl

/-- A node without a body is no function. -/
theorem callable_ne_ok {n : Node} (h : n.child? .body = none) (depth : Nat) (text : String) :
    (Node.fold rendering n).callable depth ≠ .ok text := by
  rw [rendering_eq]
  intro hcallable
  obtain ⟨_, -, hcallable⟩ := bind_eq_ok_iff.mp hcallable
  obtain ⟨inner, hinner, -⟩ := bind_eq_ok_iff.mp hcallable
  have hfirst := Parts.find_of_child hinner
  rw [first?_partsOf, h] at hfirst
  exact absurd hfirst (by simp)

/-- All identifiers that are spelled as words and have nothing below them are printed alike. -/
theorem follows_of_isIdentifier {n n' : Node} (hn : n.isIdentifier = true)
    (hn' : n'.isIdentifier = true) (hword : IsWord n) (hword' : IsWord n')
    (hbody : n.child? .body = none) :
    (Node.fold rendering n).Follows (Node.fold rendering n') := by
  have hkind := Node.isIdentifier_iff.mp hn
  have hkind' := Node.isIdentifier_iff.mp hn'
  have hexpression (m : Print String) (place : ExpressionPlace) :
      Printing.Follows Given m ((Node.fold rendering n').expression place) := by
    rw [expression_of_isIdentifier hn']
    obtain ⟨text, htext⟩ := hword'.name_eq_ok
    exact .always fun _ ↦ ⟨text, htext⟩
  have hlead (m : Print String) : Printing.Follows Given m (Node.fold rendering n').lead := by
    refine .always fun depth ↦ ?_
    rw [rendering_eq]
    dsimp only
    unfold lead
    rw [show (partsOf n').node.kind = some .identifier from hkind']
    exact ⟨_, rfl⟩
  refine ⟨?_, ?_, ?_, ?_, ?_, ?_, ?_, ?_, ?_, ?_⟩
  · rw [node_fold, node_fold, hkind, hkind']
  · intro _
    rw [node_fold, node_fold]
    exact ⟨hword, hword'⟩
  · intro hother
    rw [node_fold] at hother
    exact absurd hkind hother
  · rw [node_fold, node_fold]
    exact .inr hkind
  · exact fun place place' ↦ hexpression _ place'
  · intro place place' depth text htext
    rw [rendering_eq] at htext
    dsimp only at htext
    unfold statement at htext
    rw [show (partsOf n).node.kind = some .identifier from hkind] at htext
    injection htext
  · exact fun depth text htext ↦ absurd htext (callable_ne_ok hbody depth text)
  · have htarget : (Node.fold rendering n').loopTarget =
        (Node.fold rendering n').expression { level := Level.call } := by
      rw [rendering_eq]
      dsimp only
      unfold loopTarget
      rw [show (partsOf n').node.hasKind .variableDeclaration = false by
        rw [Node.hasKind]
        change (n'.kind == some .variableDeclaration) = false
        rw [hkind']
        rfl]
      rfl
    rw [htarget]
    exact hexpression _ _
  · exact fun place ↦ hlead _
  · exact hlead _

theorem isWord_of_render {n : Node} (hn : n.isIdentifier = true) {text : String}
    (h : n.render = .ok text) : IsWord n := by
  have hkind := Node.isIdentifier_iff.mp hn
  have hname : name n = .ok text := by
    rw [← h, Node.render, hkind]
    exact congrFun (expression_of_isIdentifier hn {}).symm 0
  unfold name at hname
  cases hspelled : n.head.name with
  | none =>
    rw [hspelled] at hname
    injection hname
  | some spelled =>
    refine ⟨spelled, hspelled, ?_⟩
    by_contra hword
    rw [hspelled] at hname
    dsimp only at hname
    rw [if_neg hword] at hname
    injection hname

/-- Apart from statements, what has a printed form can be printed as an expression. -/
theorem expression_of_render {n : Node} {kind : Kind} (hn : n.kind = some kind)
    (hstatement : kind.isStatement = false) {text : String} (h : n.render = .ok text) :
    (Node.fold rendering n).expression {} 0 = .ok text := by
  unfold Node.render at h
  rw [hn] at h
  dsimp only at h
  rw [hstatement] at h
  by_cases hunsupported : isUnsupported kind = true
  · rw [if_pos hunsupported] at h
    injection h
  · rwa [if_neg hunsupported] at h

/-- What has a printed form carries a tag. -/
theorem isTyped_of_render {n : Node} {text : String} (h : n.render = .ok text) :
    n.isTyped = true := by
  by_contra huntyped
  have hkind : n.kind = none ∨ n.kind = some (.other "") := by
    by_contra hother
    push Not at hother
    exact huntyped (by simp [Node.isTyped, hother])
  unfold Node.render at h
  rcases hkind with hnone | hempty
  · rw [hnone] at h
    injection h
  · rw [hempty] at h
    injection h


/-! ## Edited programs -/

section Edited

variable {tree : Node} {e : Edits}

theorem isWord_apply (he : e.Wordy tree) {n : Node} (h : IsWord n) : IsWord (e.apply n) := by
  obtain ⟨text, htext, hword⟩ := h
  unfold IsWord
  rw [Edits.head_apply]
  change ∃ text, (e.spellings.get? n.head.id).or n.head.name = some text ∧ _
  cases hspelled : e.spellings.get? n.head.id with
  | none => exact ⟨text, by rw [htext]; rfl, hword⟩
  | some spelled => exact ⟨spelled, rfl, he.spellings _ _ hspelled⟩

theorem isWord_newKey (he : e.Wordy tree) {x : NodeId} {text : String}
    (h : e.writtenOut.get? x = some (some text)) : IsWord (e.newKey x text) := by
  unfold IsWord
  change ∃ text', (e.spellings.get? ⟨x.index, true⟩).or (some text) = some text' ∧ _
  cases hspelled : e.spellings.get? ⟨x.index, true⟩ with
  | none => exact ⟨text, rfl, he.keys _ _ h⟩
  | some spelled => exact ⟨spelled, rfl, he.spellings _ _ hspelled⟩

section Shaped

variable (hprintable : tree.Printable) (he : e.Wordy tree) (hplain : tree.PlainShorthands)

include hprintable he hplain

/-- The key that edits put in is printed like the one whose place it takes. -/
theorem follows_newKey {n key : Node} {text : String} (hn : n ∈ tree.nodes)
    (htext : e.writtenOut.get? n.id = some (some text)) (hkey : (.key, some key) ∈ n.branches) :
    (Node.fold rendering key).Follows (Node.fold rendering (e.newKey n.id text)) := by
  obtain ⟨hkind, -, hkeys⟩ := he.respects n hn text htext
  obtain ⟨hshorthand, hshares⟩ := he.shared n hn text htext
  obtain ⟨key, value, hpair, hbare⟩ := hplain n hn hkind hshorthand
  obtain rfl := hpair.eq_key hkey
  have hidentifier := hkeys key hpair.child?_key
  obtain ⟨printed, hprinted⟩ := hprintable key (Node.mem_nodes_of_mem_branches hn hkey)
  refine follows_of_isIdentifier hidentifier rfl (isWord_of_render hidentifier hprinted)
    (isWord_newKey he htext) ?_
  rcases key with ⟨head, branches⟩
  obtain rfl : branches = [] := (hbare hshares).2
  rfl

/-- The key of an edited property follows the key of the property. -/
theorem exists_key_follows {p key value : Node} (hp : p ∈ tree.nodes) (hpair : p.IsPair key value)
    (hkey : (Node.fold rendering key).Follows (Node.fold rendering (e.apply key))) :
    ∃ key', (e.apply p).child? .key = some key' ∧
      (Node.fold rendering key).Follows (Node.fold rendering key') := by
  by_cases hkept : e.KeepsKey p
  · refine ⟨e.apply key, ?_, hkey⟩
    rw [hkept.child?_apply, hpair.child?_key, Option.map_some]
  · unfold Edits.KeepsKey at hkept
    push Not at hkept
    obtain ⟨text, htext⟩ := hkept
    refine ⟨e.newKey p.id text, ?_, follows_newKey hprintable he hplain hp htext
      (Node.mem_branches_of_child? hpair.child?_key)⟩
    rw [Edits.child?_key_apply htext, hpair.child?_key, Option.map_some]

omit he hplain in
/-- A part of a shorthand property can be printed after the edits, if its printing follows. -/
theorem exists_expression_of_pair {p key value : Node} (hp : p ∈ tree.nodes)
    (hpair : p.IsPair key value) {field : Field} {child child' : Node}
    (hchild : (field, some child) ∈ p.branches) (hterm : child.isTerm = true)
    (hedited : (e.apply p).child? field = some child')
    (hfollows : (Node.fold rendering child).Follows (Node.fold rendering child'))
    (place : ExpressionPlace) (depth : Nat) :
    ∃ text, (partsOf (e.apply p)).child field depth = .ok (Node.fold rendering child') ∧
      (Node.fold rendering child').expression place depth = .ok text := by
  obtain ⟨printed, hprinted⟩ := hprintable child (Node.mem_nodes_of_mem_branches hp hchild)
  have htyped := isTyped_of_render hprinted
  rw [Node.isTyped, Bool.and_eq_true, bne_iff_ne] at htyped
  obtain ⟨kind, hkind⟩ := Option.ne_none_iff_exists'.mp htyped.1
  have hlists : field ∉ (partsOf (e.apply p)).node.head.lists := by
    change field ∉ (e.apply p).head.lists
    rw [Edits.head_apply]
    change field ∉ p.head.lists
    rw [hpair.lists]
    exact List.not_mem_nil
  obtain ⟨text, htext, -⟩ := hfollows.expression {} place 0 printed
    (expression_of_render hkind (by simpa [Node.isTerm, hkind] using hterm) hprinted) depth
  refine ⟨text, Parts.child_eq_ok hlists ?_ ?_ depth, htext⟩
  · rw [first?_partsOf, hedited, Option.map_some]
  · have hsame := hfollows.kind
    rw [node_fold, node_fold] at hsame
    rw [node_fold, hsame, hkind]
    rfl

/-- The children of an edited node follow the children of the node. -/
theorem branches_follow {n : Node} (hn : n ∈ tree.nodes)
    (hchild : ∀ field child, (field, some child) ∈ n.branches →
      (Node.fold rendering child).Follows (Node.fold rendering (e.apply child))) :
    List.Forall₂ (fun b b' ↦ b'.1 = b.1 ∧ Option.Rel Rendering.Follows b.2 b'.2)
      (partsOf n).branches (partsOf (e.apply n)).branches := by
  change List.Forall₂ _ (n.branches.map _) ((e.apply n).branches.map _)
  rw [Edits.branches_apply_eq_map, List.map_map, List.forall₂_map_left_iff,
    List.forall₂_map_right_iff, List.forall₂_same]
  rintro ⟨field, child⟩ hbranch
  have hkept : Option.Rel Rendering.Follows (child.map (Node.fold rendering))
      ((child.map e.apply).map (Node.fold rendering)) := by
    cases child with
    | none => exact .none
    | some child => exact .some (hchild field child hbranch)
  dsimp only [Function.comp, Edits.editedBranch]
  split
  · rename_i text htext
    split
    · rename_i hkey
      obtain ⟨rfl, hsome⟩ := hkey
      obtain ⟨key, rfl⟩ := Option.isSome_iff_exists.mp hsome
      exact ⟨rfl, .some (follows_newKey hprintable he hplain hn htext hbranch)⟩
    · exact ⟨rfl, hkept⟩
  · exact ⟨rfl, hkept⟩

/-- The printing of an edited node follows the printing of the node. -/
theorem follows_apply {n : Node} (hn : n ∈ tree.nodes) :
    (Node.fold rendering n).Follows (Node.fold rendering (e.apply n)) := by
  induction n using Node.induction with
  | step n ih =>
    have hchild (field : Field) (child : Node) (hbranch : (field, some child) ∈ n.branches) :=
      ih field child hbranch (Node.mem_nodes_of_mem_branches hn hbranch)
    have hparts : (partsOf n).Follows (partsOf (e.apply n)) := by
      refine ⟨?_, branches_follow hprintable he hplain hn hchild, ?_, ?_, ?_⟩
      · change (e.apply n).head = { n.head with
          name := (e.apply n).head.name, shorthand := (e.apply n).head.shorthand }
        rw [Edits.head_apply]
        rfl
      · intro hidentifier
        obtain ⟨text, htext⟩ := hprintable n hn
        have hword := isWord_of_render (Node.isIdentifier_iff.mpr hidentifier) htext
        exact ⟨hword, isWord_apply he hword⟩
      · intro hother
        change (e.apply n).head.name = n.head.name
        rw [Edits.head_apply]
        change (e.spellings.get? n.id).or n.head.name = n.head.name
        cases hspelled : e.spellings.get? n.id with
        | none => rfl
        | some text =>
          have hidentifier := he.identifiers n hn (by rw [hspelled]; rfl)
          exact absurd (Node.isIdentifier_iff.mp hidentifier) hother
      · intro hkind
        have hwritten : (e.apply n).head.shorthand =
            (n.head.shorthand && !e.writtenOut.contains n.id) := by
          rw [Edits.head_apply]
          rfl
        change (e.apply n).head.shorthand = n.head.shorthand ∨ _
        rw [hwritten]
        cases hshorthand : n.head.shorthand with
        | false => exact .inl rfl
        | true =>
          cases hout : e.writtenOut.contains n.id with
          | false => exact .inl rfl
          | true =>
            obtain ⟨key, value, hpair, -⟩ := hplain n hn hkind hshorthand
            refine .inr ⟨hshorthand, ?_, hpair.isMethod, fun depth ↦ ?_, fun place depth ↦ ?_⟩
            · change (e.apply n).head.shorthand = false
              rw [hwritten, hshorthand, hout]
              rfl
            · have hkey := Node.mem_branches_of_child? hpair.child?_key
              obtain ⟨key', hedited, hfollows⟩ :=
                exists_key_follows hprintable he hplain hn hpair (hchild _ key hkey)
              obtain ⟨text, hread, htext⟩ := exists_expression_of_pair hprintable hn hpair hkey
                hpair.key hedited hfollows { level := Level.assignment } depth
              exact ⟨_, bind_eq_ok_iff.mpr ⟨_, hread, bind_eq_ok_iff.mpr ⟨text, htext, rfl⟩⟩⟩
            · have hvalue := Node.mem_branches_of_child? hpair.child?_value
              have hedited : (e.apply n).child? .value = some (e.apply value) := by
                rw [Edits.child?_apply _ _ (by decide), hpair.child?_value, Option.map_some]
              obtain ⟨text, hread, htext⟩ := exists_expression_of_pair hprintable hn hpair hvalue
                hpair.value hedited (hchild _ value hvalue) place depth
              exact ⟨text, bind_eq_ok_iff.mpr ⟨_, hread, htext⟩⟩
    have hfollows := hparts.rendering
    rw [rendering_eq, rendering_eq]
    exact hfollows

/-- Every node of a program that can be printed can be printed after the edits. -/
theorem render_apply {n : Node} (hn : n ∈ tree.nodes) :
    ∃ text, (e.apply n).render = .ok text := by
  have hfollows := follows_apply hprintable he hplain hn
  obtain ⟨text, htext⟩ := hprintable n hn
  unfold Node.render at htext ⊢
  rw [Edits.kind_apply]
  cases hkind : n.kind with
  | none =>
    rw [hkind] at htext
    injection htext
  | some kind =>
    rw [hkind] at htext
    dsimp only at htext ⊢
    split_ifs at htext ⊢ with hstatement
    · obtain ⟨text', htext', -⟩ := hfollows.statement {} {} 0 text htext 0
      exact ⟨text', htext'⟩
    · obtain ⟨text', htext', -⟩ := hfollows.expression {} {} 0 text htext 0
      exact ⟨text', htext'⟩

end Shaped

end Edited

end Printing

end Relabel
