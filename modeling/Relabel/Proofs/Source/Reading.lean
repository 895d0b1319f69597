import Relabel.Proofs.Idiom.Answer
import Relabel.Proofs.Source.Numbering
import Relabel.Source.Program

/-!
# What is read can be labelled

A text is read as a program without shared nodes whose shorthand properties can be written out,
whatever stands where their keys are. So only its printing decides whether it can be labelled.
-/

namespace Relabel

namespace Node

theorem Whole.of_mem_nodes {n m : Node} (h : n.Whole) (hm : m ∈ n.nodes) : m.Whole := by
  induction n using Node.induction with
  | step n ih =>
    rcases mem_nodes_iff.mp hm with rfl | ⟨field, child, hchild, hmem⟩
    · exact h
    · exact ih field child hchild (h.part hchild) hmem

theorem isTerm_number (next : Nat) (n : Node) : (Source.number next n).isTerm = n.isTerm := by
  rw [isTerm, isTerm, Source.kind_number]

theorem IsPair.number {n key value : Node} (h : n.IsPair key value) (next : Nat) :
    (Source.number next n).IsPair (Source.number (next + 1) key)
      (Source.number (next + 1 + key.size) value) := by
  rcases n with ⟨head, branches⟩
  obtain rfl : branches = _ := h.branches
  have htwofold : Source.isTwofold (.mk head [(.key, some key), (.value, some value)]) = false := by
    unfold Source.isTwofold
    rw [h.kind]
  refine ⟨h.kind, h.isMethod, h.lists, ?_, ?_, ?_⟩
  · change Source.numberBranches (Source.isTwofold _) _ _ = _
    rw [htwofold]
    rfl
  · rw [isTerm_number]
    exact h.key
  · rw [isTerm_number]
    exact h.value

theorem Whole.plainShorthands_number {n : Node} (h : n.Whole) (next : Nat) :
    (Source.number next n).PlainShorthands := by
  intro p hp hkind hshorthand
  obtain ⟨part, hpart, k, rfl, -⟩ := Source.exists_of_mem_nodes_number hp
  rw [Source.kind_number] at hkind
  have hsame : (Source.number k part).head.shorthand = part.head.shorthand := by
    rcases part with ⟨head, branches⟩
    rfl
  obtain ⟨key, value, hpair⟩ := (h.of_mem_nodes hpart).pair (hsame ▸ hshorthand)
  refine ⟨_, _, hpair.number k, fun hshares ↦ ?_⟩
  rw [Source.sharesKey_number hkind k] at hshares
  exact absurd hshares (by simp)

end Node

namespace Source

theorem exists_of_bind_eq_ok {α β : Type} {m : Parsing α} {f : α → Parsing β} {c : Cursor}
    {result : β × Cursor} (h : (m >>= f) c = .ok result) :
    ∃ a c', m c = .ok (a, c') ∧ f a c' = .ok result := by
  change (m c >>= fun next ↦ f next.1 next.2) = .ok result at h
  cases hm : m c with
  | error fault =>
    rw [hm] at h
    injection h
  | ok next =>
    rw [hm] at h
    exact ⟨next.1, next.2, rfl, h⟩

theorem kind_program {g : Grammar} {c c' : Cursor} {p : Piece} (h : program g c = .ok (p, c')) :
    p.node.kind = some .program := by
  unfold program at h
  obtain ⟨start, c₁, -, h⟩ := exists_of_bind_eq_ok h
  obtain ⟨first, c₂, -, h⟩ := exists_of_bind_eq_ok h
  obtain ⟨rest, c₃, -, h⟩ := exists_of_bind_eq_ok h
  obtain rfl := (Prod.mk.inj (Except.ok.inj h)).1
  rfl

/-- What is read is a program that was put together from pieces and numbered. -/
theorem exists_piece_of_parseAs {context : Context} {text : String} {tree : Node}
    (h : parseAs context text = .ok tree) :
    ∃ p : Piece, tree = number 0 p.node ∧ p.node.kind = some .program := by
  unfold parseAs at h
  cases hstart : Cursor.start text context with
  | error fault =>
    rw [hstart] at h
    injection h
  | ok c =>
    rw [hstart] at h
    change ((program (Grammar.forText text)).run c >>= fun next ↦ .ok (number 0 next.1.node)) =
      .ok tree at h
    cases hread : (program (Grammar.forText text)).run c with
    | error fault =>
      rw [hread] at h
      injection h
    | ok next =>
      rw [hread] at h
      obtain ⟨p, c'⟩ := next
      exact ⟨p, (Except.ok.inj h).symm, kind_program hread⟩

theorem exists_context_of_parse {text : String} {source : Source}
    (h : Source.parse text = .ok source) : ∃ context, parseAs context text = .ok source.tree := by
  unfold Source.parse at h
  split at h
  · rename_i tree hscript
    obtain rfl := Except.ok.inj h
    exact ⟨_, hscript⟩
  · injection h
  · split at h
    · cases hmodule : parseModule text with
      | error fault =>
        rw [hmodule] at h
        injection h
      | ok tree =>
        rw [hmodule] at h
        obtain rfl := Except.ok.inj h
        exact ⟨_, hmodule⟩
    · injection h

/-- A program that was read from a text can be labelled, if all its parts can be printed. -/
theorem labelable_of_parse {text : String} {source : Source}
    (h : Source.parse text = .ok source) (hprintable : source.tree.Printable) :
    source.tree.Labelable := by
  obtain ⟨context, hread⟩ := exists_context_of_parse h
  obtain ⟨p, htree, hkind⟩ := exists_piece_of_parseAs hread
  refine ⟨?_, ?_, hprintable, ?_⟩
  · rw [htree, kind_number, hkind]
  · rw [htree]
    exact unshared_number 0 p.node
  · rw [htree]
    exact p.whole.plainShorthands_number 0

end Source

end Relabel
