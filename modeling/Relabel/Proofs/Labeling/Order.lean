import Relabel.Proofs.Labeling.Structure
import Relabel.Proofs.Labeling.Visit

/-!
# The order of a walk

A pass asks its idioms about the nodes of a program in reading order and about each of them once.
It does not matter that the walk looks at the children of a node as the edits leave them, since
edits replace nothing but keys, about which no idiom is asked. A node comes before all nodes that
stand below it.
-/

namespace Relabel

namespace Node

/-- The nodes of a tree that idioms may be asked about: those that are no names. -/
def asked (n : Node) : List Node :=
  n.nodes.filter fun m ↦ !m.isNaming

theorem mem_asked_iff {n m : Node} : m ∈ n.asked ↔ m ∈ n.nodes ∧ m.isNaming = false := by
  simp [asked]

theorem asked_eq (n : Node) :
    n.asked = (if n.isNaming then [] else [n]) ++ n.children.flatMap (·.2.asked) := by
  unfold asked
  rw [nodes_eq, List.filter_cons, List.filter_flatMap]
  cases n.isNaming <;> simp

theorem WellFormed.asked_of_isNaming {tree n : Node} (h : tree.WellFormed) (hn : n ∈ tree.nodes)
    (hnaming : n.isNaming = true) : n.asked = [] := by
  refine List.filter_eq_nil_iff.mpr fun m hm ↦ ?_
  simp [h.eq_of_mem_nodes hn hnaming hm, hnaming]

/-- In a list without repetitions no node comes after a node below it. -/
theorem pairwise_asked_of_nodup {n : Node} (h : n.asked.Nodup) :
    n.asked.Pairwise fun earlier later ↦ earlier ∉ later.nodes := by
  induction n using Node.induction with
  | step n ih =>
    rw [asked_eq] at h ⊢
    obtain ⟨-, hbelow, -⟩ := List.nodup_append.mp h
    obtain ⟨hchildren, hapart⟩ := List.nodup_flatMap.mp hbelow
    refine List.pairwise_append.mpr ⟨by split <;> simp, List.pairwise_flatMap.mpr ⟨?_, ?_⟩, ?_⟩
    · rintro ⟨field, child⟩ hchild
      exact ih field child (mem_children_iff.mp hchild) (hchildren _ hchild)
    · refine hapart.imp fun hdisjoint earlier hearlier later hlater hmem ↦ ?_
      have hboth := mem_nodes_trans (mem_asked_iff.mp hlater).1 hmem
      exact hdisjoint hearlier (mem_asked_iff.mpr ⟨hboth, (mem_asked_iff.mp hearlier).2⟩)
    · intro earlier hearlier later hlater hmem
      obtain rfl : earlier = n := by
        split at hearlier
        · exact absurd hearlier List.not_mem_nil
        · exact List.mem_singleton.mp hearlier
      obtain ⟨⟨field, child⟩, hchild, hlater⟩ := List.mem_flatMap.mp hlater
      have hsmaller := size_lt_of_mem_branches (mem_children_iff.mp hchild)
      have hwithin : later.size ≤ child.size := size_le_of_mem_nodes (mem_asked_iff.mp hlater).1
      have hlarger := size_le_of_mem_nodes hmem
      omega

/-- The nodes that idioms are asked about are different nodes, each before the nodes below it. -/
theorem WellFormed.nodup_asked {tree : Node} (h : tree.WellFormed) (hunshared : tree.Unshared) :
    tree.asked.Nodup :=
  (h.nodup_ids hunshared).of_map

/-- What comes after a node has the node below it only if it is the node itself. -/
theorem WellFormed.not_mem_nodes_of_after {tree n m : Node} (h : tree.WellFormed)
    (hunshared : tree.Unshared) {before after : List Node} (hasked : tree.asked = before ++ n :: after)
    (hm : m ∈ after) : n ∉ m.nodes := by
  have hpairwise := pairwise_asked_of_nodup (h.nodup_asked hunshared)
  rw [hasked] at hpairwise
  exact (List.pairwise_cons.mp (List.pairwise_append.mp hpairwise).2.1).1 m hm

end Node

/-- Keys that edits put others in the place of hold no node of a class. -/
def Edits.Spares (tree : Node) (p : Node → Bool) (e : Edits) : Prop :=
  ∀ n ∈ tree.nodes, ∀ name, e.writtenOut.get? n.id = some (some name) →
    ∀ key, (Field.key, some key) ∈ n.branches → key.nodes.filter p = []

/-- The nodes of a class below a node are the same as the edits leave it. -/
theorem Edits.Spares.filter_children {tree : Node} {p : Node → Bool} {e : Edits}
    (h : e.Spares tree p) (hp : ∀ n : Node, n.isIdentifier = true → p n = false) {n : Node}
    (hn : Labeling.Visitable tree n) :
    ((e.look n).children.flatMap fun c ↦ c.2.nodes.filter p) =
      n.children.flatMap fun c ↦ c.2.nodes.filter p := by
  have hlooked : (e.withKey n.id n.branches).filterMap (fun b ↦ b.2.map (·.nodes.filter p)) =
      n.branches.filterMap fun b ↦ b.2.map (·.nodes.filter p) := by
    unfold withKey
    split
    · rename_i name hname
      rcases hn with hn | ⟨-, hbare⟩
      · rw [List.filterMap_map]
        refine List.filterMap_congr fun b hb ↦ ?_
        rcases b with ⟨field, _ | child⟩
        · simp
        · by_cases hfield : field = .key
          · subst hfield
            have hnew : (e.newKey n.id name).nodes.filter p = [] := by
              rw [Node.nodes_eq]
              exact List.filter_cons_of_neg (by simp [hp (e.newKey n.id name) rfl])
            simp [h n hn name hname child hb, hnew]
          · simp [hfield]
      · rw [hbare]
        rfl
    · rfl
  have hchildren (branches : List (Field × Option Node)) :
      (branches.filterMap fun b ↦ b.2.map (b.1, ·)).flatMap (fun c ↦ c.2.nodes.filter p) =
        (branches.filterMap fun b ↦ b.2.map (·.nodes.filter p)).flatten := by
    rw [List.flatMap, List.map_filterMap]
    congr 2
    funext b
    cases b.2 <;> rfl
  exact (hchildren _).trans ((congrArg List.flatten hlooked).trans (hchildren _).symm)

namespace Labeling

theorem proceed_eq_none_iff {run : Labeling × Option Fault}
    {next : Labeling → Labeling × Option Fault} {l : Labeling} :
    proceed run next = (l, none) ↔ ∃ mid, run = (mid, none) ∧ next mid = (l, none) := by
  rcases run with ⟨mid, fault | _⟩ <;> simp [proceed]

theorem proceed_proceed (run : Labeling × Option Fault)
    (next last : Labeling → Labeling × Option Fault) :
    proceed (proceed run next) last = proceed run fun l ↦ proceed (next l) last := by
  rcases run with ⟨l, fault | _⟩ <;> rfl

theorem runPasses_cons (l : Labeling) (tree : Node) (pass : Pass) (rest : List Pass) :
    l.runPasses tree (pass :: rest) =
      proceed (l.runPass tree pass) fun l ↦ l.runPasses tree rest := by
  rw [runPasses]
  rcases l.runPass tree pass with ⟨next, fault | _⟩ <;> rfl

theorem runPasses_append (l : Labeling) (tree : Node) (before after : List Pass) :
    l.runPasses tree (before ++ after) =
      proceed (l.runPasses tree before) fun l ↦ l.runPasses tree after := by
  induction before generalizing l with
  | nil => rfl
  | cons pass rest ih =>
    simp only [List.cons_append, runPasses_cons, ih]
    exact (proceed_proceed _ _ _).symm

theorem runPasses_singleton (l : Labeling) (tree : Node) (pass : Pass) :
    l.runPasses tree [pass] = l.runPass tree pass := by
  rw [runPasses_cons]
  rcases l.runPass tree pass with ⟨next, fault | _⟩ <;> rfl

/-- Asks the idioms of a table about nodes, one after the other, up to the first fault. -/
def visitAll (l : Labeling) (table : Table Kind (List Idiom)) :
    List Node → Labeling × Option Fault
  | [] => (l, none)
  | n :: rest =>
    proceed (l.visit n ((n.kind.bind table.get?).getD [])) fun l ↦ l.visitAll table rest

theorem visitAll_append (l : Labeling) (table : Table Kind (List Idiom)) (before after : List Node) :
    l.visitAll table (before ++ after) =
      proceed (l.visitAll table before) fun l ↦ l.visitAll table after := by
  induction before generalizing l with
  | nil => rfl
  | cons n rest ih =>
    simp only [List.cons_append, visitAll, ih]
    exact (proceed_proceed _ _ _).symm

/-- What one more request keeps, visits to nodes keep. -/
theorem carried_visitAll {P : Engine → List Request → Prop} (hP : Carried P) {l : Labeling}
    (h : P l.engine l.requests) (table : Table Kind (List Idiom)) (nodes : List Node) :
    P (l.visitAll table nodes).1.engine (l.visitAll table nodes).1.requests := by
  induction nodes generalizing l with
  | nil => exact h
  | cons n rest ih =>
    have hvisited := hP.visit h n ((n.kind.bind table.get?).getD [])
    unfold visitAll
    rcases hvisit : l.visit n ((n.kind.bind table.get?).getD []) with ⟨mid, fault | _⟩
    · rw [hvisit] at hvisited
      exact ih hvisited
    · rwa [hvisit] at hvisited

/-- A run on a program of which the store has identifiers as sites, and in which keys were put in
only where a property has its key also in its value. -/
def Justified (tree : Node) (l : Labeling) : Prop :=
  l.engine.store.EachSite (Site.Sound (· ∈ tree.nodes)) ∧
    l.engine.edits.Justified (· ∈ tree.nodes)

variable {tree : Node} {l : Labeling}

theorem Justified.visit (h : l.Justified tree) (n : Node) (idioms : List Idiom) :
    (l.visit n idioms).1.Justified tree :=
  (preserved_justified _).carried.visit h n idioms

/-! ## Walks that see the edits -/

section Classes

variable {p : Node → Bool} {pass : Pass}

/-- A class of nodes outside of which a pass asks nothing, without any plain identifiers. -/
structure Covers (p : Node → Bool) (pass : Pass) : Prop where
  bare : ∀ n : Node, n.isIdentifier = true → p n = false
  idle : ∀ n, p n = false → (n.kind.bind pass.table.get?).getD [] = []

/-- Nodes about which nothing is asked can be left out. -/
theorem Covers.visitAll_filter (hp : Covers p pass) (l : Labeling) (nodes : List Node) :
    l.visitAll pass.table (nodes.filter p) = l.visitAll pass.table nodes := by
  induction nodes generalizing l with
  | nil => rfl
  | cons n rest ih =>
    cases hn : p n with
    | true => simp only [List.filter_cons_of_pos hn, visitAll, ih]
    | false =>
      rw [List.filter_cons_of_neg (by simp [hn]), ih]
      simp only [visitAll, hp.idle n hn]
      rfl

/-- A walk visits the nodes of the stack and those below them in reading order. -/
theorem Justified.sweep_eq_visitAll (h : l.Justified tree) (hp : Covers p pass)
    (htyped : ∀ n ∈ tree.nodes, n.isTyped = true)
    (hspares : ∀ e : Edits, e.Justified (· ∈ tree.nodes) → e.Spares tree p)
    {stack : List (Node × Option Node)} (hstack : ∀ entry ∈ stack, Visitable tree entry.1) :
    l.sweep pass.table stack =
      l.visitAll pass.table (stack.flatMap fun entry ↦ entry.1.nodes.filter p) := by
  have hcons (l : Labeling) (n : Node) (rest : List Node) :
      l.visitAll pass.table (n.nodes.filter p ++ rest) =
        proceed (l.visit n ((n.kind.bind pass.table.get?).getD [])) fun l ↦
          l.visitAll pass.table ((n.children.flatMap fun c ↦ c.2.nodes.filter p) ++ rest) := by
    rw [Node.nodes_eq, List.filter_cons, List.filter_flatMap]
    cases hn : p n with
    | true => rfl
    | false =>
      rw [hp.idle n hn]
      rfl
  fun_induction Labeling.sweep l pass.table stack with
  | case1 => rfl
  | case2 l n parent rest _ idioms mid fault hvisit =>
    rw [List.flatMap_cons, hcons, hvisit]
    rfl
  | case3 l n parent rest _ idioms mid hvisit ih =>
    have hn := hstack (n, parent) List.mem_cons_self
    have hmid : mid.Justified tree := by
      have hvisited := h.visit n idioms
      rwa [hvisit] at hvisited
    have hmore : ∀ entry ∈ mid.descents n ++ rest, Visitable tree entry.1 := by
      intro entry hentry
      rcases List.mem_append.mp hentry with hdescent | hrest
      · exact visitable_of_mem_descents mid hn hdescent
      · exact hstack entry (List.mem_cons_of_mem _ hrest)
    have hbelow : (mid.descents n).flatMap (fun entry ↦ entry.1.nodes.filter p) =
        n.children.flatMap fun c ↦ c.2.nodes.filter p := by
      rw [descents, List.flatMap_map]
      exact (hspares _ hmid.2).filter_children hp.bare hn
    rw [ih hmid hmore, List.flatMap_append, hbelow, List.flatMap_cons, hcons, hvisit]
    rfl
  | case4 l n parent rest huntyped =>
    refine absurd ?_ huntyped
    rcases hstack _ List.mem_cons_self with hn | ⟨hidentifier, -⟩
    · exact htyped n hn
    · rw [Node.isTyped, Node.isIdentifier_iff.mp hidentifier]
      rfl

/-- A pass visits the nodes of a class that are in a tree, in reading order. -/
theorem Justified.runPass_eq_visitAll (h : l.Justified tree) (hp : Covers p pass)
    (htyped : ∀ n ∈ tree.nodes, n.isTyped = true)
    (hspares : ∀ e : Edits, e.Justified (· ∈ tree.nodes) → e.Spares tree p) :
    l.runPass tree pass =
      proceed ((l.note (.passStarted pass.name)).visitAll pass.table (tree.nodes.filter p))
        fun next ↦
          let next := next.note (.passFinished pass.name (next.found.length - l.found.length))
          ({ next with passes := next.passes ++ [pass.name] }, none) := by
  have hstarted : (l.note (.passStarted pass.name)).Justified tree := h
  have hstack : ∀ entry ∈ [(tree, (none : Option Node))], Visitable tree entry.1 := by
    simp only [List.forall_mem_singleton]
    exact .inl tree.mem_nodes_self
  have hswept := hstarted.sweep_eq_visitAll hp htyped hspares hstack
  rw [List.flatMap_singleton] at hswept
  unfold runPass
  rw [hswept]
  rcases (l.note (.passStarted pass.name)).visitAll pass.table (tree.nodes.filter p) with
    ⟨next, fault | _⟩ <;> rfl

end Classes

/-- A pass visits the nodes of a program in reading order. -/
theorem Justified.runPass_eq (h : l.Justified tree) (hformed : tree.WellFormed)
    (hunshared : tree.Unshared) (pass : Pass) :
    l.runPass tree pass =
      proceed ((l.note (.passStarted pass.name)).visitAll pass.table tree.asked) fun next ↦
        let next := next.note (.passFinished pass.name (next.found.length - l.found.length))
        ({ next with passes := next.passes ++ [pass.name] }, none) := by
  have hcovers : Covers (fun n ↦ !n.isNaming) pass :=
    { bare := fun n hn ↦ by simp [Node.isNaming, hn]
      idle := fun n hn ↦ pass.asked_nothing_of_isNaming (by simpa using hn) }
  refine h.runPass_eq_visitAll hcovers hformed.isTyped fun e he n hn name hname key hkey ↦ ?_
  -- The keys that are replaced are identifiers, which hold nothing.
  obtain ⟨hkind, -, hkeys⟩ := he.respects hunshared hformed.namesKeys n hn name hname
  have hsingle := Node.length_items_of_isShaped (hformed.shaped n hn) hkind rfl
    (by decide : Field.key ∈ _) (by decide)
  have hidentifier := hkeys key (Node.child?_eq_some_of_mem hsingle hkey)
  exact hformed.asked_of_isNaming (Node.mem_nodes_of_mem_branches hn hkey)
    (by simp [Node.isNaming, hidentifier])

end Labeling

end Relabel
