import Relabel.Proofs.Labeling.Dispatch

/-!
# A plain account of a run

A run without a walk and without tables: before each pass the nodes of the tree, as it is then, are
written down in reading order, and for each of them the idioms of the pass that look at its kind are
tried in increasing priority up to the first that finds something, which is carried out. Although a
run walks through the tree while it changes it, and sorts its idioms beforehand, it does the same:
renames put new keys in the place of old ones, and do nothing else to the nodes that are still to be
visited.
-/

namespace Relabel

/-- The nodes of a tree as edits leave it, in reading order. They are looked at without the edits
that they hold, which are seen when their turn comes. -/
def Edits.preorder (e : Edits) : Node → List Node :=
  Node.fold fun n results ↦ n :: (results.filterMap fun result ↦ result.2.map fun below ↦
    match e.writtenOut.get? n.id with
    | some (some name) => if result.1 = .key then [e.newKey n.id name] else below
    | _ => below).flatten

namespace Edits

variable {e : Edits} {tree : Node} {p : Node → Bool}

theorem preorder_eq (e : Edits) (n : Node) :
    e.preorder n = n :: (e.look n).children.flatMap fun c ↦ e.preorder c.2 := by
  have hnew (name : String) : e.preorder (e.newKey n.id name) = [e.newKey n.id name] := rfl
  have hchildren (branches : List (Field × Option Node)) :
      (branches.filterMap fun b ↦ b.2.map (b.1, ·)).flatMap (fun c ↦ e.preorder c.2) =
        (branches.filterMap fun b ↦ b.2.map e.preorder).flatten := by
    rw [List.flatMap, List.map_filterMap]
    congr 2
    funext b
    cases b.2 <;> rfl
  have hbranches : (e.look n).branches = e.withKey n.id n.branches := rfl
  rw [Node.children, hchildren, hbranches]
  conv_lhs => rw [preorder, Node.fold_eq, ← preorder]
  congr 2
  rw [List.filterMap_map]
  unfold withKey
  rcases e.writtenOut.get? n.id with _ | _ | name
  case some.some =>
    rw [List.filterMap_map]
    refine List.filterMap_congr fun b _ ↦ ?_
    rcases b with ⟨field, _ | child⟩
    · simp
    · by_cases hfield : field = .key <;> simp [hfield, hnew]
  all_goals
    refine List.filterMap_congr fun b _ ↦ ?_
    cases hchild : b.2 <;> simp [hchild]

theorem size_lt_of_mem_children {n : Node} {c : Field × Node} (hc : c ∈ (e.look n).children) :
    c.2.size < n.size := by
  have hpart := Node.le_total_of_mem (List.mem_map.mpr ⟨c, hc, rfl⟩ :
    c.2.size ∈ (e.look n).children.map (·.2.size))
  have hlooked := e.total_size_children_look_le n
  have hbelow := n.total_size_children_lt
  omega

/-- What is written down before a pass are the nodes of the tree as the edits leave it. -/
theorem map_apply_preorder (e : Edits) (n : Node) :
    (e.preorder n).map e.apply = (e.apply n).nodes := by
  induction hsize : n.size using Nat.strong_induction_on generalizing n with
  | _ size ih =>
    subst hsize
    rw [preorder_eq, Node.nodes_eq, children_apply, List.map_cons, List.map_flatMap,
      List.flatMap_map]
    congr 1
    exact List.flatMap_congr fun c hc ↦ ih c.2.size (size_lt_of_mem_children hc) c.2 rfl

/-- If the keys that are replaced hold nothing of a class, the edited tree has the nodes of the
class that the tree has. -/
theorem Spares.filter_preorder (h : e.Spares tree p)
    (hp : ∀ n : Node, n.isIdentifier = true → p n = false) {n : Node}
    (hn : Labeling.Visitable tree n) : (e.preorder n).filter p = n.nodes.filter p := by
  induction hsize : n.size using Nat.strong_induction_on generalizing n with
  | _ size ih =>
    subst hsize
    have hbelow : ((e.look n).children.flatMap fun c ↦ (e.preorder c.2).filter p) =
        (e.look n).children.flatMap fun c ↦ c.2.nodes.filter p :=
      List.flatMap_congr fun c hc ↦ ih c.2.size (size_lt_of_mem_children hc)
        (Labeling.visitable_of_mem_children hn hc) rfl
    rw [preorder_eq, Node.nodes_eq, List.filter_cons, List.filter_cons, List.filter_flatMap,
      List.filter_flatMap, hbelow, h.filter_children hp hn]

end Edits

namespace Labeling

/-- Tries idioms on a node up to the first that finds something. -/
def firstMatch (l : Labeling) (n : Node) :
    List Idiom → Except Fault (Option Match) × Labeling
  | [] => (.ok none, l)
  | idiom :: rest =>
    match l.ask n idiom with
    | (.error fault, l) => (.error fault, l)
    | (.ok none, l) => l.firstMatch n rest
    | (.ok (some requests), l) => (.ok (some ⟨idiom, n, requests⟩), l)

/-- Carries out what the first idiom finds on a node, and nothing else. -/
def serve (l : Labeling) (n : Node) (idioms : List Idiom) : Labeling × Option Fault :=
  match l.firstMatch n idioms with
  | (.error fault, l) => (l, some fault)
  | (.ok none, l) => (l, none)
  | (.ok (some found), l) =>
    ({ l with
        engine := (l.engine.apply found.idiom.label found.requests).1
        found := l.found ++ [found] }, none)

/-- Serves nodes one after the other, up to the first fault. -/
def serveAll (l : Labeling) (pass : Pass) : List Node → Labeling × Option Fault
  | [] => (l, none)
  | n :: rest => proceed (l.serve n (pass.candidates n)) fun l ↦ l.serveAll pass rest

/-- One pass over the nodes that the tree has before it. -/
def servePass (l : Labeling) (tree : Node) (pass : Pass) : Labeling × Option Fault :=
  let nodes := l.engine.edits.preorder tree
  proceed ((l.note (.passStarted pass.name)).serveAll pass nodes) fun next ↦
    let next := next.note (.passFinished pass.name (next.found.length - l.found.length))
    ({ next with passes := next.passes ++ [pass.name] }, none)

/-- Passes in order, up to the first fault. -/
def servePasses (l : Labeling) (tree : Node) : List Pass → Labeling × Option Fault
  | [] => (l, none)
  | pass :: rest => proceed (l.servePass tree pass) fun l ↦ l.servePasses tree rest

theorem serve_eq_visit (l : Labeling) (n : Node) (idioms : List Idiom) :
    l.serve n idioms = l.visit n idioms := by
  induction idioms generalizing l with
  | nil => rfl
  | cons idiom rest ih =>
    unfold serve firstMatch visit
    rcases l.ask n idiom with ⟨fault | _ | requests, next⟩
    · rfl
    · exact ih next
    · rfl

theorem serveAll_eq_visitAll {pass : Pass} (h : Pass.Apart pass.idioms) (l : Labeling)
    (nodes : List Node) : l.serveAll pass nodes = l.visitAll pass.table nodes := by
  induction nodes generalizing l with
  | nil => rfl
  | cons n rest ih =>
    simp only [serveAll, visitAll, serve_eq_visit, Pass.table_eq_candidates h, ih]

end Labeling

/-! ## The run does the same -/

namespace Pass

/-- Whether some idiom of a pass looks at a node. -/
def looksAt (pass : Pass) (n : Node) : Bool :=
  pass.idioms.any fun idiom ↦ n.kind == some idiom.kind

theorem looksAt_eq_false_iff {pass : Pass} {n : Node} :
    pass.looksAt n = false ↔ ∀ idiom ∈ pass.idioms, n.kind ≠ some idiom.kind := by
  simp [looksAt]

theorem covers_looksAt (pass : Pass) : Labeling.Covers pass.looksAt pass where
  bare n hn := by
    rw [looksAt_eq_false_iff, Node.isIdentifier_iff.mp hn]
    rintro idiom -
    cases idiom <;> decide
  idle n hn := by
    refine List.eq_nil_iff_forall_not_mem.mpr fun idiom hidiom ↦ ?_
    obtain ⟨hkind, hmem⟩ := Pass.asked hidiom
    exact looksAt_eq_false_iff.mp hn idiom hmem hkind

/-- No node that passes look at stands in a key that a shorthand property shares with its value. -/
def KeysIdle (passes : List Pass) (tree : Node) : Prop :=
  ∀ n ∈ tree.nodes, n.head.shorthand = true → Edits.sharesKey n = true →
    ∀ key ∈ n.under .key, ∀ m ∈ key.2.nodes, ∀ pass ∈ passes, pass.looksAt m = false

instance (passes : List Pass) (tree : Node) : Decidable (KeysIdle passes tree) :=
  inferInstanceAs (Decidable (∀ n ∈ tree.nodes, n.head.shorthand = true →
    Edits.sharesKey n = true → ∀ key ∈ n.under .key, ∀ m ∈ key.2.nodes,
      ∀ pass ∈ passes, pass.looksAt m = false))

end Pass

namespace Labeling

variable {tree : Node} {l : Labeling} {passes : List Pass}

theorem spares_of_keysIdle (hidentity : ∀ m ∈ tree.nodes, ∀ n ∈ tree.nodes, m.id = n.id → m = n)
    (hkeys : Pass.KeysIdle passes tree) {pass : Pass} (hpass : pass ∈ passes) {e : Edits}
    (he : e.Justified (· ∈ tree.nodes)) : e.Spares tree pass.looksAt := by
  intro n hn name hname key hkey
  obtain ⟨property, hproperty, hid, hshorthand, hshares, -⟩ := he n.id name hname
  obtain rfl := hidentity property hproperty n hn hid
  have hunder : (Field.key, key) ∈ property.under .key :=
    Node.mem_under_iff.mpr ⟨Node.mem_children_iff.mpr hkey, rfl⟩
  refine List.filter_eq_nil_iff.mpr fun m hm ↦ ?_
  simp [hkeys property hproperty hshorthand hshares _ hunder m hm pass hpass]

theorem Justified.runPass_eq_servePass (h : l.Justified tree) {pass : Pass}
    (hapart : Pass.Apart pass.idioms) (htyped : ∀ n ∈ tree.nodes, n.isTyped = true)
    (hspares : ∀ e : Edits, e.Justified (· ∈ tree.nodes) → e.Spares tree pass.looksAt) :
    l.runPass tree pass = l.servePass tree pass := by
  have hcovers := pass.covers_looksAt
  have hnodes := (hspares _ h.2).filter_preorder hcovers.bare (.inl tree.mem_nodes_self)
  have hserved : (l.note (.passStarted pass.name)).serveAll pass (l.engine.edits.preorder tree) =
      (l.note (.passStarted pass.name)).visitAll pass.table (tree.nodes.filter pass.looksAt) := by
    rw [serveAll_eq_visitAll hapart, ← hcovers.visitAll_filter, hnodes]
  rw [h.runPass_eq_visitAll hcovers htyped hspares, servePass, hserved]

theorem Justified.runPasses_eq_plain (h : l.Justified tree)
    (hapart : ∀ pass ∈ passes, Pass.Apart pass.idioms)
    (htyped : ∀ n ∈ tree.nodes, n.isTyped = true)
    (hspares : ∀ pass ∈ passes, ∀ e : Edits, e.Justified (· ∈ tree.nodes) →
      e.Spares tree pass.looksAt) : l.runPasses tree passes = l.servePasses tree passes := by
  induction passes generalizing l with
  | nil => rfl
  | cons pass rest ih =>
    obtain ⟨hfirst, hmore⟩ := List.forall_mem_cons.mp hapart
    obtain ⟨hspared, hsparedMore⟩ := List.forall_mem_cons.mp hspares
    rw [runPasses_cons, servePasses, ← h.runPass_eq_servePass hfirst htyped hspared]
    have hnext := (preserved_justified (· ∈ tree.nodes)).carried.runPasses (l := l) h tree [pass]
    rw [runPasses_singleton] at hnext
    rcases hrun : l.runPass tree pass with ⟨next, fault | _⟩
    · rw [hrun] at hnext
      exact ih hnext hmore hsparedMore
    · rfl

end Labeling

/-- A run does what its plain account says: on a program whose nodes carry tags and are told apart
by their identities, with passes that can be made and look at nothing in a key that is also a value,
it leaves the same tree, report and registry, or the same fault. The plain account tries the idioms
of a pass in strictly increasing priority. Whatever the program, passes with their idioms in another
order do the same, and can be made if the passes can. -/
theorem runPasses_eq_servePasses :
    (∀ (tree : Node) (s : Store) (l : Labeling) (passes : List Pass),
      l.engine.Reachable tree s → (∀ n ∈ tree.nodes, n.isTyped = true) →
      (∀ m ∈ tree.nodes, ∀ n ∈ tree.nodes, m.id = n.id → m = n) → Pass.KeysIdle passes tree →
      (∀ pass ∈ passes, Pass.create pass.name pass.description pass.idioms = .ok pass) →
        l.runPasses tree passes = l.servePasses tree passes ∧
          ∀ pass ∈ passes, ∀ n, pass.Tries n (pass.candidates n)) ∧
    (∀ (tree : Node) (l : Labeling) (passes passes' : List Pass),
      (∀ pass ∈ passes, Pass.create pass.name pass.description pass.idioms = .ok pass) →
      List.Forall₂ Pass.Reorders passes passes' →
        l.runPasses tree passes' = l.runPasses tree passes) ∧
    ∀ (name description : String) (idioms idioms' : List Idiom), idioms.Perm idioms' →
      ((∃ fault, Pass.create name description idioms = .error fault) ↔
        ∃ fault, Pass.create name description idioms' = .error fault) := by
  have hapart {passes : List Pass} (hcreated : ∀ pass ∈ passes,
      Pass.create pass.name pass.description pass.idioms = .ok pass) :
      ∀ pass ∈ passes, Pass.Apart pass.idioms :=
    fun pass hpass ↦ (Pass.create_eq_ok_iff.mp (hcreated pass hpass)).1
  refine ⟨fun tree s l passes hreachable htyped hidentity hkeys hcreated ↦ ⟨?_, ?_⟩,
    fun tree l passes passes' hcreated hreorders ↦ ?_,
    fun name description idioms idioms' hperm ↦ ?_⟩
  · exact Labeling.Justified.runPasses_eq_plain hreachable.eachSite_and_justified
      (hapart hcreated) htyped fun pass hpass e he ↦
        Labeling.spares_of_keysIdle hidentity hkeys hpass he
  · exact fun pass hpass n ↦ Pass.tries_candidates (hapart hcreated pass hpass) n
  · exact Labeling.runPasses_reorder hreorders (hapart hcreated) l tree
  · have hrejected (idioms : List Idiom) :
        (∃ fault, Pass.create name description idioms = .error fault) ↔ ¬ Pass.Apart idioms := by
      constructor
      · rintro ⟨fault, hfault⟩ happart
        rw [Pass.create_eq_ok_iff.mpr ⟨happart, rfl⟩] at hfault
        exact absurd hfault (by simp)
      · intro hshared
        cases hmade : Pass.create name description idioms with
        | error fault => exact ⟨fault, rfl⟩
        | ok pass => exact absurd (Pass.create_eq_ok_iff.mp hmade).1 hshared
    rw [hrejected, hrejected, Pass.apart_perm hperm]

namespace Sample

/-- `try { } catch (a) { ({ … }); }`, where one node is the key and the value of a shorthand
property. -/
def trying (shared : Node) : Node :=
  node 0 .program [(.body, some (node 1 .tryStatement
    [(.block, some (node 2 .blockStatement [])),
      (.handler, some (node 3 .catchClause [(.param, some (name 4 "a")),
        (.body, some (node 5 .blockStatement [(.body, some (node 6 .expressionStatement
          [(.expression, some (node 7 .objectExpression [(.properties, some (.mk
            { id := ⟨8, false⟩, kind := some .property, shorthand := true, variety := some "init" }
            [(.key, some shared), (.value, some shared)]))]))]))]))]))]))]

/-- `a = function () { try { } catch (e) { } }` -/
def caughtInside : Node :=
  node 9 .assignmentPattern [(.left, some (name 10 "a")),
    (.right, some (node 11 .functionExpression [(.body, some (node 12 .blockStatement
      [(.body, some (node 13 .tryStatement [(.block, some (node 14 .blockStatement [])),
        (.handler, some (node 15 .catchClause [(.param, some (name 16 "e")),
          (.body, some (node 17 .blockStatement []))]))]))]))]))]

/-- The standard passes with the idioms of each in the opposite order. -/
def reversedPasses : List Pass :=
  Pass.standard.map fun pass ↦ { pass with idioms := pass.idioms.reverse }

theorem reorders_reversedPasses : List.Forall₂ Pass.Reorders Pass.standard reversedPasses :=
  List.forall₂_map_right_iff.mpr (List.forall₂_same.mpr fun pass _ ↦
    ⟨rfl, (List.reverse_perm pass.idioms).symm⟩)

end Sample

/-- A catch parameter is renamed while the walk is above a property that has its name, and a new key
is put into the property before the walk gets there. -/
theorem runPasses_eq_servePasses_caught :
    ∃ s r l, Store.analyze (Sample.trying (Sample.name 9 "a")) = .ok s ∧
      Registry.create "___" Role.defaultDescriptor [] = .ok r ∧
      (∀ n ∈ (Sample.trying (Sample.name 9 "a")).nodes, n.isTyped = true) ∧
      Pass.KeysIdle Pass.standard (Sample.trying (Sample.name 9 "a")) ∧
      (Labeling.start s {} r).runPasses (Sample.trying (Sample.name 9 "a")) Pass.standard =
        (l, none) ∧
      (l.engine.edits.apply (Sample.trying (Sample.name 9 "a"))).identifierNames =
        .ok ["err", "a", "err"] ∧
      (Labeling.start s {} r).servePasses (Sample.trying (Sample.name 9 "a")) Pass.standard =
        (l, none) ∧
      (Labeling.start s {} r).runPasses (Sample.trying (Sample.name 9 "a"))
        Sample.reversedPasses = (l, none) := by
  have hobserved : ((Store.analyze (Sample.trying (Sample.name 9 "a"))).toOption.bind fun s ↦
      (Registry.create "___" Role.defaultDescriptor []).toOption.map fun r ↦
        let run := (Labeling.start s {} r).runPasses (Sample.trying (Sample.name 9 "a"))
          Pass.standard
        (run.2, (run.1.engine.edits.apply
          (Sample.trying (Sample.name 9 "a"))).identifierNames.toOption)) =
      some (none, some ["err", "a", "err"]) := by
    simp only [Labeling.runPasses_eq_runTables, Pass.tables_standard]
    decide +kernel
  obtain ⟨s, hs, hobserved⟩ := Option.bind_eq_some_iff.mp hobserved
  obtain ⟨r, hr, hobserved⟩ := Option.map_eq_some_iff.mp hobserved
  obtain ⟨hfinished, hnames⟩ := Prod.mk.inj hobserved
  rw [toOption_eq_some_iff] at hs hr hnames
  have htyped : ∀ n ∈ (Sample.trying (Sample.name 9 "a")).nodes, n.isTyped = true := by
    decide +kernel
  have hidentity : ∀ m ∈ (Sample.trying (Sample.name 9 "a")).nodes,
      ∀ n ∈ (Sample.trying (Sample.name 9 "a")).nodes, m.id = n.id → m = n :=
    Sample.eq_of_id_eq (Sample.trying (Sample.name 9 "a")).nodes.dropLast (List.range 10 ++ [9]) rfl
      (by decide +kernel)
  have hkeys : Pass.KeysIdle Pass.standard (Sample.trying (Sample.name 9 "a")) := by
    decide +kernel
  have hcreated : ∀ pass ∈ Pass.standard,
      Pass.create pass.name pass.description pass.idioms = .ok pass := by
    decide
  obtain ⟨hserves, hreorders, -⟩ := runPasses_eq_servePasses
  have hserved := (hserves _ s (Labeling.start s {} r) Pass.standard ⟨hs, [], rfl⟩ htyped hidentity
    hkeys hcreated).1
  have hreordered := hreorders (Sample.trying (Sample.name 9 "a")) (Labeling.start s {} r)
    Pass.standard Sample.reversedPasses hcreated Sample.reorders_reversedPasses
  have hreturned {run : Labeling × Option Fault} (h : run.2 = none) : run = (run.1, none) :=
    Prod.ext rfl h
  have hrun := hreturned hfinished
  exact ⟨s, r, _, hs, hr, htyped, hkeys, hrun, hnames, hserved.symm.trans hrun,
    hreordered.trans hrun⟩

/-- A key that is also a value has a default with a catch clause in it. The run puts a new key in
its place and comes to the clause once, the plain account comes to it twice. -/
theorem served_twice_if_key_holds_clause :
    ∃ s r, Store.analyze (Sample.trying Sample.caughtInside) = .ok s ∧
      Registry.create "___" Role.defaultDescriptor [] = .ok r ∧
      (∀ n ∈ (Sample.trying Sample.caughtInside).nodes, n.isTyped = true) ∧
      (∀ m ∈ (Sample.trying Sample.caughtInside).nodes,
        ∀ n ∈ (Sample.trying Sample.caughtInside).nodes, m.id = n.id → m = n) ∧
      Pass.create "catches" "" [.catchParameter] = .ok ⟨"catches", "", [.catchParameter]⟩ ∧
      (Labeling.start s {} r).runPasses (Sample.trying Sample.caughtInside)
          [⟨"catches", "", [.catchParameter]⟩] ≠
        (Labeling.start s {} r).servePasses (Sample.trying Sample.caughtInside)
          [⟨"catches", "", [.catchParameter]⟩] := by
  have hobserved : ((Store.analyze (Sample.trying Sample.caughtInside)).toOption.bind fun s ↦
      (Registry.create "___" Role.defaultDescriptor []).toOption.map fun r ↦
        let passes : List Pass := [⟨"catches", "", [.catchParameter]⟩]
        let walked := (Labeling.start s {} r).runPasses (Sample.trying Sample.caughtInside) passes
        let served := (Labeling.start s {} r).servePasses (Sample.trying Sample.caughtInside) passes
        (walked.1.found.length, served.1.found.length)) = some (2, 3) := by
    decide +kernel
  obtain ⟨s, hs, hobserved⟩ := Option.bind_eq_some_iff.mp hobserved
  obtain ⟨r, hr, hobserved⟩ := Option.map_eq_some_iff.mp hobserved
  obtain ⟨hwalked, hserved⟩ := Prod.mk.inj hobserved
  rw [toOption_eq_some_iff] at hs hr
  refine ⟨s, r, hs, hr, by decide +kernel, ?_, rfl, fun hsame ↦ ?_⟩
  · exact Sample.eq_of_id_eq ((Sample.trying Sample.caughtInside).nodes.take 18)
      (List.range 18 ++ List.range' 9 9) rfl (by decide +kernel)
  · rw [hsame, hserved] at hwalked
    exact absurd hwalked (by decide)

end Relabel
