import Relabel.Proofs.Labeling.Frame

/-!
# Names that mean something outside

The names of properties, labels and members of modules are not the program's to choose. They keep
their spelling under labelling, with four exceptions: the outer name of a specifier that has one
identifier for both of its names, the key of a class field, and the local name in
`export { x } from "m"`. At these places an identifier takes the name of the binding that it is
found to belong to.
-/

namespace Relabel

namespace Node

/-- The labels of a tree under which a name is for something outside the scopes of the program. -/
inductive Outward (tree : Node) : Node → Field → Prop
  | key {n : Node} {kind : Kind} : kind ∈ [.property, .methodDefinition, .fieldDefinition] →
      n.kind = some kind → n.head.computed = false → Outward tree n .key
  | member {n : Node} : n.kind = some .memberExpression → n.head.computed = false →
      Outward tree n .property
  | label {n : Node} {kind : Kind} :
      kind ∈ [.labeledStatement, .breakStatement, .continueStatement] → n.kind = some kind →
      Outward tree n .label
  | imported {n : Node} : n.kind = some .importSpecifier → Outward tree n .imported
  | exported {n : Node} : n.kind = some .exportSpecifier → Outward tree n .exported
  /-- What another module exports is exported again. -/
  | passedOn {holder n : Node} {field : Field} : holder ∈ tree.nodes →
      holder.kind = some .exportNamedDeclaration → (holder.child? .source).isSome = true →
      (field, some n) ∈ holder.branches → n.kind = some .exportSpecifier →
      Outward tree n .localName

/-- Whether a name under a label of a node is taken for a variable, or is one node with it. -/
def exposes (n : Node) (field : Field) (name : Node) : Bool :=
  match n.kind, field with
  | some .fieldDefinition, .key | some .exportSpecifier, .localName => true
  | some .importSpecifier, .imported | some .exportSpecifier, .exported =>
    (n.child? .localName).any (·.id == name.id)
  | _, _ => false

/-- A name that is not exposed is known to be one, and stands in a place of its own. -/
theorem Outward.isPropertyName {tree n name : Node} {field : Field} (h : tree.Outward n field)
    (hexposes : n.exposes field name = false)
    (hkey : ¬ (n.kind = some .property ∧ n.head.shorthand = true)) :
    Task.isPropertyName n field = true ∧ (Edge.mk n field name).isLent = false := by
  cases h with
  | @key _ kind hmem hkind hcomputed =>
    rcases kind <;> simp_all [exposes, Task.isPropertyName, Edge.isLent]
  | member hkind hcomputed => simp [Task.isPropertyName, Edge.isLent, hkind, hcomputed]
  | @label _ kind hmem hkind => rcases kind <;> simp_all [Task.isPropertyName, Edge.isLent]
  | imported hkind =>
    simpa [Task.isPropertyName, Edge.isLent, Edge.isAlso, exposes, hkind] using hexposes
  | exported hkind =>
    simpa [Task.isPropertyName, Edge.isLent, Edge.isAlso, exposes, hkind] using hexposes
  | passedOn _ _ _ _ hkind => simp [exposes, hkind] at hexposes

end Node

namespace Store.Grants

variable {s live : Store} {tree n name : Node} {requests : List Request} {e : Edits}

/-- An identifier keeps its spelling unless it belongs to a binding that has another name now. -/
theorem spelling?_eq_self_iff (h : s.Grants requests live e) (hcovers : s.Covers tree)
    (hunshared : tree.Unshared) (hn : n ∈ tree.nodes) :
    e.spelling? n.head = n.head.name ↔ ¬ ∃ id b, live.bindingOf? n = some id ∧
      live.bindings[id]? = some b ∧ n.head.name ≠ some b.name := by
  have hbinding : live.bindingOf? n = s.owners.get? n.id := by
    rw [← hcovers.bindingOf?_eq hunshared hn, bindingOf?, bindingOf?, h.owners_eq]
  rw [h.spelling?_eq hcovers hunshared hn, newName?, hcovers.bindingOf?_eq hunshared hn, hbinding]
  cases howner : s.owners.get? n.id with
  | none => simp
  | some id =>
    obtain ⟨old, hold, site, hsite, rfl⟩ := (hcovers.site_iff hunshared hn id).mp howner
    have hname := (hcovers.named id old hold).2 site hsite
    have hlive : live.bindings[id]? = some (granted requests id old) := by
      rw [h.bindings, hold, Option.map_some]
    have hgranted : (lastName? requests id).or (some old.name) =
        some (granted requests id old).name := by
      rw [granted]
      cases lastName? requests id <;> rfl
    simp [hlive, hname, hgranted, eq_comm]

end Store.Grants

/-- A name that means something outside keeps its spelling, unless it is exposed and the binding
that it is taken for has another name than it. -/
theorem outward_kept_iff {tree : Node} {s : Store} {engine : Engine} (h : engine.Reachable tree s)
    (hformed : tree.WellFormed) (hunshared : tree.Unshared) (hreserves : tree.ReservesKeys)
    {n name : Node} {field : Field} (hn : n ∈ tree.nodes) (houtward : tree.Outward n field)
    (hname : n.child? field = some name) :
    ((engine.edits.apply n).child? field).bind (·.head.name) = name.head.name ↔
      ¬ (n.exposes field name = true ∧ ∃ id b, engine.store.bindingOf? name = some id ∧
        engine.store.bindings[id]? = some b ∧ name.head.name ≠ some b.name) := by
  obtain ⟨requests, hgrants⟩ := h.grants
  have hcovers := Store.covers_of_analyze h.analyze hformed hunshared
  have hbranch := Node.mem_branches_of_child? hname
  have hmem := Node.mem_nodes_of_mem_branches hn hbranch
  by_cases hkey : n.kind = some .property ∧ n.head.shorthand = true
  · obtain ⟨hkind, hshorthand⟩ := hkey
    -- The only name of a property is its key, which is put in anew where it would be respelled.
    have hfield : field = .key := by
      cases houtward <;> simp_all
    subst hfield
    rw [hgrants.key_apply hcovers hformed hunshared hreserves hn hkind hshorthand, hname]
    simp [Node.exposes, hkind]
  · have hkept : engine.edits.KeepsKey n := by
      apply hgrants.keepsKey hcovers hunshared hn
      rintro ⟨hout, -⟩
      obtain ⟨hkind, hshorthand, -⟩ := Store.writesOut_iff.mp hout
      exact hkey ⟨hkind, hshorthand⟩
    have hspelling : ((engine.edits.apply n).child? field).bind (·.head.name) =
        engine.edits.spelling? name.head := by
      rw [hkept.child?_apply, hname]
      simp [Edits.applyHead]
    rw [hspelling, hgrants.spelling?_eq_self_iff hcovers hunshared hmem]
    cases hexposes : n.exposes field name with
    | true => simp
    | false =>
      obtain ⟨hproperty, hlent⟩ := houtward.isPropertyName hexposes hkey
      have howner := hcovers.naming ⟨n, field, name⟩ (Node.mem_edges_iff.mpr ⟨hn, hbranch⟩) hlent
        hproperty
      have hbinding : engine.store.bindingOf? name = none := by
        rw [Store.bindingOf?, hgrants.owners_eq, howner, ite_self]
      simp [hbinding]

namespace Sample

/-- The specifier of `import { x }`, with one identifier for both names. -/
def imported : Node :=
  node 2 .importSpecifier [(.localName, some (name 3 "x")), (.imported, some (name 3 "x"))]

/-- The specifier of `export { x }`, with one identifier for both names. -/
def exported : Node :=
  node 6 .exportSpecifier [(.exported, some (name 7 "x")), (.localName, some (name 7 "x"))]

/-- The specifier of `export { x as z }`. -/
def passedOn : Node :=
  node 9 .exportSpecifier [(.exported, some (name 10 "z")), (.localName, some (name 11 "x"))]

/-- The member of `class A { x; }`. -/
def classField : Node :=
  node 16 .fieldDefinition [(.key, some (name 17 "x"))]

/-- `import { x } from "m"; export { x }; export { x as z } from "n"; class A { x; }` -/
def interface : Node :=
  node 0 .program
    [(.body, some (node 1 .importDeclaration
      [(.specifiers, some imported), (.source, some (node 4 .literal []))])),
      (.body, some (node 5 .exportNamedDeclaration [(.specifiers, some exported)])),
      (.body, some (node 8 .exportNamedDeclaration
        [(.specifiers, some passedOn), (.source, some (node 12 .literal []))])),
      (.body, some (node 13 .classDeclaration [(.id, some (name 14 "A")),
        (.body, some (node 15 .classBody [(.body, some classField)]))]))]

theorem wellFormed_interface : interface.WellFormed :=
  ⟨rfl, by decide +kernel⟩

theorem unshared_interface : interface.Unshared where
  identity := eq_of_id_eq ((interface.nodes.eraseIdx 9).eraseIdx 4)
    ([0, 1, 2, 3, 3, 4, 5, 6, 7, 7] ++ List.range' 8 10) rfl (by decide +kernel)
  distinct := by decide +kernel

end Sample

/-- The imported name of a specifier is one node with the local name, and is renamed with it. -/
theorem outward_kept_iff_imported :
    ∃ s, Store.analyze Sample.interface = .ok s ∧ Sample.interface.WellFormed ∧
      Sample.interface.Unshared ∧ Sample.interface.ReservesKeys ∧
      Sample.imported ∈ Sample.interface.nodes ∧
      Sample.interface.Outward Sample.imported .imported ∧
      Sample.imported.child? .imported = some (Sample.name 3 "x") ∧
      (let engine := Engine.calls Sample.interface { store := s } [.rename 0 "y"]
      ((engine.edits.apply Sample.imported).child? .imported).bind (·.head.name) = some "x" ↔
        ¬ (Sample.imported.exposes .imported (Sample.name 3 "x") = true ∧
          ∃ id b, engine.store.bindingOf? (Sample.name 3 "x") = some id ∧
            engine.store.bindings[id]? = some b ∧ some "x" ≠ some b.name)) := by
  have hobserved : (fun _ : Store ↦ ()) <$> Store.analyze Sample.interface = .ok () := by
    decide +kernel
  obtain ⟨s, hs, -⟩ := map_eq_ok_iff.mp hobserved
  have hreserves : Sample.interface.ReservesKeys := by decide +kernel
  have hmem : Sample.imported ∈ Sample.interface.nodes :=
    List.mem_of_getElem? (show Sample.interface.nodes[2]? = some Sample.imported from rfl)
  have houtward : Sample.interface.Outward Sample.imported .imported := .imported rfl
  have hname : Sample.imported.child? .imported = some (Sample.name 3 "x") := rfl
  exact ⟨s, hs, Sample.wellFormed_interface, Sample.unshared_interface, hreserves, hmem, houtward,
    hname, outward_kept_iff ⟨hs, [.rename 0 "y"], rfl⟩ Sample.wellFormed_interface
      Sample.unshared_interface hreserves hmem houtward hname⟩

/-- The places of a program at which names of something outside are exposed. -/
def Sample.exposed : List (Node × Field) :=
  [(imported, .imported), (exported, .exported), (passedOn, .localName), (classField, .key)]

/-- At four places a name of something outside takes the new name of a binding. -/
theorem outward_lost_if_exposed :
    Sample.interface.WellFormed ∧ Sample.interface.Unshared ∧
      (∀ place ∈ Sample.exposed, place.1 ∈ Sample.interface.nodes ∧
        Sample.interface.Outward place.1 place.2 ∧
        (place.1.child? place.2).bind (·.head.name) = some "x") ∧
      ∃ s, Store.analyze Sample.interface = .ok s ∧
        ∀ place ∈ Sample.exposed,
          (((Engine.calls Sample.interface { store := s } [.rename 0 "y"]).edits.apply
            place.1).child? place.2).bind (·.head.name) = some "y" := by
  have hobserved : (fun s : Store ↦ Sample.exposed.map fun place ↦
      (((Engine.calls Sample.interface { store := s } [.rename 0 "y"]).edits.apply
        place.1).child? place.2).bind (·.head.name)) <$> Store.analyze Sample.interface =
          .ok [some "y", some "y", some "y", some "y"] := by
    decide +kernel
  obtain ⟨s, hs, hnames⟩ := map_eq_ok_iff.mp hobserved
  refine ⟨Sample.wellFormed_interface, Sample.unshared_interface, ?_, s, hs, ?_⟩
  · have hnodes (place : Nat) {n : Node} (h : Sample.interface.nodes[place]? = some n) :
        n ∈ Sample.interface.nodes := List.mem_of_getElem? h
    simp only [Sample.exposed, List.forall_mem_cons]
    refine ⟨⟨hnodes 2 rfl, .imported rfl, rfl⟩, ⟨hnodes 7 rfl, .exported rfl, rfl⟩,
      ⟨hnodes 11 rfl, ?_, rfl⟩, ⟨hnodes 18 rfl, .key (by simp) rfl rfl, rfl⟩, by simp⟩
    exact .passedOn (hnodes 10 rfl) rfl rfl List.mem_cons_self rfl
  · intro place hplace
    have hall : ∀ name ∈ Sample.exposed.map fun place ↦
        (((Engine.calls Sample.interface { store := s } [.rename 0 "y"]).edits.apply
          place.1).child? place.2).bind (·.head.name), name = some "y" := by
      rw [hnames]
      decide
    exact hall _ (List.mem_map.mpr ⟨place, hplace, rfl⟩)

end Relabel
