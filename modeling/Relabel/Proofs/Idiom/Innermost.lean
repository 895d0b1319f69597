import Relabel.Proofs.Idiom.Blind
import Relabel.Proofs.Naming.Ownership
import Relabel.Proofs.Scope.Nesting
import Relabel.Proofs.Scope.Parameter

/-!
# The innermost candidate

Two idioms look for a shape anywhere inside a candidate: a declarator whose initialiser somewhere
returns the global `atob`, and a function declaration whose body somewhere reads a key. Both leave
out what is inside a nested candidate. So a shape is claimed by the innermost candidate around it,
and by no other.
-/

namespace Relabel

namespace Lexical

/-- A reference that no scope around it binds. -/
def IsUnbound (tree n : Node) : Prop :=
  ∃ o ∈ references tree, o.identifier = n ∧ binder? tree o = none

theorem identifier_mem_nodes {tree : Node} (h : tree.WellFormed) {o : Occurrence}
    (ho : o ∈ occurrences tree) :
    o.identifier ∈ tree.nodes ∧ o.identifier.isIdentifier = true := by
  obtain ⟨d, field, hstands⟩ := h.exists_stands ho
  exact ⟨(hstands.parent.child hstands.child).mem_nodes, hstands.isIdentifier⟩

end Lexical

theorem Store.Realises.isFree_iff {s : Store} {tree n : Node} (h : s.Realises tree)
    (hformed : tree.WellFormed) (hunshared : tree.Unshared) (hn : n ∈ tree.nodes) :
    s.isFree n = true ↔ Lexical.IsUnbound tree n := by
  rw [Store.isFree, Bool.and_eq_true, List.contains_iff_mem, h.free.mem_iff, List.mem_map]
  simp only [List.mem_filter, decide_eq_true_eq]
  constructor
  · rintro ⟨-, o, ⟨ho, hunbound⟩, hid⟩
    have hmem := Lexical.identifier_mem_nodes hformed (Lexical.mem_occurrences_of_reference ho)
    exact ⟨o, ho, hunshared.identity _ hmem.1 n hn hid, hunbound⟩
  · rintro ⟨o, ho, rfl, hunbound⟩
    have hmem := Lexical.identifier_mem_nodes hformed (Lexical.mem_occurrences_of_reference ho)
    exact ⟨hmem.2, o, ⟨ho, hunbound⟩, rfl⟩

namespace Node

/-- A return statement that gives the global `atob`. -/
def ReturnsGlobal (tree m : Node) : Prop :=
  m.kind = some .returnStatement ∧ ∃ argument, m.child? .argument = some argument ∧
    argument.isNamed "atob" = true ∧ Lexical.IsUnbound tree argument

/-- A call of `charCodeAt`, written with a point, on a text of seven characters. -/
def ReadsKey (m : Node) : Prop :=
  m.kind = some .callExpression ∧ ∃ callee property key text,
    m.child? .callee = some callee ∧ callee.kind = some .memberExpression ∧
      callee.head.computed = false ∧ callee.child? .property = some property ∧
      property.isNamed "charCodeAt" = true ∧ callee.child? .object = some key ∧
      key.kind = some .literal ∧ key.head.value = some (.text text) ∧ text.length = 7

/-- A declarator of a variable declaration, which declares a plain name. -/
structure Declares (tree n id : Node) : Prop where
  declared : ∃ d ∈ tree.nodes, d.kind = some .variableDeclaration ∧
    some n ∈ d.items .declarations
  kind : n.kind = some .variableDeclarator
  name : n.child? .id = some id
  isIdentifier : id.isIdentifier = true

/-- A declared function with its name. -/
structure NamesFunction (tree n id : Node) : Prop where
  mem : n ∈ tree.nodes
  kind : n.kind = some .functionDeclaration
  name : n.child? .id = some id

/-- A candidate of a kind holds a node under a label, with no other candidate in between. -/
def Claims (kind : Kind) (field : Field) (n m : Node) : Prop :=
  ∃ root, n.child? field = some root ∧ root.HoldsClear kind m

section Names

variable {tree n id m : Node} {kind : Kind} {field : Field}

theorem claims_iff {root : Node} (h : n.child? field = some root) :
    Claims kind field n m ↔ root.HoldsClear kind m := by
  constructor
  · rintro ⟨other, hother, hclear⟩
    exact Option.some.inj (hother.symm.trans h) ▸ hclear
  · exact fun hclear ↦ ⟨root, h, hclear⟩

theorem not_claims (h : n.child? field = none) : ¬ Claims kind field n m := by
  rintro ⟨root, hroot, -⟩
  exact absurd (hroot.symm.trans h) (by simp)

theorem Declares.mem (h : tree.Declares n id) : n ∈ tree.nodes := by
  obtain ⟨d, hd, -, hitem⟩ := h.declared
  exact mem_nodes_of_mem_branches hd (mem_items_iff.mp hitem)

/-- What a search for keys looks for. -/
theorem readsKey_iff : m.ReadsKey ↔ Recognition.readsChartKey m = true := by
  rw [Recognition.readsChartKey, isMemberCall, Bool.and_eq_true, Bool.and_eq_true]
  constructor
  · rintro ⟨hkind, callee, property, key, text, hcallee, hmember, hcomputed, hproperty, hnamed,
      hkey, hliteral, hvalue, hlength⟩
    simp [hasKind, hkind, hcallee, hmember, hcomputed, hproperty, hnamed, hkey, hliteral, hvalue,
      hlength, Recognition.chartKeyLength]
  · rintro ⟨⟨hkind, hcall⟩, hread⟩
    cases hcallee : m.child? .callee with
    | none => simp [hcallee] at hcall
    | some callee =>
      simp only [hcallee, Bool.and_eq_true, Bool.not_eq_true', Option.any_eq_true,
        Option.bind_some] at hcall hread
      obtain ⟨⟨hmember, hcomputed⟩, property, hproperty, hnamed⟩ := hcall
      cases hkey : callee.child? .object with
      | none => simp [hkey] at hread
      | some key =>
        simp only [hkey, Bool.and_eq_true] at hread
        obtain ⟨hliteral, htext⟩ := hread
        split at htext
        · rename_i text hvalue
          exact ⟨by simpa [hasKind] using hkind, callee, property, key, text, hcallee,
            by simpa [hasKind] using hmember, hcomputed, hproperty, hnamed, hkey,
            by simpa [hasKind] using hliteral, hvalue, of_decide_eq_true htext⟩
        · exact absurd htext (by simp)

theorem ReturnsGlobal.isNaming_eq_false (h : tree.ReturnsGlobal m) : m.isNaming = false := by
  simp [isNaming, isIdentifier, hasKind, h.1]

theorem ReadsKey.isNaming_eq_false (h : m.ReadsKey) : m.isNaming = false := by
  simp [isNaming, isIdentifier, hasKind, h.1]

end Names

section Unique

variable {tree m : Node} (hformed : tree.WellFormed) (hunshared : tree.Unshared)

include hformed hunshared

theorem declarator_eq_of_claims {n n' id id' : Node} (hn : tree.Declares n id)
    (hn' : tree.Declares n' id') (hm : tree.ReturnsGlobal m)
    (hclaims : Claims .variableDeclarator .init n m)
    (hclaims' : Claims .variableDeclarator .init n' m) : n = n' := by
  obtain ⟨root, hroot, hclear⟩ := hclaims
  obtain ⟨root', hroot', hclear'⟩ := hclaims'
  -- The declarators stand in declarations, and so not in the place of an initialiser.
  have hpart {a b root id id' : Node} (ha : tree.Declares a id) (hb : tree.Declares b id')
      (hroot : a.child? .init = some root) : b ≠ root := by
    rintro rfl
    obtain ⟨d, hd, -, hitem⟩ := hb.declared
    have hname : b.isNaming = false := by simp [isNaming, isIdentifier, hasKind, hb.kind]
    have hplace := hformed.parent_eq hunshared hname ha.mem hd (mem_branches_of_child? hroot)
      (mem_items_iff.mp hitem)
    exact absurd hplace.2 (by decide)
  exact hformed.eq_of_holdsClear hunshared hn.mem hn'.mem hn.kind hn'.kind
    (mem_branches_of_child? hroot) (mem_branches_of_child? hroot') (hpart hn hn' hroot)
    (hpart hn' hn hroot') hm.isNaming_eq_false (by simp [hm.1]) hclear hclear'

theorem function_eq_of_claims {n n' id id' : Node} (hn : tree.NamesFunction n id)
    (hn' : tree.NamesFunction n' id') (hm : m.ReadsKey)
    (hbody : ∀ body, n.child? .body = some body → body.kind ≠ some .functionDeclaration)
    (hbody' : ∀ body, n'.child? .body = some body → body.kind ≠ some .functionDeclaration)
    (hclaims : Claims .functionDeclaration .body n m)
    (hclaims' : Claims .functionDeclaration .body n' m) : n = n' := by
  obtain ⟨root, hroot, hclear⟩ := hclaims
  obtain ⟨root', hroot', hclear'⟩ := hclaims'
  refine hformed.eq_of_holdsClear hunshared hn.mem hn'.mem hn.kind hn'.kind
    (mem_branches_of_child? hroot) (mem_branches_of_child? hroot') ?_ ?_ hm.isNaming_eq_false
    (by simp [hm.1]) hclear hclear'
  · rintro rfl
    exact hbody _ hroot hn'.kind
  · rintro rfl
    exact hbody' _ hroot' hn.kind

end Unique

end Node

/-! ## What the idioms answer -/

/-- What a search for the global `atob` looks for. -/
theorem Store.Realises.returnsGlobal_iff {s : Store} {tree m : Node} (h : s.Realises tree)
    (hformed : tree.WellFormed) (hunshared : tree.Unshared) (hm : m ∈ tree.nodes) :
    tree.ReturnsGlobal m ↔ (m.hasKind .returnStatement &&
      (m.child? .argument).any fun a ↦ a.isNamed "atob" && s.isFree a) = true := by
  rw [Node.ReturnsGlobal, Bool.and_eq_true, Option.any_eq_true]
  refine and_congr (by simp [Node.hasKind]) (exists_congr fun a ↦ and_congr_right fun ha ↦ ?_)
  have hmem := Node.mem_nodes_of_mem_branches hm (Node.mem_branches_of_child? ha)
  rw [Bool.and_eq_true, h.isFree_iff hformed hunshared hmem]

namespace Recognition

/-- A recogniser asks for one name if something holds, and finds nothing if not. The registry stays
as it is. -/
structure Settles (answer : Answer) (registry : Registry) (request : Request) (P : Prop) :
    Prop where
  found : P → answer.run registry = (.ok (some [request]), registry)
  missed : ¬ P → answer.run registry = (.ok none, registry)

theorem Settles.isSome_iff {answer : Answer} {registry : Registry} {request : Request} {P : Prop}
    (h : Settles answer registry request P) :
    (answer.run registry).1.toOption.map Option.isSome = some true ↔ P := by
  by_cases hP : P
  · simp [hP, h.found hP, Except.toOption]
  · simp [hP, h.missed hP, Except.toOption]

section Search

variable {tree root : Node} {kind : Kind} {p : Node → Bool}

/-- A search comes to an end, and says whether its root holds what it looks for. -/
theorem exists_run_search (hformed : tree.WellFormed) (hunshared : tree.Unshared)
    (hroot : root ∈ tree.nodes) (hp : ∀ m, p m = true → m.isNaming = false) (registry : Registry) :
    ∃ found, (search (root.walk [kind]) p).run registry = (.ok found, registry) ∧
      (found = true ↔ ∃ m, root.HoldsClear kind m ∧ p m = true) := by
  have hfault : (root.walk [kind]).fault = none := Node.fault_walk fun n hn ↦
    hformed.isTyped n (Node.mem_nodes_trans hroot hn)
  refine ⟨(root.walk [kind]).visits.any fun visit ↦ p visit.node, ?_, ?_⟩
  · unfold search
    rw [hfault]
    cases (root.walk [kind]).visits.any fun visit ↦ p visit.node <;> rfl
  · rw [List.any_eq_true]
    constructor
    · rintro ⟨visit, hvisit, hfound⟩
      exact ⟨visit.node, (hformed.exists_visit_iff hunshared hroot (hp _ hfound)).mp
        ⟨visit, hvisit, rfl⟩, hfound⟩
    · rintro ⟨m, hclear, hfound⟩
      obtain ⟨visit, hvisit, rfl⟩ :=
        (hformed.exists_visit_iff hunshared hroot (hp m hfound)).mpr hclear
      exact ⟨visit, hvisit, hfound⟩

/-- A recogniser that searches a part of a candidate and asks for the candidate's name. -/
theorem settles_search {c : Context} {id : Node} {b : BindingId} (hformed : tree.WellFormed)
    (hunshared : tree.Unshared) (hroot : root ∈ tree.nodes)
    (hp : ∀ m, p m = true → m.isNaming = false) (hid : c.store.bindingOf? id = some b)
    (role : Role) (registry : Registry) :
    Settles (do if ← search (root.walk [kind]) p then askFor c id role else nothing) registry
      ⟨b, registry.nameFor role⟩ (∃ m, root.HoldsClear kind m ∧ p m = true) := by
  obtain ⟨found, hrun, hfound⟩ := exists_run_search hformed hunshared hroot hp registry
  rw [← hfound]
  constructor
  · rintro rfl
    rw [Issuing.run_bind, hrun]
    show (askFor c id role).run registry = _
    simp only [askFor, hid]
    rfl
  · intro hmissed
    rw [Bool.not_eq_true] at hmissed
    subst hmissed
    rw [Issuing.run_bind, hrun]
    rfl

end Search

section Recognisers

variable {tree n id : Node} {s : Store} {b : BindingId} (hformed : tree.WellFormed)
  (hunshared : tree.Unshared) (hid : s.bindingOf? id = some b)

include hformed hunshared hid

theorem settles_polyfillAccessor (hrealises : s.Realises tree) (hn : tree.Declares n id)
    (registry : Registry) :
    Settles (polyfillAccessor ⟨s, {}⟩ n) registry ⟨b, registry.nameFor .atobGetter⟩
      (∃ m, Node.Claims .variableDeclarator .init n m ∧ tree.ReturnsGlobal m) := by
  have hname : identifier? n .id = some id := by
    rw [identifier?, hn.name, Option.filter_some, if_pos hn.isIdentifier]
  unfold polyfillAccessor
  simp only [hname]
  cases hinit : n.child? .init with
  | none =>
    refine ⟨?_, fun _ ↦ rfl⟩
    rintro ⟨m, hclaims, -⟩
    exact absurd hclaims (Node.not_claims hinit)
  | some init =>
    have hmem := Node.mem_nodes_of_mem_branches hn.mem (Node.mem_branches_of_child? hinit)
    have hiff : (∃ m, Node.Claims .variableDeclarator .init n m ∧ tree.ReturnsGlobal m) ↔
        ∃ m, init.HoldsClear .variableDeclarator m ∧ (m.hasKind .returnStatement &&
          (m.child? .argument).any fun a ↦ a.isNamed "atob" && s.isFree a) = true := by
      refine exists_congr fun m ↦ ?_
      rw [Node.claims_iff hinit]
      refine and_congr_right fun hclear ↦ ?_
      exact hrealises.returnsGlobal_iff hformed hunshared (Node.mem_nodes_trans hmem hclear.mem)
    rw [hiff]
    refine settles_search (c := ⟨s, {}⟩) hformed hunshared hmem (fun m hm ↦ ?_) hid _ registry
    rw [Bool.and_eq_true] at hm
    have hkind : m.kind = some .returnStatement := by simpa [Node.hasKind] using hm.1
    simp [Node.isNaming, Node.isIdentifier, Node.hasKind, hkind]

theorem settles_chartDecode (hn : tree.NamesFunction n id) (registry : Registry) :
    Settles (chartDecode ⟨s, {}⟩ n) registry ⟨b, registry.nameFor .chartDecode⟩
      (∃ m, Node.Claims .functionDeclaration .body n m ∧ m.ReadsKey) := by
  have hname : identifier? n .id = some id := by
    rw [identifier?, hn.name, Option.filter_some,
      if_pos (hformed.isIdentifier_name hn.mem hn.kind hn.name)]
  unfold chartDecode
  simp only [hname]
  cases hbody : n.child? .body with
  | none =>
    refine ⟨?_, fun _ ↦ rfl⟩
    rintro ⟨m, hclaims, -⟩
    exact absurd hclaims (Node.not_claims hbody)
  | some body =>
    have hmem := Node.mem_nodes_of_mem_branches hn.mem (Node.mem_branches_of_child? hbody)
    simp only [Node.claims_iff hbody, Node.readsKey_iff]
    exact settles_search (c := ⟨s, {}⟩) hformed hunshared hmem
      (fun m hm ↦ (Node.readsKey_iff.mpr hm).isNaming_eq_false) hid _ registry

end Recognisers

end Recognition

namespace Store.Realises

variable {s : Store} {tree n id : Node} (h : s.Realises tree)

include h

/-- The identifier that a declarator declares has a binding. -/
theorem exists_binding_of_declares (hn : tree.Declares n id) : ∃ b, s.bindingOf? id = some b := by
  obtain ⟨d, hd, hkind, hitem⟩ := hn.declared
  obtain ⟨c, hreaches⟩ := Standing.exists_reaches hd (Lexical.top tree)
  have hdeclarator := hreaches.child (Node.mem_items_iff.mp hitem)
  have hname := hdeclarator.child (Node.mem_branches_of_child? hn.name)
  have hpart : Standing.isPart n .id = true := by simp [Standing.isPart, hn.kind]
  have huse : ((c.below d .declarations n).below n .id id).use = .binds
      (if d.head.variety == some "var" then c.hoist? else c.scopes.head?)
      (.declaration d.head.variety) := by
    rw [Standing.below_of_isPart hpart]
    simp [Standing.below, Standing.useUnder, hkind]
  obtain ⟨b, -, -, -, hb⟩ :=
    h.exists_binding (Lexical.mem_declarations_of_reaches hname hn.isIdentifier huse)
  exact ⟨b, hb⟩

theorem exists_binding_of_namesFunction (hformed : tree.WellFormed) (hunshared : tree.Unshared)
    (hn : tree.NamesFunction n id) : ∃ b, s.bindingOf? id = some b := by
  obtain ⟨b, hb, -⟩ := h.exists_name hunshared hn.mem hn.kind hn.name
    (hformed.isIdentifier_name hn.mem hn.kind hn.name)
  exact ⟨b, hb⟩

end Store.Realises

/-- An idiom that looks for a shape inside its candidates asks for the name of the innermost one.
In a well-formed program without shared nodes, also after renames, a declarator of a plain name is
known for an accessor just if its initialiser holds a return statement of the unbound `atob` with
no declarator in between, and a declared function for a decoder just if its body holds a call that
reads a key with no declared function in between. Each such statement is claimed by one declarator
at most, and each such call by one function at most. -/
theorem settles_innermost {tree : Node} {s : Store} {engine : Engine} (hformed : tree.WellFormed)
    (hunshared : tree.Unshared) (hkeys : tree.KeysApart) (h : engine.Reachable tree s)
    (registry : Registry) :
    (∀ n id, tree.Declares n id → ∃ b, s.bindingOf? id = some b ∧
      Recognition.Settles
        (Idiom.polyfillAccessor.recognise ⟨engine.store, engine.edits⟩ (engine.edits.apply n))
        registry ⟨b, registry.nameFor .atobGetter⟩
        (∃ m, Node.Claims .variableDeclarator .init n m ∧ tree.ReturnsGlobal m)) ∧
    (∀ n id, tree.NamesFunction n id → ∃ b, s.bindingOf? id = some b ∧
      Recognition.Settles
        (Idiom.chartDecode.recognise ⟨engine.store, engine.edits⟩ (engine.edits.apply n))
        registry ⟨b, registry.nameFor .chartDecode⟩
        (∃ m, Node.Claims .functionDeclaration .body n m ∧ m.ReadsKey)) ∧
    (∀ m, tree.ReturnsGlobal m → ∀ n id n' id', tree.Declares n id → tree.Declares n' id' →
      Node.Claims .variableDeclarator .init n m → Node.Claims .variableDeclarator .init n' m →
        n = n') ∧
    ∀ m, m.ReadsKey → ∀ n id n' id', tree.NamesFunction n id → tree.NamesFunction n' id' →
      (∀ body, n.child? .body = some body → body.kind ≠ some .functionDeclaration) →
      (∀ body, n'.child? .body = some body → body.kind ≠ some .functionDeclaration) →
      Node.Claims .functionDeclaration .body n m → Node.Claims .functionDeclaration .body n' m →
        n = n' := by
  have hrealises := Store.realises_of_analyze h.analyze hformed hunshared
  have hrenamed := h.renamed hunshared hkeys
  refine ⟨fun n id hn ↦ ?_, fun n id hn ↦ ?_, fun m hm n id n' id' hn hn' ↦ ?_,
    fun m hm n id n' id' hn hn' ↦ ?_⟩
  · obtain ⟨b, hb⟩ := hrealises.exists_binding_of_declares hn
    refine ⟨b, hb, ?_⟩
    rw [Idiom.recognise_apply hrenamed hkeys (by decide) hn.mem]
    exact Recognition.settles_polyfillAccessor hformed hunshared hb hrealises hn registry
  · obtain ⟨b, hb⟩ := hrealises.exists_binding_of_namesFunction hformed hunshared hn
    refine ⟨b, hb, ?_⟩
    rw [Idiom.recognise_apply hrenamed hkeys (by decide) hn.mem]
    exact Recognition.settles_chartDecode hformed hunshared hb hn registry
  · exact Node.declarator_eq_of_claims hformed hunshared hn hn' hm
  · exact Node.function_eq_of_claims hformed hunshared hn hn' hm

namespace Sample

/-- `q = function () { return atob; }`, as it stands after `var`. -/
def innerAccessor : Node :=
  node 8 .variableDeclarator [(.id, some (name 9 "q")),
    (.init, some (node 10 .functionExpression [(.body, some (node 11 .blockStatement
      [(.body, some (node 12 .returnStatement [(.argument, some (name 13 "atob"))]))]))]))]

def innerDeclaration : Node :=
  .mk { id := ⟨7, false⟩, kind := some .variableDeclaration, variety := some "var" }
    [(.declarations, some innerAccessor)]

/-- `p = function () { var q = function () { return atob; }; }` -/
def outerAccessor : Node :=
  node 3 .variableDeclarator [(.id, some (name 4 "p")),
    (.init, some (node 5 .functionExpression [(.body, some (node 6 .blockStatement
      [(.body, some innerDeclaration)]))]))]

def outerDeclaration : Node :=
  .mk { id := ⟨2, false⟩, kind := some .variableDeclaration, variety := some "var" }
    [(.declarations, some outerAccessor)]

/-- `function f() { return "decoder".charCodeAt(); }` -/
def decoder : Node :=
  node 14 .functionDeclaration [(.id, some (name 15 "f")), (.body, some (node 16 .blockStatement
    [(.body, some (node 17 .returnStatement [(.argument, some (node 18 .callExpression
      [(.callee, some (node 19 .memberExpression
        [(.object, some (.mk
          { id := ⟨20, false⟩, kind := some .literal, value := some (.text "decoder") } [])),
          (.property, some (name 21 "charCodeAt"))]))]))]))]))]

def nestedAccessors : Node :=
  node 0 .program [(.body, some outerDeclaration), (.body, some decoder)]

end Sample

/-- The declarator inside another one is known for the accessor, also after the outer variable was
renamed, and the outer one is not. -/
theorem settles_innermost_nestedAccessors :
    ∃ (s : Store) (m : Node), Store.analyze Sample.nestedAccessors = .ok s ∧
      Sample.nestedAccessors.WellFormed ∧ Sample.nestedAccessors.Unshared ∧
      Sample.nestedAccessors.KeysApart ∧ Sample.nestedAccessors.ReturnsGlobal m ∧
      Node.Claims .variableDeclarator .init Sample.innerAccessor m ∧
      (∀ n id, Sample.nestedAccessors.Declares n id → Node.Claims .variableDeclarator .init n m →
        n = Sample.innerAccessor) ∧
      (¬ ∃ m, Node.Claims .variableDeclarator .init Sample.outerAccessor m ∧
        Sample.nestedAccessors.ReturnsGlobal m) ∧
      ∃ m, Node.Claims .functionDeclaration .body Sample.decoder m ∧ m.ReadsKey := by
  let registry : Registry := ⟨"___", Role.defaultDescriptor, [], {}⟩
  have hobserved : ((Store.analyze Sample.nestedAccessors).toOption.map fun s ↦
      let engine := ({ store := s } : Engine).calls Sample.nestedAccessors [.rename 0 "z"]
      let answer (idiom : Idiom) (n : Node) :=
        ((idiom.recognise ⟨engine.store, engine.edits⟩ (engine.edits.apply n)).run
          registry).1.toOption.map Option.isSome
      (answer .polyfillAccessor Sample.innerAccessor, answer .polyfillAccessor Sample.outerAccessor,
        answer .chartDecode Sample.decoder)) = some (some true, some false, some true) := by
    decide +kernel
  obtain ⟨s, hs, hseen⟩ := Option.map_eq_some_iff.mp hobserved
  rw [toOption_eq_some_iff] at hs
  obtain ⟨hinner, houter, hdecoder⟩ : _ ∧ _ ∧ _ := by simpa only [Prod.mk.injEq] using hseen
  have hformed : Sample.nestedAccessors.WellFormed := ⟨rfl, by decide +kernel⟩
  have hunshared : Sample.nestedAccessors.Unshared := Node.unshared_of_nodup (by decide +kernel)
  have hkeys : Sample.nestedAccessors.KeysApart := by decide +kernel
  obtain ⟨haccessor, hdecodes, hunique, -⟩ := settles_innermost hformed hunshared hkeys
    ⟨hs, [.rename 0 "z"], rfl⟩ registry
  have hdeclares : Sample.nestedAccessors.Declares Sample.innerAccessor (Sample.name 9 "q") :=
    ⟨⟨Sample.innerDeclaration, List.mem_of_getElem? (i := 6) rfl, rfl, List.mem_singleton_self _⟩,
      rfl, rfl, rfl⟩
  have hdeclares' : Sample.nestedAccessors.Declares Sample.outerAccessor (Sample.name 4 "p") :=
    ⟨⟨Sample.outerDeclaration, List.mem_of_getElem? (i := 1) rfl, rfl, List.mem_singleton_self _⟩,
      rfl, rfl, rfl⟩
  have hnames : Sample.nestedAccessors.NamesFunction Sample.decoder (Sample.name 15 "f") :=
    ⟨List.mem_of_getElem? (i := 13) rfl, rfl, rfl⟩
  obtain ⟨_, -, hsettles⟩ := haccessor _ _ hdeclares
  obtain ⟨_, -, hsettles'⟩ := haccessor _ _ hdeclares'
  obtain ⟨_, -, hreads⟩ := hdecodes _ _ hnames
  obtain ⟨m, hclaims, hm⟩ := hsettles.isSome_iff.mp hinner
  refine ⟨s, m, hs, hformed, hunshared, hkeys, hm, hclaims, fun n id hn hother ↦ ?_,
    fun hfound ↦ ?_, hreads.isSome_iff.mp hdecoder⟩
  · exact hunique m hm n id _ _ hn hdeclares hother hclaims
  · exact absurd (houter.symm.trans (hsettles'.isSome_iff.mpr hfound)) (by simp)

end Relabel
