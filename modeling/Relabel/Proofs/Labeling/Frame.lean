import Relabel.Proofs.Labeling.Renames
import Relabel.Proofs.Labeling.Structure
import Relabel.Proofs.Scope.Occurrence

/-!
# Labelling only renames

The edited program is the program with the identifiers of renamed bindings respelled and the
shorthand properties written out whose value was renamed. Nothing else differs. This is said as one
equation between trees, in which the only parameters are the analysis of the program and the list of
requests that were granted.
-/

namespace Relabel

namespace Node

/-- The key of every shorthand property is spelled like its value. -/
def SpellsKeys (tree : Node) : Prop :=
  ∀ p ∈ tree.nodes, p.kind = some .property → p.head.shorthand = true →
    (p.child? .key).bind (·.head.name) = p.carried?.bind (·.head.name)

/-- The identities that are kept for the keys of shorthand properties are not in use. -/
def ReservesKeys (tree : Node) : Prop :=
  ∀ p ∈ tree.nodes, p.kind = some .property → p.head.shorthand = true →
    ∀ n ∈ tree.nodes, n.id ≠ ⟨p.id.index, true⟩

instance (tree : Node) : Decidable tree.SpellsKeys :=
  inferInstanceAs (Decidable (∀ p ∈ tree.nodes, p.kind = some .property →
    p.head.shorthand = true →
      (p.child? .key).bind (·.head.name) = p.carried?.bind (·.head.name)))

instance (tree : Node) : Decidable tree.ReservesKeys :=
  inferInstanceAs (Decidable (∀ p ∈ tree.nodes, p.kind = some .property →
    p.head.shorthand = true → ∀ n ∈ tree.nodes, n.id ≠ ⟨p.id.index, true⟩))

/-- A new identifier spelled like the key of a property. -/
def keyApart (p : Node) : Node :=
  .mk { id := ⟨p.id.index, true⟩, kind := some .identifier,
        name := (p.child? .key).bind (·.head.name) } []

end Node

theorem Node.mem_nodes_of_carried? {tree p n : Node} (hp : p ∈ tree.nodes)
    (hcarried : p.carried? = some n) : n ∈ tree.nodes := by
  obtain ⟨value, hvalue, htarget⟩ := Option.bind_eq_some_iff.mp hcarried
  have hmem := mem_nodes_of_mem_branches hp (mem_branches_of_child? hvalue)
  split at htarget
  · exact mem_nodes_of_mem_branches hmem (mem_branches_of_child? htarget)
  · exact Option.some.inj htarget ▸ hmem

namespace Store

/-- The name that a node takes as a site of a binding, if requests give one to the binding. -/
def newName? (s : Store) (requests : List Request) (n : Node) : Option String :=
  (s.bindingOf? n).bind (lastName? requests)

/-- Whether a shorthand property carries an identifier that was renamed. -/
def writesOut (s : Store) (requests : List Request) (p : Node) : Bool :=
  p.hasKind .property && p.head.shorthand && p.carried?.any fun n ↦
    (s.newName? requests n).isSome

/-- A program after requests were granted. -/
def relabel (s : Store) (requests : List Request) : Node → Node :=
  Node.fold fun n parts ↦
    .mk { n.head with
      name := (s.newName? requests n).or n.head.name
      shorthand := n.head.shorthand && !s.writesOut requests n }
    (if s.writesOut requests n && Edits.sharesKey n then
      parts.map fun part ↦ if part.1 = .key ∧ part.2.isSome then (.key, some n.keyApart) else part
    else parts)

end Store

/-! ## What is written out -/

namespace Store

theorem writtenOut_respellSite (b : Binding) (name : String) (e : Edits) (site : Site)
    {p : Node} (hsame : ∀ q, site.owner = some q → q.id = p.id → q = p) :
    (respellSite b name e site).writtenOut.get? p.id = (e.writtenOut.get? p.id).or
      (if b.renamed = false ∧ site.owner.any (·.id == p.id) = true then
        some (if Edits.sharesKey p then some b.name else none) else none) := by
  unfold respellSite Edits.respell
  cases howner : site.owner with
  | none => simp
  | some q =>
    by_cases hrenamed : b.renamed = true
    · simp [hrenamed]
    · simp only [hrenamed, Bool.false_eq_true, if_false, Edits.writeOut, Option.any_some,
        Table.contains_eq_isSome, beq_iff_eq, true_and]
      by_cases hid : q.id = p.id
      · obtain rfl := hsame q howner hid
        cases hold : e.writtenOut.get? q.id <;> simp [hold]
      · by_cases hold : (e.writtenOut.get? q.id).isSome = true
        · simp [hold, hid]
        · simp [hold, hid, Table.get?_set]

theorem writtenOut_respellSites (b : Binding) (name : String) (e : Edits) {p : Node}
    (hsame : ∀ site ∈ b.sites, ∀ q, site.owner = some q → q.id = p.id → q = p) :
    (respellSites b name e).writtenOut.get? p.id = (e.writtenOut.get? p.id).or
      (if b.renamed = false ∧ (b.sites.any fun site ↦ site.owner.any (·.id == p.id)) = true then
        some (if Edits.sharesKey p then some b.name else none) else none) := by
  rw [respellSites_eq]
  generalize b.sites = sites at hsame ⊢
  induction sites generalizing e with
  | nil => simp
  | cons site rest ih =>
    rw [List.foldl_cons, ih _ fun other hother ↦ hsame other (List.mem_cons_of_mem site hother),
      writtenOut_respellSite b name e site (hsame site List.mem_cons_self), Option.or_assoc,
      List.any_cons]
    congr 1
    by_cases hrenamed : b.renamed = false
    · by_cases hhere : site.owner.any (·.id == p.id) = true
      · simp [hrenamed, hhere]
      · simp [hrenamed, hhere]
    · simp [hrenamed]

section Granted

variable {s live : Store} {tree : Node} {requests : List Request} {e : Edits}

theorem Grants.owners_eq (h : s.Grants requests live e) : live.owners = s.owners :=
  (h.preserves (preserved_kept s) (Kept.refl s)).owners

/-- The identifiers of a binding before and after. -/
theorem Grants.mem_sites_iff (h : s.Grants requests live e) (hcovers : s.Covers tree)
    {id : BindingId} {b : Binding} (hb : live.bindings[id]? = some b) (x : NodeId) :
    x ∈ b.sites.map Site.id ↔ s.owners.get? x = some id := by
  rw [h.bindings] at hb
  obtain ⟨old, hold, rfl⟩ := Option.map_eq_some_iff.mp hb
  rw [hcovers.owns_iff, sites_granted]
  constructor
  · exact fun hx ↦ ⟨old, hold, hx⟩
  · rintro ⟨other, hother, hx⟩
    obtain rfl : old = other := Option.some.inj (hold.symm.trans hother)
    exact hx

/-- An identifier is spelled with the last name that its binding was given. -/
theorem Grants.spellings (h : s.Grants requests live e) (hcovers : s.Covers tree) (x : NodeId) :
    e.spellings.get? x = (s.owners.get? x).bind (lastName? requests) := by
  induction h with
  | start => cases s.owners.get? x <;> rfl
  | @more requests live _ e _ b request hgrants hb hne hrename ih =>
    obtain ⟨-, rfl⟩ := eq_of_rename_eq_ok hb hne hrename
    rw [spellings_respellSites, ih]
    simp only [hgrants.mem_sites_iff hcovers hb]
    cases howner : s.owners.get? x with
    | none => simp
    | some id =>
      simp only [Option.bind_some, lastName?_append_singleton, Option.some.injEq]
      by_cases hid : id = request.binding
      · rw [if_pos hid, if_pos hid.symm]
      · rw [if_neg hid, if_neg (Ne.symm hid)]

theorem writesOut_iff {p : Node} : s.writesOut requests p = true ↔
    p.kind = some .property ∧ p.head.shorthand = true ∧ ∃ n id, p.carried? = some n ∧
      s.bindingOf? n = some id ∧ (lastName? requests id).isSome = true := by
  simp only [writesOut, newName?, Bool.and_eq_true, Node.hasKind, beq_iff_eq, Option.any_eq_true,
    Option.isSome_iff_exists, Option.bind_eq_some_iff, and_assoc]
  grind

/-- One more request writes out the properties whose values belong to its binding. -/
theorem writesOut_append_singleton_iff {p : Node} (request : Request) :
    s.writesOut (requests ++ [request]) p = true ↔ s.writesOut requests p = true ∨
      p.kind = some .property ∧ p.head.shorthand = true ∧ ∃ n, p.carried? = some n ∧
        s.bindingOf? n = some request.binding := by
  simp only [writesOut_iff, isSome_lastName?_append_singleton]
  grind

/-- A property is noted with a site of a binding if it is a shorthand for an identifier of it. -/
theorem Grants.any_owner_iff (h : s.Grants requests live e) (hcovers : s.Covers tree)
    (hunshared : tree.Unshared) {id : BindingId} {b : Binding} (hb : live.bindings[id]? = some b)
    {p : Node} (hp : p ∈ tree.nodes) :
    (b.sites.any fun site ↦ site.owner.any (·.id == p.id)) = true ↔
      p.kind = some .property ∧ p.head.shorthand = true ∧
        ∃ n, p.carried? = some n ∧ s.bindingOf? n = some id := by
  have hsites := h.mem_sites_iff hcovers hb
  rw [h.bindings] at hb
  obtain ⟨old, hold, rfl⟩ := Option.map_eq_some_iff.mp hb
  rw [sites_granted] at hsites ⊢
  simp only [List.any_eq_true, Option.any_eq_true, beq_iff_eq]
  constructor
  · rintro ⟨site, hsite, q, howner, hid⟩
    obtain ⟨hq, hkind, hshorthand, hcarried⟩ :=
      (hcovers.carrier_iff id old hold site hsite q).mp howner
    obtain rfl := hunshared.identity q hq p hp hid
    refine ⟨hkind, hshorthand, site.identifier, hcarried, ?_⟩
    rw [hcovers.bindingOf?_eq hunshared (hcovers.sound id old hold site hsite).1]
    exact (hsites site.id).mp (List.mem_map.mpr ⟨site, hsite, rfl⟩)
  · rintro ⟨hkind, hshorthand, n, hcarried, hbinding⟩
    have hn := Node.mem_nodes_of_carried? hp hcarried
    rw [hcovers.bindingOf?_eq hunshared hn, ← hsites] at hbinding
    obtain ⟨site, hsite, hid⟩ := List.mem_map.mp hbinding
    obtain rfl := hunshared.identity _ (hcovers.sound id old hold site hsite).1 n hn hid
    exact ⟨site, hsite, p, (hcovers.carrier_iff id old hold site hsite p).mpr
      ⟨hp, hkind, hshorthand, hcarried⟩, rfl⟩

/-- A property is written out with the name that its identifier had in the program. -/
theorem Grants.writtenOut (h : s.Grants requests live e) (hcovers : s.Covers tree)
    (hunshared : tree.Unshared) {p : Node} (hp : p ∈ tree.nodes) :
    e.writtenOut.get? p.id = if s.writesOut requests p = true then
      some (if Edits.sharesKey p then p.carried?.bind (·.head.name) else none) else none := by
  induction h with
  | start =>
    have hnone : ¬ s.writesOut [] p = true := by simp [writesOut_iff]
    rw [if_neg hnone]
    rfl
  | @more requests live _ e _ b request hgrants hb hne hrename ih =>
    obtain ⟨-, rfl⟩ := eq_of_rename_eq_ok hb hne hrename
    have hany := hgrants.any_owner_iff hcovers hunshared hb hp
    rw [hgrants.bindings] at hb
    obtain ⟨old, hold, rfl⟩ := Option.map_eq_some_iff.mp hb
    have hsame : ∀ site ∈ (granted requests request.binding old).sites, ∀ q,
        site.owner = some q → q.id = p.id → q = p := by
      intro site hsite q howner hid
      rw [sites_granted] at hsite
      have hq := ((hcovers.carrier_iff _ old hold site hsite q).mp howner).1
      exact hunshared.identity q hq p hp hid
    rw [writtenOut_respellSites _ _ _ hsame, ih]
    simp only [hany, writesOut_append_singleton_iff]
    by_cases hbefore : s.writesOut requests p = true
    · simp [hbefore]
    by_cases hhere : p.kind = some .property ∧ p.head.shorthand = true ∧
        ∃ n, p.carried? = some n ∧ s.bindingOf? n = some request.binding
    · obtain ⟨hkind, hshorthand, n, hcarried, hbinding⟩ := hhere
      have hn := Node.mem_nodes_of_carried? hp hcarried
      -- A binding that is renamed for the first time still has the name of the program.
      have hfirst : lastName? requests request.binding = none := by
        rw [← Option.not_isSome_iff_eq_none]
        exact fun hsome ↦ hbefore
          (writesOut_iff.mpr ⟨hkind, hshorthand, n, _, hcarried, hbinding, hsome⟩)
      have hgranted : granted requests request.binding old = old := by rw [granted, hfirst]
      have hrenamed := (hcovers.named request.binding old hold).1
      obtain ⟨other, hother, hname⟩ := hcovers.exists_name hunshared hn hbinding
      obtain rfl : old = other := Option.some.inj (hold.symm.trans hother)
      simp [hbefore, hgranted, hrenamed, hkind, hshorthand, hcarried, hbinding, hname]
    · simp [hbefore, hhere]

theorem relabel_eq (s : Store) (requests : List Request) (n : Node) :
    s.relabel requests n = .mk { n.head with
        name := (s.newName? requests n).or n.head.name
        shorthand := n.head.shorthand && !s.writesOut requests n }
      (if s.writesOut requests n && Edits.sharesKey n then
        (n.branches.map fun part ↦ (part.1, part.2.map (s.relabel requests))).map fun part ↦
          if part.1 = .key ∧ part.2.isSome then (.key, some n.keyApart) else part
      else n.branches.map fun part ↦ (part.1, part.2.map (s.relabel requests))) := by
  rw [relabel, Node.fold_eq]

end Granted

end Store

namespace Node.WellFormed

variable {tree p : Node}

theorem isIdentifier_key (h : tree.WellFormed) (hp : p ∈ tree.nodes)
    (hkind : p.kind = some .property) (hshorthand : p.head.shorthand = true) {key : Node}
    (hkey : p.child? .key = some key) : p.head.computed = false ∧ key.isIdentifier = true := by
  have hadmits := admits_of_isShaped (h.shaped p hp) (mem_branches_of_child? hkey)
  cases hcomputed : p.head.computed with
  | true => simp [admits, hkind, hcomputed, hshorthand] at hadmits
  | false => simpa [admits, hkind, hcomputed, hshorthand] using hadmits

/-- A key in two places is the identifier that its property carries. -/
theorem key_eq_carried? (h : tree.WellFormed) (hunshared : tree.Unshared) (hp : p ∈ tree.nodes)
    (hkind : p.kind = some .property) (hshorthand : p.head.shorthand = true)
    (hshares : Edits.sharesKey p = true) : p.child? .key = p.carried? := by
  obtain ⟨key, value, hkey, hvalue, hsame⟩ := sharesKey_iff.mp hshares
  have hkeyMem := mem_nodes_of_mem_branches hp (mem_branches_of_child? hkey)
  have hvalueMem := mem_nodes_of_mem_branches hp (mem_branches_of_child? hvalue)
  rcases hsame with hsame | ⟨hpattern, target, htarget, hsame⟩
  · obtain rfl := hunshared.identity key hkeyMem value hvalueMem hsame
    have hidentifier := (h.isIdentifier_key hp hkind hshorthand hkey).2
    rw [isIdentifier_iff] at hidentifier
    simp [carried?, hkey, hvalue, hasKind, hidentifier]
  · have htargetMem := mem_nodes_of_mem_branches hvalueMem (mem_branches_of_child? htarget)
    obtain rfl := hunshared.identity target htargetMem key hkeyMem hsame
    simp [carried?, hkey, hvalue, hasKind, hpattern, htarget]

/-- A key in a place of its own is a name, and belongs to no binding. -/
theorem owner_key_eq_none (h : tree.WellFormed) {s : Store} (hcovers : s.Covers tree)
    (hp : p ∈ tree.nodes) (hkind : p.kind = some .property) (hshorthand : p.head.shorthand = true)
    (hshares : Edits.sharesKey p = false) {key : Node} (hkey : p.child? .key = some key) :
    s.owners.get? key.id = none := by
  have hcomputed := (h.isIdentifier_key hp hkind hshorthand hkey).1
  apply hcovers.naming ⟨p, .key, key⟩ (mem_edges_iff.mpr ⟨hp, mem_branches_of_child? hkey⟩)
  · simp [Edge.isLent, hkind, hshares]
  · simp [Task.isPropertyName, hkind, hcomputed]

theorem exists_name_of_carried? (h : tree.WellFormed) (hp : p ∈ tree.nodes)
    (hkind : p.kind = some .property) (hshorthand : p.head.shorthand = true) {n : Node}
    (hcarried : p.carried? = some n) : ∃ name, n.head.name = some name :=
  exists_name_of_isShaped (h.shaped n (mem_nodes_of_carried? hp hcarried))
    (h.isIdentifier_of_carried? hp hkind hshorthand hcarried)

end Node.WellFormed

/-! ## The edited program -/

namespace Store.Grants

variable {s live : Store} {tree n : Node} {requests : List Request} {e : Edits}

theorem newName?_eq (h : s.Grants requests live e) (hcovers : s.Covers tree)
    (hunshared : tree.Unshared) (hn : n ∈ tree.nodes) :
    s.newName? requests n = e.spellings.get? n.id := by
  rw [newName?, hcovers.bindingOf?_eq hunshared hn, h.spellings hcovers]

theorem spelling?_eq (h : s.Grants requests live e) (hcovers : s.Covers tree)
    (hunshared : tree.Unshared) (hn : n ∈ tree.nodes) :
    e.spelling? n.head = (s.newName? requests n).or n.head.name := by
  rw [h.newName?_eq hcovers hunshared hn]
  rfl

/-- An identifier of a binding is spelled with the name that the binding has. -/
theorem name_apply (h : s.Grants requests live e) (hcovers : s.Covers tree)
    (hunshared : tree.Unshared) (hn : n ∈ tree.nodes) {id : BindingId}
    (hid : s.bindingOf? n = some id) :
    (e.apply n).head.name = live.bindings[id]?.map (·.name) := by
  have hspelled : (e.apply n).head.name = (lastName? requests id).or n.head.name := by
    have hnew : s.newName? requests n = lastName? requests id := by
      rw [newName?, hid, Option.bind_some]
    rw [Edits.head_apply, ← hnew]
    exact h.spelling?_eq hcovers hunshared hn
  obtain ⟨b, hb, hname⟩ := hcovers.exists_name hunshared hn hid
  rw [hspelled, h.bindings, hb, hname]
  unfold granted
  cases lastName? requests id <;> rfl

theorem applyHead_eq (h : s.Grants requests live e) (hcovers : s.Covers tree)
    (hunshared : tree.Unshared) (hn : n ∈ tree.nodes) :
    e.applyHead n.head = { n.head with
      name := (s.newName? requests n).or n.head.name
      shorthand := n.head.shorthand && !s.writesOut requests n } := by
  have hout : e.writtenOut.contains n.id = s.writesOut requests n := by
    rw [Table.contains_eq_isSome, h.writtenOut hcovers hunshared hn]
    cases s.writesOut requests n <;> rfl
  rw [Edits.applyHead, h.spelling?_eq hcovers hunshared hn, ← hout]
  rfl

/-- The new key of a property that is written out has the spelling of the old one. -/
theorem exists_newKey_eq (h : s.Grants requests live e) (hcovers : s.Covers tree)
    (hformed : tree.WellFormed) (hunshared : tree.Unshared) (hreserves : tree.ReservesKeys)
    (hn : n ∈ tree.nodes) (hout : s.writesOut requests n = true)
    (hshares : Edits.sharesKey n = true) :
    ∃ name, e.writtenOut.get? n.id = some (some name) ∧ e.newKey n.id name = n.keyApart := by
  obtain ⟨hkind, hshorthand, carried, id, hcarried, -, -⟩ := writesOut_iff.mp hout
  obtain ⟨name, hname⟩ := hformed.exists_name_of_carried? hn hkind hshorthand hcarried
  have hkey := hformed.key_eq_carried? hunshared hn hkind hshorthand hshares
  have hfresh : e.spellings.get? ⟨n.id.index, true⟩ = none := by
    rw [h.spellings hcovers, hcovers.owner_eq_none_of_not_mem (hreserves n hn hkind hshorthand)]
    rfl
  refine ⟨name, ?_, ?_⟩
  · rw [h.writtenOut hcovers hunshared hn, if_pos hout, if_pos hshares, hcarried, Option.bind_some,
      hname]
  · rw [Node.keyApart, hkey, hcarried]
    simp [Edits.newKey, Edits.applyHead, Edits.spelling?, hfresh, hname]

theorem keepsKey (h : s.Grants requests live e) (hcovers : s.Covers tree)
    (hunshared : tree.Unshared) (hn : n ∈ tree.nodes)
    (hkept : ¬ (s.writesOut requests n = true ∧ Edits.sharesKey n = true)) : e.KeepsKey n := by
  intro name hname
  rw [h.writtenOut hcovers hunshared hn, Option.ite_none_right_eq_some, Option.some.injEq,
    Option.ite_none_right_eq_some] at hname
  exact hkept ⟨hname.1, hname.2.1⟩

/-- A part of a program in which nothing was respelled is as it was. -/
theorem apply_eq_self (h : s.Grants requests live e) (hcovers : s.Covers tree)
    (hunshared : tree.Unshared) (hn : n ∈ tree.nodes) (hkeys : ∀ m ∈ n.nodes, e.KeepsKey m)
    (hplain : ∀ m ∈ n.nodes, e.spellings.get? m.id = none) : e.apply n = n := by
  induction n using Node.induction with
  | step n ih =>
    have hnew {m : Node} (hm : m ∈ n.nodes) : s.newName? requests m = none := by
      rw [h.newName?_eq hcovers hunshared (Node.mem_nodes_trans hn hm), hplain m hm]
    have hout : s.writesOut requests n = false := by
      rw [← Bool.not_eq_true, writesOut_iff]
      rintro ⟨-, -, m, id, hcarried, hid, hname⟩
      have hplain := hnew (Node.mem_nodes_of_carried? n.mem_nodes_self hcarried)
      rw [newName?, hid, Option.bind_some] at hplain
      simp [hplain] at hname
    have hhead : (e.apply n).head = n.head := by
      rw [Edits.head_apply, h.applyHead_eq hcovers hunshared hn, hnew n.mem_nodes_self, hout]
      simp
    have hbranches : (e.apply n).branches = n.branches := by
      rw [(hkeys n n.mem_nodes_self).branches_apply]
      refine (List.map_congr_left ?_).trans (List.map_id _)
      rintro ⟨field, child⟩ hbranch
      cases child with
      | none => rfl
      | some child =>
        have hbelow {m : Node} (hm : m ∈ child.nodes) : m ∈ n.nodes :=
          Node.mem_nodes_iff.mpr (.inr ⟨field, child, hbranch, hm⟩)
        rw [Option.map_some, ih field child hbranch (Node.mem_nodes_of_mem_branches hn hbranch)
          (fun m hm ↦ hkeys m (hbelow hm)) fun m hm ↦ hplain m (hbelow hm)]
        rfl
    generalize e.apply n = edited at hhead hbranches
    rcases n with ⟨head, branches⟩
    rcases edited with ⟨_, _⟩
    exact congrArg₂ Node.mk hhead hbranches

theorem withKey_eq (h : s.Grants requests live e) (hcovers : s.Covers tree)
    (hformed : tree.WellFormed) (hunshared : tree.Unshared) (hreserves : tree.ReservesKeys)
    (hn : n ∈ tree.nodes) (parts : List (Field × Option Node)) :
    e.withKey n.id parts =
      if s.writesOut requests n && Edits.sharesKey n then
        parts.map fun part ↦
          if part.1 = .key ∧ part.2.isSome then (.key, some n.keyApart) else part
      else parts := by
  unfold Edits.withKey
  by_cases hnew : s.writesOut requests n = true ∧ Edits.sharesKey n = true
  · obtain ⟨name, hname, hkey⟩ :=
      h.exists_newKey_eq hcovers hformed hunshared hreserves hn hnew.1 hnew.2
    simp [hname, hkey, hnew]
  · have hkeeps := h.keepsKey hcovers hunshared hn hnew
    rw [if_neg (by simpa using hnew)]
    split
    · rename_i name hname
      exact absurd hname (hkeeps name)
    · rfl

/-- The edited program is the program after the requests that were granted. -/
theorem apply_eq_relabel (h : s.Grants requests live e) (hcovers : s.Covers tree)
    (hformed : tree.WellFormed) (hunshared : tree.Unshared) (hreserves : tree.ReservesKeys)
    (hn : n ∈ tree.nodes) : e.apply n = s.relabel requests n := by
  induction n using Node.induction with
  | step n ih =>
    have hparts : (n.branches.map fun part ↦ (part.1, part.2.map e.apply)) =
        n.branches.map fun part ↦ (part.1, part.2.map (s.relabel requests)) := by
      apply List.map_congr_left
      rintro ⟨field, child⟩ hbranch
      cases child with
      | none => rfl
      | some child =>
        rw [Option.map_some, Option.map_some,
          ih field child hbranch (Node.mem_nodes_of_mem_branches hn hbranch)]
    rw [Edits.apply_eq, relabel_eq, hparts, h.applyHead_eq hcovers hunshared hn,
      h.withKey_eq hcovers hformed hunshared hreserves hn]

/-- A property that is still a shorthand carries an identifier that was not renamed. -/
theorem newName?_of_carried? (hwritten : s.writesOut requests n = false)
    (hkind : n.kind = some .property) (hshorthand : n.head.shorthand = true) {carried : Node}
    (hcarried : n.carried? = some carried) : s.newName? requests carried = none := by
  simpa [writesOut, Node.hasKind, hkind, hshorthand, hcarried] using hwritten

/-- The key of a shorthand property keeps its spelling. -/
theorem key_apply (h : s.Grants requests live e) (hcovers : s.Covers tree)
    (hformed : tree.WellFormed) (hunshared : tree.Unshared) (hreserves : tree.ReservesKeys)
    (hn : n ∈ tree.nodes) (hkind : n.kind = some .property) (hshorthand : n.head.shorthand = true) :
    ((e.apply n).child? .key).bind (·.head.name) = (n.child? .key).bind (·.head.name) := by
  by_cases hnew : s.writesOut requests n = true ∧ Edits.sharesKey n = true
  · obtain ⟨name, hname, hkey⟩ :=
      h.exists_newKey_eq hcovers hformed hunshared hreserves hn hnew.1 hnew.2
    rw [Edits.child?_key_apply hname, hkey]
    cases hold : n.child? .key with
    | none => rfl
    | some key => simp [Node.keyApart, Node.head, hold]
  · rw [(h.keepsKey hcovers hunshared hn hnew).child?_apply]
    cases hkey : n.child? .key with
    | none => rfl
    | some key =>
      have hmem := Node.mem_nodes_of_mem_branches hn (Node.mem_branches_of_child? hkey)
      have hname : s.newName? requests key = none := by
        by_cases hshares : Edits.sharesKey n = true
        · have hcarried := hformed.key_eq_carried? hunshared hn hkind hshorthand hshares
          rw [hkey, eq_comm] at hcarried
          apply newName?_of_carried? _ hkind hshorthand hcarried
          simpa [hshares] using hnew
        · rw [newName?, hcovers.bindingOf?_eq hunshared hmem,
            hformed.owner_key_eq_none hcovers hn hkind hshorthand (by simpa using hshares) hkey]
          rfl
      simp [Edits.applyHead, h.spelling?_eq hcovers hunshared hmem, hname]

theorem carried?_apply (e : Edits) (n : Node) :
    (e.apply n).carried? = n.carried?.map e.apply := by
  rw [Node.carried?, Node.carried?, Edits.child?_apply e n (by decide)]
  cases n.child? .value with
  | none => rfl
  | some value =>
    simp only [Option.map_some, Option.bind_some, Edits.hasKind_apply]
    split
    · exact Edits.child?_apply e value (by decide)
    · rfl

/-- A property that is still a shorthand has its key spelled like its value. -/
theorem key_eq_carried_apply (h : s.Grants requests live e) (hcovers : s.Covers tree)
    (hformed : tree.WellFormed) (hunshared : tree.Unshared) (hreserves : tree.ReservesKeys)
    (hspells : tree.SpellsKeys) (hn : n ∈ tree.nodes) (hkind : n.kind = some .property)
    (hstill : (e.apply n).head.shorthand = true) :
    ((e.apply n).child? .key).bind (·.head.name) =
      (e.apply n).carried?.bind (·.head.name) := by
  rw [Edits.head_apply, h.applyHead_eq hcovers hunshared hn, Bool.and_eq_true,
    Bool.not_eq_true'] at hstill
  rw [h.key_apply hcovers hformed hunshared hreserves hn hkind hstill.1,
    hspells n hn hkind hstill.1, carried?_apply]
  cases hcarried : n.carried? with
  | none => rfl
  | some carried =>
    have hmem := Node.mem_nodes_of_carried? hn hcarried
    have hname := newName?_of_carried? hstill.2 hkind hstill.1 hcarried
    simp [Edits.applyHead, h.spelling?_eq hcovers hunshared hmem, hname]

end Store.Grants

/-- What an edited program has in common with the program. -/
structure Edits.OnlyRenames (e : Edits) (tree : Node) (s : Store) (requests : List Request) :
    Prop where
  /-- Only sites of renamed bindings are respelled, and only shorthand properties that carry one of
  them are written out. -/
  whole : e.apply tree = s.relabel requests tree
  sites : ∀ n ∈ tree.nodes, ∀ name, s.newName? requests n = some name ↔
    ∃ id b, s.bindings[id]? = some b ∧ lastName? requests id = some name ∧
      ∃ site ∈ b.sites, site.identifier = n
  free : ∀ n ∈ tree.nodes, n.id ∈ s.free → e.spelling? n.head = n.head.name
  /-- What names a property, a label or a member of a module keeps its spelling. -/
  naming : ∀ edge ∈ tree.edges, edge.isLent = false →
    Task.isPropertyName edge.parent edge.field = true →
      e.spelling? edge.child.head = edge.child.head.name
  key : ∀ p ∈ tree.nodes, p.kind = some .property → p.head.shorthand = true →
    ((e.apply p).child? .key).bind (·.head.name) = (p.child? .key).bind (·.head.name)
  alike : ∀ p ∈ tree.nodes, p.kind = some .property → (e.apply p).head.shorthand = true →
    ((e.apply p).child? .key).bind (·.head.name) = (e.apply p).carried?.bind (·.head.name)

theorem Store.Grants.onlyRenames {s live : Store} {tree : Node} {requests : List Request}
    {e : Edits} (h : s.Grants requests live e) (hcovers : s.Covers tree)
    (hformed : tree.WellFormed) (hunshared : tree.Unshared) (hreserves : tree.ReservesKeys)
    (hspells : tree.SpellsKeys) : e.OnlyRenames tree s requests where
  whole := h.apply_eq_relabel hcovers hformed hunshared hreserves tree.mem_nodes_self
  sites n hn name := by
    rw [Store.newName?, hcovers.bindingOf?_eq hunshared hn, Option.bind_eq_some_iff]
    simp only [hcovers.site_iff hunshared hn]
    constructor
    · rintro ⟨id, ⟨b, hb, hsite⟩, hname⟩
      exact ⟨id, b, hb, hname, hsite⟩
    · rintro ⟨id, b, hb, hname, hsite⟩
      exact ⟨id, ⟨b, hb, hsite⟩, hname⟩
  free n hn hfree := by
    rw [h.spelling?_eq hcovers hunshared hn, Store.newName?, hcovers.bindingOf?_eq hunshared hn,
      hcovers.free n.id hfree]
    rfl
  naming edge hedge hlent hname := by
    obtain ⟨hparent, hbranch⟩ := Node.mem_edges_iff.mp hedge
    have hchild := Node.mem_nodes_of_mem_branches hparent hbranch
    rw [h.spelling?_eq hcovers hunshared hchild, Store.newName?,
      hcovers.bindingOf?_eq hunshared hchild, hcovers.naming edge hedge hlent hname]
    rfl
  key _ hp hkind hshorthand :=
    h.key_apply hcovers hformed hunshared hreserves hp hkind hshorthand
  alike _ hp hkind hstill :=
    h.key_eq_carried_apply hcovers hformed hunshared hreserves hspells hp hkind hstill

/-- A request that is not carried out changes neither the store nor the program. -/
theorem Engine.eq_of_not_renamed {engine : Engine} {idiom : String} {request : Request}
    (h : (engine.rename idiom request).2 ≠ .renamed) :
    (engine.rename idiom request).1.store = engine.store ∧
      (engine.rename idiom request).1.edits = engine.edits := by
  unfold Engine.rename at h ⊢
  cases hb : engine.store.bindings[request.binding]? with
  | none => exact ⟨rfl, rfl⟩
  | some b =>
    simp only [hb] at h ⊢
    split
    · exact ⟨rfl, rfl⟩
    · rename_i hname
      rw [if_neg hname] at h
      cases hrename : engine.store.rename engine.edits request.binding request.name with
      | ok result => simp [hrename] at h
      | error collision => exact ⟨rfl, rfl⟩

/-- After any calls, and at every time before, a well-formed program without shared nodes has only
been renamed in; and what is refused changes nothing. -/
theorem onlyRenames_of_reachable {tree : Node} {s : Store} {engine : Engine}
    (h : engine.Reachable tree s) (hformed : tree.WellFormed) (hunshared : tree.Unshared)
    (hreserves : tree.ReservesKeys) (hspells : tree.SpellsKeys) :
    ∃ requests, s.Grants requests engine.store engine.edits ∧
      (∀ earlier live e, earlier <+: requests → s.Grants earlier live e →
        e.OnlyRenames tree s earlier) ∧
      ∀ idiom request, (engine.rename idiom request).2 ≠ .renamed →
        (engine.rename idiom request).1.store = engine.store ∧
          (engine.rename idiom request).1.edits = engine.edits := by
  obtain ⟨requests, hgrants⟩ := h.grants
  have hcovers := Store.covers_of_analyze h.analyze hformed hunshared
  refine ⟨requests, hgrants, fun earlier live e _ hearlier ↦ ?_, fun idiom request hrefused ↦ ?_⟩
  · exact hearlier.onlyRenames hcovers hformed hunshared hreserves hspells
  · exact Engine.eq_of_not_renamed hrefused

/-- A parameter is renamed twice that a shorthand property uses, and the key keeps the first name.
-/
theorem onlyRenames_of_reachable_shorthand :
    ∃ s, Store.analyze Sample.shorthand = .ok s ∧ Sample.shorthand.WellFormed ∧
      Sample.shorthand.Unshared ∧ Sample.shorthand.ReservesKeys ∧ Sample.shorthand.SpellsKeys ∧
      (let engine := Engine.calls Sample.shorthand { store := s } [.rename 1 "b", .rename 1 "c"]
      engine.edits.writtenOut.get? ⟨7, false⟩ = some (some "a") ∧
        ∃ requests, s.Grants requests engine.store engine.edits ∧
          (∀ earlier live e, earlier <+: requests → s.Grants earlier live e →
            e.OnlyRenames Sample.shorthand s earlier) ∧
          ∀ idiom request, (engine.rename idiom request).2 ≠ .renamed →
            (engine.rename idiom request).1.store = engine.store ∧
              (engine.rename idiom request).1.edits = engine.edits) := by
  have hobserved : (fun s : Store ↦
      (Engine.calls Sample.shorthand { store := s }
        [.rename 1 "b", .rename 1 "c"]).edits.writtenOut.get? ⟨7, false⟩) <$>
          Store.analyze Sample.shorthand = .ok (some (some "a")) := by
    decide +kernel
  have hformed : Sample.shorthand.WellFormed := ⟨rfl, by decide +kernel⟩
  have hreserves : Sample.shorthand.ReservesKeys := by decide +kernel
  have hspells : Sample.shorthand.SpellsKeys := by decide +kernel
  obtain ⟨s, hs, hwritten⟩ := map_eq_ok_iff.mp hobserved
  have hreachable : (Engine.calls Sample.shorthand { store := s }
      [.rename 1 "b", .rename 1 "c"]).Reachable Sample.shorthand s := ⟨hs, _, rfl⟩
  exact ⟨s, hs, hformed, Sample.unshared_shorthand, hreserves, hspells, hwritten,
    onlyRenames_of_reachable hreachable hformed Sample.unshared_shorthand hreserves hspells⟩

end Relabel
