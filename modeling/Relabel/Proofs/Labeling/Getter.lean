import Relabel.Proofs.Idiom.Chain
import Relabel.Proofs.Labeling.Structure

/-!
# What a getter is named

Whatever was renamed before, the name asked for at a getter is settled by the path from its binding
to the end: it is the spelling there, led by `get_` once for each getter on the way.
-/

namespace Relabel

open Recognition

/-- A path from a getter comes to an end, and the getter asks for the name that the path gives it,
unless a name on the way cannot be issued; or it has no end, and nothing is asked for and no name is
issued. -/
theorem simpleGetter_of_reachable {tree : Node} {s : Store} {engine : Engine}
    (h : engine.Reachable tree s) (r : Registry) {n : Node} {id : BindingId}
    (hid : (n.child? .id).bind engine.store.bindingOf? = some id)
    (hgetter : (returnedIdentifier? r n).isSome = true) :
    let c : Context := ⟨engine.store, engine.edits⟩
    (∀ k text, Leads c r id k text →
      ((∀ j < k, r.Admits (r.chainName j text)) →
        ∃ next, (simpleGetter c n).run r = (.ok (some [⟨id, r.chainName k text⟩]), next) ∧
          r.Grown next) ∧
      ((¬ ∀ j < k, r.Admits (r.chainName j text)) →
        ∃ fault next, (simpleGetter c n).run r = (.error (.registry fault), next))) ∧
    (Circles c r id ∨ Strands c r id → (simpleGetter c n).run r = (.ok none, r)) ∧
    ((∃ k text, Leads c r id k text) ∨ Circles c r id ∨ Strands c r id) := by
  intro c
  have hbound : ∀ n id, c.store.bindingOf? n = some id → ∃ b, c.store.bindings[id]? = some b :=
    fun _ _ hn ↦ h.housed.exists_of_bindingOf? hn
  obtain ⟨name, -, hname⟩ := Option.bind_eq_some_iff.mp hid
  refine ⟨fun k text hleads ↦ ⟨run_simpleGetter_of_admits hbound hid hgetter hleads, ?_⟩,
    run_simpleGetter_of_endless hid hgetter,
    leads_or_circles_or_strands hbound (hbound name id hname)⟩
  intro hrefused
  obtain ⟨fault, next, hfault, -⟩ :=
    run_simpleGetter_of_not_admits hbound hid hgetter hleads hrefused
  exact ⟨fault, next, hfault⟩

namespace Sample

/-- A function that returns a name; its nodes are numbered from `index` on. -/
def returning (index : Nat) (text returned : String) : Node :=
  node index .functionDeclaration [(.id, some (name (index + 1) text)),
    (.body, some (node (index + 2) .blockStatement [(.body, some (node (index + 3) .returnStatement
      [(.argument, some (name (index + 4) returned))]))]))]

/-- `function a() { return b; } function b() { return c; } var c;` -/
def twoGetters : Node :=
  node 0 .program [(.body, some (returning 1 "a" "b")), (.body, some (returning 6 "b" "c")),
    (.body, some (.mk
      { id := ⟨11, false⟩, kind := some .variableDeclaration, variety := some "var" }
      [(.declarations, some (node 12 .variableDeclarator [(.id, some (name 13 "c"))]))]))]

end Sample

/-- Of two getters in a row, the first is named after the name that the second will have, which is
named after a variable that was renamed. -/
theorem simpleGetter_of_reachable_twoGetters :
    ∃ s r, Store.analyze Sample.twoGetters = .ok s ∧
      Registry.create "___" Role.defaultDescriptor defaultParameterRoles = .ok r ∧
      let engine := Engine.calls Sample.twoGetters { store := s } [.rename 2 "d"]
      let n := engine.edits.apply (Sample.returning 1 "a" "b")
      (n.child? .id).bind engine.store.bindingOf? = some 0 ∧
      (returnedIdentifier? r n).isSome = true ∧ (∀ j < 2, r.Admits (r.chainName j "d")) ∧
      ∃ next, (simpleGetter ⟨engine.store, engine.edits⟩ n).run r =
        (.ok (some [⟨0, r.chainName 2 "d"⟩]), next) ∧ r.Grown next := by
  have hobserved : ((Store.analyze Sample.twoGetters).toOption.bind fun s ↦
      (Registry.create "___" Role.defaultDescriptor defaultParameterRoles).toOption.map fun r ↦
        let engine := Engine.calls Sample.twoGetters { store := s } [.rename 2 "d"]
        let c : Context := ⟨engine.store, engine.edits⟩
        let n := engine.edits.apply (Sample.returning 1 "a" "b")
        ([(n.child? .id).bind engine.store.bindingOf?, next? c r 0, next? c r 1],
          [(returnedIdentifier? r n).isSome, decide (∀ j < (2 : Nat), r.Admits (r.chainName j "d"))],
          c.store.bindings[2]?.map fun b ↦ (b.name, (returnedBy? c r b).isNone))) =
      some ([some 0, some 1, some 2], [true, true], some ("d", true)) := by
    decide +kernel
  obtain ⟨s, hs, hcreated⟩ := Option.bind_eq_some_iff.mp hobserved
  obtain ⟨r, hr, hseen⟩ := Option.map_eq_some_iff.mp hcreated
  simp only [Prod.mk.injEq, List.cons.injEq, decide_eq_true_eq] at hseen
  obtain ⟨⟨hid, hfirst, hsecond, -⟩, ⟨hgetter, hadmits, -⟩, hlast⟩ := hseen
  obtain ⟨b, hb, hnamed⟩ := Option.map_eq_some_iff.mp hlast
  obtain ⟨hname, hnone⟩ := Prod.mk.inj hnamed
  have hleads := (Leads.other hb (Option.isNone_iff_eq_none.mp hnone)).of_next? hsecond
    |>.of_next? hfirst
  rw [hname] at hleads
  have hs := toOption_eq_some_iff.mp hs
  have hreach : Engine.Reachable Sample.twoGetters s
      (Engine.calls Sample.twoGetters { store := s } [.rename 2 "d"]) := ⟨hs, _, rfl⟩
  have hnames := simpleGetter_of_reachable hreach r hid hgetter
  exact ⟨s, r, hs, toOption_eq_some_iff.mp hr, hid, hgetter, hadmits,
    (hnames.1 2 "d" hleads).1 hadmits⟩

end Relabel
