import Mathlib.Data.List.Nodup
import Relabel.Proofs.Labeling.Safety
import Relabel.Proofs.Scope.Isomorphism
import Relabel.Proofs.Scope.Sharing

/-!
# Labelling keeps the binding structure

After any calls on a program without shared nodes, an analysis of the edited program gives the
scopes, the bindings and the free identifiers that the analysis of the program gave, under the names
that the engine's store has. The store that is changed step by step and the store that is made anew
can therefore be used in each other's place.
-/

namespace Relabel

/-- A rename changes names only. -/
theorem preserved_kept (s : Store) : Preserved fun live _ ↦ Store.Kept s live :=
  fun _ _ id b name h _ _ _ ↦ h.rekey id b name

theorem preserved_justified (R : Node → Prop) :
    Preserved fun s e ↦ s.EachSite (Site.Sound R) ∧ e.Justified R :=
  fun _ _ id b name h hb _ _ ↦ ⟨h.1.rekey id b name, h.2.respellSites (h.1 id b hb) name⟩

/-- In an analysed program without edits everything is in order. -/
theorem Store.justified_of_analyze {tree : Node} {s : Store} (h : analyze tree = .ok s) :
    s.EachSite (Site.Sound (· ∈ tree.nodes)) ∧ ({} : Edits).Justified (· ∈ tree.nodes) := by
  obtain ⟨-, facts, hfacts, rfl⟩ := analyze_eq_ok_iff.mp h
  obtain ⟨hfit, hsound⟩ := Program.fit_facts hfacts
  exact ⟨eachSite_ofFacts hfit hsound, Edits.justified_empty _⟩

/-- Renames take no binding away. -/
theorem Store.Kept.exists_binding {s live : Store} (h : s.Kept live) {id : BindingId}
    (hid : ∃ b, s.bindings[id]? = some b) : ∃ b, live.bindings[id]? = some b := by
  obtain ⟨b, hb⟩ := hid
  have hsame := h.bindings id
  rw [hb, Option.map_some] at hsame
  obtain ⟨b', hb', -⟩ := Option.map_eq_some_iff.mp hsame
  exact ⟨b', hb'⟩

/-- The bindings of a store that renames led to have the sites that they had. -/
theorem Store.Kept.exists_sites {s live : Store} (h : s.Kept live) {id : BindingId} {b : Binding}
    (hb : live.bindings[id]? = some b) :
    ∃ old, s.bindings[id]? = some old ∧ old.sites = b.sites := by
  have hsame := h.bindings id
  rw [hb, Option.map_some, eq_comm] at hsame
  obtain ⟨old, hold, hanonymous⟩ := Option.map_eq_some_iff.mp hsame
  refine ⟨old, hold, ?_⟩
  exact congrArg (fun parts : BindingKind × ScopeId × List Site × List Site ↦
    parts.2.2.1 ++ parts.2.2.2) hanonymous

namespace Engine.Reachable

variable {tree : Node} {s : Store} {engine : Engine}

theorem kept (h : engine.Reachable tree s) : Store.Kept s engine.store :=
  h.preserves (preserved_kept s) (Store.Kept.refl s)

/-- Every owner is a binding of the store. -/
theorem housed (h : engine.Reachable tree s) : engine.store.Housed := by
  intro x id howner
  rw [h.kept.owners] at howner
  exact h.kept.exists_binding (Store.housed_of_analyze h.analyze x id howner)

theorem eachSite_and_justified (h : engine.Reachable tree s) :
    engine.store.EachSite (Site.Sound (· ∈ tree.nodes)) ∧
      engine.edits.Justified (· ∈ tree.nodes) :=
  h.preserves (preserved_justified _) (Store.justified_of_analyze h.analyze)

/-- The sites of every binding are identifiers of the program. -/
theorem sound_sites (h : engine.Reachable tree s) :
    engine.store.EachSite (Site.Sound (· ∈ tree.nodes)) :=
  h.eachSite_and_justified.1

theorem justified (h : engine.Reachable tree s) : engine.edits.Justified (· ∈ tree.nodes) :=
  h.eachSite_and_justified.2

/-- The edited program can be analysed, and its facts are those of the program under new names. -/
theorem reanalysed (h : engine.Reachable tree s) (hunshared : tree.Unshared)
    (hkeys : tree.NamesKeys) :
    ∃ facts facts', Program.facts tree = .ok facts ∧ s = Store.ofFacts facts ∧
      Store.analyze (engine.edits.apply tree) = .ok (Store.ofFacts facts') ∧
      Reanalysed facts facts' engine.edits engine.store := by
  have htracks := h.tracks (hunshared.nodup_variableIds hkeys)
  have hkept := h.kept
  obtain ⟨hprogram, facts, hfacts, rfl⟩ := Store.analyze_eq_ok_iff.mp h.analyze
  rw [Program.references_eq hfacts] at htracks
  have hrespects := h.justified.respects hunshared hkeys
  obtain ⟨facts', hfacts', hsketches⟩ := Program.sketches_facts hrespects hfacts
  refine ⟨facts, facts', hfacts, rfl, ?_, (Program.fit_facts hfacts).1,
    (Program.fit_facts hfacts').1, hsketches, htracks, hkept⟩
  rw [Store.analyze_eq_ok_iff, Edits.hasKind_apply]
  exact ⟨hprogram, facts', hfacts', rfl⟩

end Engine.Reachable

/-- After any calls on a program without shared nodes, in which no key that is also a value is
computed, the edited program can be analysed, and the analysis is isomorphic to that of the program
and agrees with the store of the engine. -/
theorem analyze_edited_of_reachable {tree : Node} {s : Store} {engine : Engine}
    (h : engine.Reachable tree s) (hunshared : tree.Unshared) (hkeys : tree.NamesKeys) :
    ∃ fresh, Store.analyze (engine.edits.apply tree) = .ok fresh ∧ fresh.Isomorphic s ∧
      fresh.Agrees engine.store := by
  obtain ⟨facts, facts', -, rfl, hanalyze, hreanalysed⟩ := h.reanalysed hunshared hkeys
  exact ⟨Store.ofFacts facts', hanalyze, hreanalysed.isomorphic, hreanalysed.agrees⟩

namespace Sample

/-- The tree of `function f(a) { return { a }; }` with a property that is computed as well, which no
source text has. -/
def computed : Node :=
  node 0 .program [(.body, some (node 1 .functionDeclaration
    [(.id, some (name 2 "f")), (.params, some (name 3 "a")),
      (.body, some (node 4 .blockStatement
        [(.body, some (node 5 .returnStatement [(.argument, some (node 6 .objectExpression
          [(.properties, some (.mk
            { id := ⟨7, false⟩, kind := some .property, shorthand := true, computed := true,
              variety := some "init" }
            [(.key, some (name 8 "a")), (.value, some (name 8 "a"))]))]))]))]))]))]

/-- A tree is known by its identities if its nodes are some of those in a list without repeated
identities. -/
theorem eq_of_id_eq {tree : Node} (distinct : List Node) (places : List Nat)
    (hnodes : tree.nodes = places.filterMap (distinct[·]?)) (hids : (distinct.map Node.id).Nodup) :
    ∀ m ∈ tree.nodes, ∀ n ∈ tree.nodes, m.id = n.id → m = n := by
  have hmem {n : Node} (hn : n ∈ tree.nodes) : n ∈ distinct := by
    rw [hnodes] at hn
    obtain ⟨place, -, hplace⟩ := List.mem_filterMap.mp hn
    exact List.mem_of_getElem? hplace
  intro m hm n hn hid
  exact List.inj_on_of_nodup_map hids (hmem hm) (hmem hn) hid

theorem unshared_shorthand : shorthand.Unshared where
  identity := eq_of_id_eq shorthand.nodes.dropLast (List.range 9 ++ [8]) rfl (by decide +kernel)
  distinct := by decide +kernel

theorem unshared_computed : computed.Unshared where
  identity := eq_of_id_eq computed.nodes.dropLast (List.range 9 ++ [8]) rfl (by decide +kernel)
  distinct := by decide +kernel

end Sample

/-- A parameter is renamed that a shorthand property uses, which is written out with its old name as
the key. -/
theorem analyze_edited_of_reachable_shorthand :
    ∃ s fresh, Store.analyze Sample.shorthand = .ok s ∧ Sample.shorthand.Unshared ∧
      Sample.shorthand.NamesKeys ∧
      (Engine.calls Sample.shorthand { store := s } [.rename 1 "b"]).edits.writtenOut.get?
        ⟨7, false⟩ = some (some "a") ∧
      Store.analyze ((Engine.calls Sample.shorthand { store := s } [.rename 1 "b"]).edits.apply
        Sample.shorthand) = .ok fresh ∧
      fresh.Isomorphic s ∧
      fresh.Agrees (Engine.calls Sample.shorthand { store := s } [.rename 1 "b"]).store := by
  have hobserved : (fun s : Store ↦
      (Engine.calls Sample.shorthand { store := s } [.rename 1 "b"]).edits.writtenOut.get?
        ⟨7, false⟩) <$> Store.analyze Sample.shorthand = .ok (some (some "a")) := by
    decide +kernel
  obtain ⟨s, hs, hwritten⟩ := map_eq_ok_iff.mp hobserved
  have hkeys : Sample.shorthand.NamesKeys := by decide +kernel
  obtain ⟨fresh, hfresh, hisomorphic, hagrees⟩ :=
    analyze_edited_of_reachable ⟨hs, [.rename 1 "b"], rfl⟩ Sample.unshared_shorthand hkeys
  exact ⟨s, fresh, hs, Sample.unshared_shorthand, hkeys, hwritten, hfresh, hisomorphic, hagrees⟩

/-- If the key that is also the value is computed, it refers to the binding; after a rename the new
key has the old name and refers to nothing. -/
theorem structure_lost_if_computed :
    Sample.computed.Unshared ∧ ∃ s, Store.analyze Sample.computed = .ok s ∧
      ¬ ∃ fresh, Store.analyze ((Engine.calls Sample.computed { store := s }
          [.rename 1 "b"]).edits.apply Sample.computed) = .ok fresh ∧ fresh.Isomorphic s := by
  have hobserved : (fun s : Store ↦ (s.free,
      (Store.analyze ((Engine.calls Sample.computed { store := s }
        [.rename 1 "b"]).edits.apply Sample.computed)).toOption.map (·.free))) <$>
      Store.analyze Sample.computed = .ok ([], some [⟨7, true⟩]) := by
    decide +kernel
  obtain ⟨s, hs, hobserved⟩ := map_eq_ok_iff.mp hobserved
  obtain ⟨hfree, hfresh⟩ := Prod.mk.inj hobserved
  refine ⟨Sample.unshared_computed, s, hs, ?_⟩
  rintro ⟨fresh, hanalysed, hisomorphic⟩
  rw [hanalysed] at hfresh
  have hlost : fresh.free = [⟨7, true⟩] := Option.some.inj hfresh
  rw [hisomorphic.free, hfree] at hlost
  exact absurd hlost (by simp)

end Relabel
