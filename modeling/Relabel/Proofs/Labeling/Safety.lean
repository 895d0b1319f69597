import Relabel.Proofs.Labeling.History
import Relabel.Proofs.Scope.Ownership

/-!
# Renaming is safe

What can be relied on after any sequence of calls on an analysed program: the store is sound, and a
new name is accepted exactly if putting it in place of the old one changes no reference. The one gap
is a declaration that stands further in than the scope that takes it: a rename in a scope between
the two can take its name.
-/

namespace Relabel

/-- The references of a program, each with the binding that the store of its analysis finds. -/
def Program.references (tree : Node) (s : Store) : List Reference :=
  match Program.facts tree with
  | .ok facts => s.refer (Fact.referredSites facts)
  | .error _ => []

theorem Program.references_eq {tree : Node} {facts : List Fact}
    (h : Program.facts tree = .ok facts) (s : Store) :
    Program.references tree s = s.refer (Fact.referredSites facts) := by
  rw [Program.references, h]

namespace Store

variable {tree : Node} {s : Store} {e : Edits} {references : List Reference}

theorem consistent_analyze (h : analyze tree = .ok s) :
    s.Consistent (Program.references tree s) := by
  obtain ⟨-, facts, hfacts, rfl⟩ := analyze_eq_ok_iff.mp h
  rw [Program.references_eq hfacts]
  exact consistent_ofFacts (Program.fit_facts hfacts).1

theorem tracks_analyze (h : analyze tree = .ok s) (hunshared : tree.variableIds.Nodup) :
    s.Tracks {} (Program.references tree s) := by
  obtain ⟨-, facts, hfacts, rfl⟩ := analyze_eq_ok_iff.mp h
  rw [Program.references_eq hfacts]
  exact tracks_ofFacts (Program.fit_facts hfacts).1 (Program.nodup_sites hunshared hfacts)

end Store

theorem preserved_consistent (references : List Reference) :
    Preserved fun s _ ↦ s.Consistent references :=
  fun _ _ _ _ _ h hb hne haccepted ↦ h.rekey hb hne haccepted

theorem preserved_tracks (references : List Reference) :
    Preserved fun s e ↦ s.Tracks e references :=
  fun _ _ _ _ _ h hb hne haccepted ↦ h.rekey hb hne haccepted

/-- What holds of the store of a program and the edits made to the program: tables and bindings
agree, sites are spelled as their bindings are named, references find what is recorded for them, the
index has every reference once under its spelling, and the scopes form a forest. -/
structure Store.Sound (s : Store) (e : Edits) (references : List Reference) : Prop where
  own_iff : ∀ scope name id, s.own? scope name = some id ↔
    ∃ b, s.bindings[id]? = some b ∧ b.scope = scope ∧ b.name = name
  keys : ∀ (id : ScopeId) (scope : Scope), s.scopes[id]? = some scope → scope.table.keys.Nodup
  /-- The entry that a rename takes out of a table is there. -/
  entry : ∀ (id : BindingId) (b : Binding), s.bindings[id]? = some b →
    ∃ scope, s.scopes[b.scope]? = some scope ∧ scope.table.contains b.name = true
  sites : ∀ (id : BindingId) (b : Binding), s.bindings[id]? = some b → ∀ site ∈ b.sites,
    site.spelling e = b.name ∧ s.isWithin site.scope b.scope = true
  recorded : ∀ (id : BindingId) (b : Binding), s.bindings[id]? = some b →
    b.references = (references.filter fun ref ↦ ref.binding = some id).map (·.site)
  lookup : ∀ ref ∈ references, s.lookup? ref.site.scope (ref.site.spelling e) = ref.binding
  index : ∀ name, ((s.index.get? name).getD []).Perm
    (references.filter fun ref ↦ ref.site.spelling e = name)
  once : (references.map (·.site.id)).Nodup
  outer_lt : ∀ id outer, s.outer? id = some outer → outer < id
  children : ∀ (id : ScopeId) (scope : Scope), s.scopes[id]? = some scope →
    scope.children.Nodup ∧ ∀ inner, inner ∈ scope.children ↔ s.outer? inner = some id

theorem Store.Tracks.sound {s : Store} {e : Edits} {references : List Reference}
    (h : s.Tracks e references) (honce : (references.map (·.site.id)).Nodup) :
    s.Sound e references where
  own_iff := h.consistent.own_iff
  keys := h.consistent.keys
  entry id b hb := by
    obtain ⟨scope, hscope, hentry⟩ := Option.bind_eq_some_iff.mp (h.consistent.own hb)
    refine ⟨scope, hscope, ?_⟩
    rw [Table.contains_eq_isSome, hentry]
    rfl
  sites id b hb site hsite := by
    refine ⟨h.spelled id b hb site hsite, ?_⟩
    rw [Store.isWithin_iff]
    exact h.consistent.within id b hb site hsite
  recorded := h.consistent.sites
  lookup ref href := by
    rw [h.spelling_eq_nameOf href]
    exact h.consistent.lookup ref href
  index name := by
    have hspelled : references.filter (fun ref ↦ ref.site.spelling e = name) =
        references.filter fun ref ↦ s.nameOf ref = name :=
      List.filter_congr fun ref href ↦ by rw [h.spelling_eq_nameOf href]
    rw [hspelled]
    exact h.consistent.index name
  once := honce
  outer_lt := h.consistent.outer_lt
  children := h.consistent.children

theorem Program.nodup_references {tree : Node} {s : Store} (h : Store.analyze tree = .ok s)
    (hunshared : tree.variableIds.Nodup) :
    ((Program.references tree s).map (·.site.id)).Nodup := by
  obtain ⟨-, facts, hfacts, rfl⟩ := Store.analyze_eq_ok_iff.mp h
  have hsites := Program.nodup_sites hunshared hfacts
  rw [((Fact.sites_perm facts).map Site.id).nodup_iff, List.map_append] at hsites
  rw [Program.references_eq hfacts, Store.refer, List.map_map]
  exact (List.nodup_append.mp hsites).2.1

/-- An engine that calls on a program lead to, from the store of its analysis. -/
structure Engine.Reachable (tree : Node) (s : Store) (engine : Engine) : Prop where
  analyze : Store.analyze tree = .ok s
  calls : ∃ history, engine = Engine.calls tree { store := s } history

namespace Engine.Reachable

variable {tree : Node} {s : Store} {engine : Engine}

/-- What accepted renames preserve holds of every engine that is reached. -/
theorem preserves (h : engine.Reachable tree s) {P : Store → Edits → Prop} (hP : Preserved P)
    (hstart : P s {}) : P engine.store engine.edits := by
  obtain ⟨history, rfl⟩ := h.calls
  exact Preserved.calls hP { store := s } hstart tree history

theorem consistent (h : engine.Reachable tree s) :
    engine.store.Consistent (Program.references tree s) :=
  h.preserves (preserved_consistent _) (Store.consistent_analyze h.analyze)

theorem tracks (h : engine.Reachable tree s) (hunshared : tree.variableIds.Nodup) :
    engine.store.Tracks engine.edits (Program.references tree s) :=
  h.preserves (preserved_tracks _) (Store.tracks_analyze h.analyze hunshared)

end Engine.Reachable

/-- After any calls on a program in which no identifier that may stand for a variable is held twice,
the store is sound. -/
theorem sound_of_reachable {tree : Node} {s : Store} {engine : Engine}
    (h : engine.Reachable tree s) (hunshared : tree.variableIds.Nodup) :
    engine.store.Sound engine.edits (Program.references tree s) :=
  (h.tracks hunshared).sound (Program.nodup_references h.analyze hunshared)

namespace Sample

/-- `function f(a) { return { a }; }`, where one identifier is the key and the value. -/
def shorthand : Node :=
  node 0 .program [(.body, some (node 1 .functionDeclaration
    [(.id, some (name 2 "f")), (.params, some (name 3 "a")),
      (.body, some (node 4 .blockStatement
        [(.body, some (node 5 .returnStatement [(.argument, some (node 6 .objectExpression
          [(.properties, some (.mk
            { id := ⟨7, false⟩, kind := some .property, shorthand := true, variety := some "init" }
            [(.key, some (name 8 "a")), (.value, some (name 8 "a"))]))]))]))]))]))]

/-- `function f() { try { } catch (e) { var x; } }` -/
def hoisted : Node :=
  node 0 .program [(.body, some (node 1 .functionDeclaration
    [(.id, some (name 2 "f")), (.body, some (node 3 .blockStatement
      [(.body, some (node 4 .tryStatement
        [(.block, some (node 5 .blockStatement [])),
          (.handler, some (node 6 .catchClause [(.param, some (name 7 "e")),
            (.body, some (node 8 .blockStatement [(.body, some (.mk
              { id := ⟨9, false⟩, kind := some .variableDeclaration, variety := some "var" }
              [(.declarations, some (node 10 .variableDeclarator
                [(.id, some (name 11 "x"))]))]))]))]))]))]))]))]

/-- `a; var a; function f(a) { a; }`, where one identifier is the first and the last reference. -/
def shared : Node :=
  node 0 .program
    [(.body, some (node 1 .expressionStatement [(.expression, some (name 2 "a"))])),
      (.body, some (.mk
        { id := ⟨3, false⟩, kind := some .variableDeclaration, variety := some "var" }
        [(.declarations, some (node 4 .variableDeclarator [(.id, some (name 5 "a"))]))])),
      (.body, some (node 6 .functionDeclaration
        [(.id, some (name 7 "f")), (.params, some (name 8 "a")),
          (.body, some (node 9 .blockStatement
            [(.body, some (node 10 .expressionStatement [(.expression, some (name 2 "a"))]))]))]))]

end Sample

/-- A parameter is renamed that a shorthand property uses. -/
theorem sound_of_reachable_shorthand :
    ∃ s, Store.analyze Sample.shorthand = .ok s ∧ Sample.shorthand.variableIds.Nodup ∧
      (Engine.calls Sample.shorthand { store := s } [.rename 1 "b"]).store.own? 1 "b" = some 1 ∧
      (Engine.calls Sample.shorthand { store := s } [.rename 1 "b"]).store.Sound
        (Engine.calls Sample.shorthand { store := s } [.rename 1 "b"]).edits
        (Program.references Sample.shorthand s) := by
  have hobserved : (fun s : Store ↦
      (Engine.calls Sample.shorthand { store := s } [.rename 1 "b"]).store.own? 1 "b") <$>
        Store.analyze Sample.shorthand = .ok (some 1) := by
    decide +kernel
  have hunshared : Sample.shorthand.variableIds.Nodup := by decide +kernel
  obtain ⟨s, hs, hrenamed⟩ := map_eq_ok_iff.mp hobserved
  exact ⟨s, hs, hunshared, hrenamed, sound_of_reachable ⟨hs, [.rename 1 "b"], rfl⟩ hunshared⟩

/-! ## The tests for a new name are exact -/

/-- The plain substitution of a new name for the name of a binding is safe: no other binding of the
scope has the name, every reference finds what it found before, and no declaration of the binding
stands in or underneath an inner scope that binds the name. -/
structure Store.SafelyTakes (s : Store) (e : Edits) (references : List Reference) (id : BindingId)
    (b : Binding) (name : String) : Prop where
  vacant : ∀ other, s.own? b.scope name = some other → other = id
  lookup : ∀ ref ∈ references,
    (s.rekey id b name).lookup? ref.site.scope (ref.site.spelling (respellSites b name e)) =
      s.lookup? ref.site.scope (ref.site.spelling e)
  declarations : ∀ site ∈ b.declarations, ∀ scope, s.isWithin site.scope scope = true →
    s.isWithin scope b.scope = true → scope ≠ b.scope → s.own? scope name = none

namespace Store.Tracks

variable {s : Store} {e : Edits} {references : List Reference} {id : BindingId} {b : Binding}
  {name : String}

/-- The plain substitution spells a reference as the store then knows it. -/
theorem spelling_substituted (h : s.Tracks e references) (hb : s.bindings[id]? = some b)
    {ref : Reference} (href : ref ∈ references) :
    ref.site.spelling (respellSites b name e) = (s.rekey id b name).nameOf ref := by
  have hsame : ref.site.id ∈ b.sites.map Site.id ↔ ref.binding = some id := by
    constructor
    · intro hmem
      obtain ⟨twin, htwin, hid⟩ := List.mem_map.mp hmem
      rw [← h.referrer ref href, ← hid]
      exact h.owner id b hb twin htwin
    · intro hbinding
      refine List.mem_map.mpr ⟨ref.site, List.mem_append_right _ ?_, rfl⟩
      rw [h.consistent.mem_references_iff hb, ← hbinding]
      exact href
  rw [spelling_respellSites, nameOf_rekey hb, h.spelling_eq_nameOf href]
  simp only [hsame]

theorem safelyTakes_iff (h : s.Tracks e references) (hb : s.bindings[id]? = some b) :
    s.SafelyTakes e references id b name ↔
      (∀ c, s.own? b.scope name = some c → c = id) ∧
        (∀ ref ∈ references, (s.rekey id b name).lookup? ref.site.scope
          ((s.rekey id b name).nameOf ref) = s.lookup? ref.site.scope (s.nameOf ref)) ∧
        ∀ site ∈ b.declarations, ∀ scope ∈ s.strictlyBetween site.scope b.scope,
          s.own? scope name = none := by
  have hwithin {site : Site} (hsite : site ∈ b.declarations) :=
    h.consistent.within id b hb site (List.mem_append_left _ hsite)
  constructor
  · intro hsafe
    refine ⟨hsafe.vacant, fun ref href ↦ ?_, fun site hsite scope hscope ↦ ?_⟩
    · rw [← h.spelling_substituted hb href, ← h.spelling_eq_nameOf href]
      exact hsafe.lookup ref href
    · obtain ⟨hinner, houter, hne⟩ := (mem_strictlyBetween_iff (hwithin hsite)).mp hscope
      exact hsafe.declarations site hsite scope (isWithin_iff.mpr hinner)
        (isWithin_iff.mpr houter) hne
  · rintro ⟨hvacant, hlookup, hdeclarations⟩
    refine ⟨hvacant, fun ref href ↦ ?_, fun site hsite scope hinner houter hne ↦ ?_⟩
    · rw [h.spelling_substituted hb href, h.spelling_eq_nameOf href]
      exact hlookup ref href
    · apply hdeclarations site hsite
      rw [mem_strictlyBetween_iff (hwithin hsite)]
      exact ⟨isWithin_iff.mp hinner, isWithin_iff.mp houter, hne⟩

end Store.Tracks

/-- In every state that is reached, a valid new name is accepted exactly if the plain substitution
is safe. -/
theorem accepted_iff_safelyTakes {tree : Node} {s : Store} {engine : Engine}
    (h : engine.Reachable tree s) (hunshared : tree.variableIds.Nodup) {id : BindingId}
    {b : Binding} (hb : engine.store.bindings[id]? = some b) {name : String}
    (hne : name ≠ b.name) (hidentifier : isIdentifier name = true)
    (hreserved : isReserved name = false) :
    engine.store.refusal? id b name = none ↔
      engine.store.SafelyTakes engine.edits (Program.references tree s) id b name := by
  have htracks := h.tracks hunshared
  rw [htracks.safelyTakes_iff hb]
  exact htracks.consistent.refusal?_eq_none_iff hb hne ⟨hidentifier, hreserved⟩

/-- The parameter that a shorthand property uses takes a free name, and may. -/
theorem accepted_iff_safelyTakes_shorthand :
    ∃ s b, Store.analyze Sample.shorthand = .ok s ∧ s.bindings[1]? = some b ∧
      s.refusal? 1 b "b" = none ∧
      s.SafelyTakes {} (Program.references Sample.shorthand s) 1 b "b" := by
  have hobserved : (fun s : Store ↦ s.bindings[1]?.map fun b ↦
      (b.name, (s.refusal? 1 b "b").isNone)) <$> Store.analyze Sample.shorthand =
        .ok (some ("a", true)) := by
    decide +kernel
  obtain ⟨s, hs, hobserved⟩ := map_eq_ok_iff.mp hobserved
  obtain ⟨b, hb, hobserved⟩ := Option.map_eq_some_iff.mp hobserved
  obtain ⟨hname, haccepted⟩ := Prod.mk.inj hobserved
  rw [Option.isNone_iff_eq_none] at haccepted
  refine ⟨s, b, hs, hb, haccepted, ?_⟩
  have hreachable : Engine.Reachable Sample.shorthand s { store := s } := ⟨hs, [], rfl⟩
  refine (accepted_iff_safelyTakes hreachable (by decide +kernel) hb
    ?_ (by decide +kernel) (by decide +kernel)).mp haccepted
  rw [hname]
  decide

/-- An identifier that is held twice, once where it refers to one binding and once where it refers
to another one, is respelled in both places. -/
theorem accepted_unsafely_if_shared :
    ∃ s b, Store.analyze Sample.shared = .ok s ∧ s.bindings[0]? = some b ∧ "z" ≠ b.name ∧
      isIdentifier "z" = true ∧ isReserved "z" = false ∧ s.refusal? 0 b "z" = none ∧
      ¬ s.SafelyTakes {} (Program.references Sample.shared s) 0 b "z" := by
  have hobserved : (fun s : Store ↦ s.bindings[0]?.map fun b ↦
      (decide (b.name = "a" ∧ s.refusal? 0 b "z" = none),
        (Program.references Sample.shared s)[1]?.map fun ref ↦
          ((s.rekey 0 b "z").lookup? ref.site.scope
            (ref.site.spelling (Store.respellSites b "z" {})),
          s.lookup? ref.site.scope (ref.site.spelling {})))) <$> Store.analyze Sample.shared =
        .ok (some (true, some (some 0, some 2))) := by
    decide +kernel
  obtain ⟨s, hs, hobserved⟩ := map_eq_ok_iff.mp hobserved
  obtain ⟨b, hb, hobserved⟩ := Option.map_eq_some_iff.mp hobserved
  obtain ⟨htests, hobserved⟩ := Prod.mk.inj hobserved
  obtain ⟨hname, haccepted⟩ := of_decide_eq_true htests
  obtain ⟨ref, href, hobserved⟩ := Option.map_eq_some_iff.mp hobserved
  obtain ⟨hafter, hbefore⟩ := Prod.mk.inj hobserved
  refine ⟨s, b, hs, hb, by rw [hname]; decide, by decide +kernel, by decide +kernel, haccepted, ?_⟩
  intro hsafe
  have hkept := hsafe.lookup ref (List.mem_of_getElem? href)
  rw [hafter, hbefore] at hkept
  exact absurd hkept (by decide)

namespace Store

variable {s : Store} {references : List Reference} {id c : BindingId} {b other : Binding}
  {name : String} {a : ScopeId}

/-- Where a name leads to another binding, no scope between the two has a binding of that name. -/
theorem Consistent.not_hides (h : s.Consistent references) (hb : s.bindings[id]? = some b)
    (hc : c ≠ id) (hother : s.bindings[c]? = some other) (hname : other.name = b.name)
    (hbefore : s.lookup? a other.name = some c) :
    ¬ (b.scope ∈ s.chain a ∧ b.scope ∉ s.chain other.scope) := by
  rintro ⟨hinner, houter⟩
  rw [hname, lookup?_eq_or hinner, lookup?_of_own? (h.own hb)] at hbefore
  cases hbetween : (s.strictlyBetween a b.scope).findSome? (s.own? · b.name) with
  | none =>
    rw [hbetween, Option.none_or] at hbefore
    exact hc (Option.some.inj hbefore).symm
  | some found =>
    rw [hbetween, Option.some_or] at hbefore
    obtain rfl := Option.some.inj hbefore
    obtain ⟨scope, hscope, hown⟩ := List.exists_of_findSome?_eq_some hbetween
    obtain ⟨found, hfound, rfl, -⟩ := (h.own_iff _ _ _).mp hown
    obtain rfl : other = found := Option.some.inj (hother.symm.trans hfound)
    exact houter ((mem_strictlyBetween_iff hinner).mp hscope).2.1

theorem hides_some_iff (hother : s.bindings[c]? = some other) (scope : ScopeId) :
    s.Hides scope a (some c) ↔ scope ∈ s.chain a ∧ scope ∉ s.chain other.scope := by
  refine and_congr_right fun _ ↦ ⟨fun hhides ↦ hhides c other rfl hother, ?_⟩
  intro hout d found hd hfound
  obtain rfl := Option.some.inj hd
  rwa [← Option.some.inj (hother.symm.trans hfound)]

/-- A name that leads to another binding still does so after a rename, unless it is the new name and
the renamed binding has come between; then it leads to the renamed binding. -/
theorem Consistent.lookup?_rename (h : s.Consistent references) (hb : s.bindings[id]? = some b)
    {e edits : Edits} {store : Store} (hrename : s.rename e id name = .ok (store, edits))
    (hc : c ≠ id) (hother : s.bindings[c]? = some other)
    (hbefore : s.lookup? a other.name = some c) :
    store.lookup? a other.name =
      if other.name = name ∧ b.scope ∈ s.chain a ∧ b.scope ∉ s.chain other.scope then some id
      else some c := by
  rcases rename_eq_ok_iff.mp hrename with ⟨hsame, rfl, -⟩ | ⟨b', hb', hne, haccepted, rfl, -⟩
  · rw [if_neg, hbefore]
    rintro ⟨hname, hhides⟩
    exact h.not_hides hb hc hother (hname.trans (hsame b hb).symm) hbefore hhides
  · obtain rfl : b = b' := Option.some.inj (hb.symm.trans hb')
    have hvacant := h.vacant hb hne (refusal?_eq_none_iff_tests.mp haccepted).2.1
    by_cases hname : other.name = name
    · subst hname
      have hafter := lookup?_rekey_name h hb hvacant a
      rw [hbefore, hides_some_iff hother] at hafter
      by_cases hhides : b.scope ∈ s.chain a ∧ b.scope ∉ s.chain other.scope
      · rw [if_pos ⟨rfl, hhides⟩]
        exact hafter.2 hhides
      · rw [if_neg fun hcaptured ↦ hhides hcaptured.2]
        exact hafter.1 hhides
    · rw [if_neg fun hcaptured ↦ hname hcaptured.1, ← hbefore]
      refine lookup?_rekey_of_ne h hb hname fun hfound ↦ hc ?_
      exact Option.some.inj (hbefore.symm.trans hfound)

end Store

/-- An accepted rename leaves every declaration of another binding with its binding, except for a
declaration that stands inside the scope of the renamed binding, while its own binding belongs to a
scope outside and has the new name already. -/
theorem declaration_kept_iff {tree : Node} {s : Store} {engine : Engine}
    (h : engine.Reachable tree s) {id c : BindingId} {b other : Binding}
    (hb : engine.store.bindings[id]? = some b) {name : String} {store : Store} {edits : Edits}
    (hrename : engine.store.rename engine.edits id name = .ok (store, edits))
    (hc : c ≠ id) (hother : engine.store.bindings[c]? = some other) :
    ∀ d ∈ other.declarations, engine.store.lookup? d.scope other.name = some c →
      (store.lookup? d.scope other.name = some c ↔
        ¬ (other.name = name ∧ engine.store.isWithin d.scope b.scope = true ∧
          engine.store.isWithin other.scope b.scope = false)) := by
  intro d _ hbefore
  have hafter := h.consistent.lookup?_rename hb hrename hc hother hbefore
  rw [← Bool.not_eq_true, Store.isWithin_iff, Store.isWithin_iff, hafter]
  split
  · rename_i hcaptured
    exact ⟨fun heq ↦ absurd (Option.some.inj heq).symm hc, fun hnot ↦ absurd hcaptured hnot⟩
  · rename_i hkept
    exact ⟨fun _ ↦ hkept, fun _ ↦ rfl⟩

/-- The parameter of a catch clause takes a name that nobody has, and the variable declared in the
clause keeps its declaration. -/
theorem declaration_kept_iff_hoisted :
    ∃ s other d store edits, Store.analyze Sample.hoisted = .ok s ∧ s.bindings[2]? = some other ∧
      d ∈ other.declarations ∧ s.lookup? d.scope other.name = some 2 ∧
      s.rename {} 1 "y" = .ok (store, edits) ∧ store.lookup? d.scope other.name = some 2 := by
  have hobserved : (fun s : Store ↦ s.bindings[2]?.map fun other ↦
      decide (other.name = "x" ∧ s.bindings[1]?.isSome = true ∧
        other.declarations.map (fun d ↦ s.lookup? d.scope other.name) = [some 2] ∧
        (s.rename {} 1 "y").toOption.isSome = true)) <$> Store.analyze Sample.hoisted =
      .ok (some true) := by
    decide +kernel
  obtain ⟨s, hs, hobserved⟩ := map_eq_ok_iff.mp hobserved
  obtain ⟨other, hother, hobserved⟩ := Option.map_eq_some_iff.mp hobserved
  obtain ⟨hname, hsome, hlookups, hok⟩ := of_decide_eq_true hobserved
  obtain ⟨b, hb⟩ := Option.isSome_iff_exists.mp hsome
  obtain ⟨d, hdeclarations, hbefore⟩ := List.map_eq_singleton_iff.mp hlookups
  have hd : d ∈ other.declarations := by simp [hdeclarations]
  obtain ⟨⟨store, edits⟩, hresult⟩ := Option.isSome_iff_exists.mp hok
  have hrename := toOption_eq_some_iff.mp hresult
  refine ⟨s, other, d, store, edits, hs, hother, hd, hbefore, hrename, ?_⟩
  have hreachable : Engine.Reachable Sample.hoisted s { store := s } := ⟨hs, [], rfl⟩
  refine (declaration_kept_iff hreachable hb hrename (by decide) hother d hd hbefore).mpr ?_
  rintro ⟨htaken, -, -⟩
  rw [hname] at htaken
  exact absurd htaken (by decide)

/-- The parameter of a catch clause takes the name of a variable declared in the clause: the rename
is accepted, and the declaration then leads to the parameter. -/
theorem declaration_captured_if_hoisted :
    ∃ s other d store edits, Store.analyze Sample.hoisted = .ok s ∧ s.bindings[2]? = some other ∧
      d ∈ other.declarations ∧ s.lookup? d.scope other.name = some 2 ∧
      s.rename {} 1 "x" = .ok (store, edits) ∧ store.lookup? d.scope other.name = some 1 := by
  have hobserved : (fun s : Store ↦ s.bindings[2]?.map fun other ↦
      decide (other.declarations.map (fun d ↦ (s.lookup? d.scope other.name,
        (s.rename {} 1 "x").toOption.map (·.1.lookup? d.scope other.name))) =
          [(some 2, some (some 1))])) <$> Store.analyze Sample.hoisted = .ok (some true) := by
    decide +kernel
  obtain ⟨s, hs, hobserved⟩ := map_eq_ok_iff.mp hobserved
  obtain ⟨other, hother, hobserved⟩ := Option.map_eq_some_iff.mp hobserved
  obtain ⟨d, hdeclarations, hlookups⟩ := List.map_eq_singleton_iff.mp (of_decide_eq_true hobserved)
  obtain ⟨hbefore, hafter⟩ := Prod.mk.inj hlookups
  obtain ⟨⟨store, edits⟩, hresult, hafter⟩ := Option.map_eq_some_iff.mp hafter
  have hd : d ∈ other.declarations := by simp [hdeclarations]
  have hrename := toOption_eq_some_iff.mp hresult
  exact ⟨s, other, d, store, edits, hs, hother, hd, hbefore, hrename, hafter⟩

end Relabel
