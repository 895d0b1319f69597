import Relabel.Proofs.Scope.Consistency
import Relabel.Proofs.Scope.Effect

/-!
# Surveys state fitting facts

The tasks of a survey stand at places that are open in the store described so far: their scope
exists, and the scopes that can take a declaration lie around it. Working off a task keeps this,
so that every fact fits the store it is added to, and the store of an analysed program is
consistent.
-/

namespace Relabel

variable {s : Store}

/-- A place is open in a store if its scope is there, inside the two scopes that declarations made
at the place can go to. -/
structure Place.Open (s : Store) (p : Place) : Prop where
  lt_size : p.scope < s.scopes.size
  hoist : p.hoist ∈ s.chain p.scope
  program : 0 ∈ s.chain p.scope

namespace Store

theorem size_declare (s : Store) (target : ScopeId) (kind : BindingKind) (site : Site) :
    (s.declare target kind site).scopes.size = s.scopes.size := by
  unfold declare
  split <;> simp

theorem chain_of_scopes {s' : Store} (h : s'.scopes = s.scopes) (a : ScopeId) :
    s'.chain a = s.chain a :=
  chain_congr fun id _ ↦ by rw [outer?, outer?, h]

theorem mem_chain_learn (fact : Fact) {a b : ScopeId} (h : b ∈ s.chain a) :
    b ∈ (s.learn fact).chain a := by
  cases fact with
  | opened type node parent => exact mem_chain_openScope type node parent h
  | placed node scope =>
    have hscopes : (s.learn (.placed node scope)).scopes = s.scopes := rfl
    rwa [chain_of_scopes hscopes]
  | declared target kind site => rwa [learn, chain_declare]
  | referred site => exact h

theorem size_learn (s : Store) (fact : Fact) :
    (s.learn fact).scopes.size = s.scopes.size + Fact.opens [fact] := by
  cases fact with
  | opened type node parent => exact size_openScope s type node parent
  | placed node scope => rfl
  | declared target kind site => exact size_declare s target kind site
  | referred site => rfl

theorem size_foldl_learn (s : Store) (facts : List Fact) :
    (facts.foldl learn s).scopes.size = s.scopes.size + Fact.opens facts := by
  induction facts generalizing s with
  | nil => rfl
  | cons fact rest ih =>
    have hopens : Fact.opens ([fact] ++ rest) = Fact.opens [fact] + Fact.opens rest :=
      List.countP_append
    rw [List.foldl_cons, ih, size_learn, Nat.add_assoc, ← hopens, List.singleton_append]

end Store

namespace Place.Open

variable {p : Place}

theorem learn (h : p.Open s) (fact : Fact) : p.Open (s.learn fact) where
  lt_size := by
    rw [Store.size_learn]
    exact Nat.lt_add_right _ h.lt_size
  hoist := Store.mem_chain_learn fact h.hoist
  program := Store.mem_chain_learn fact h.program

theorem foldl_learn (h : p.Open s) (facts : List Fact) : p.Open (facts.foldl Store.learn s) := by
  induction facts generalizing s with
  | nil => exact h
  | cons fact rest ih => exact ih (h.learn fact)

/-- The place inside a scope that is opened at an open place. -/
theorem openScope (h : p.Open s) (type : ScopeType) (node : Node) {inner : Place}
    (hscope : inner.scope = s.scopes.size)
    (hhoist : inner.hoist = s.scopes.size ∨ inner.hoist = p.hoist) :
    inner.Open (s.openScope type node (some p.scope)) := by
  have houter : (s.openScope type node (some p.scope)).outer? inner.scope = some p.scope := by
    rw [Store.outer?_openScope, if_pos hscope]
  have hin {a : ScopeId} (ha : a ∈ s.chain p.scope) :
      a ∈ (s.openScope type node (some p.scope)).chain inner.scope := by
    have hlt : p.scope < inner.scope := hscope ▸ h.lt_size
    exact Store.mem_chain_iff.mpr (.inr ⟨p.scope, houter, hlt, Store.mem_chain_openScope _ _ _ ha⟩)
  constructor
  · rw [Store.size_openScope, hscope]
    exact Nat.lt_succ_self _
  · rcases hhoist with hhoist | hhoist
    · rw [hhoist, ← hscope]
      exact Store.mem_chain_self _ _
    · rw [hhoist]
      exact hin h.hoist
  · exact hin h.program

theorem fits (h : p.Open s) {R : Node → Prop} {fact : Fact} (hfact : fact.StandsAt R p) :
    fact.Fits s := by
  cases fact with
  | opened => exact hfact.elim
  | placed => trivial
  | referred => trivial
  | declared target kind site =>
    obtain ⟨htarget, hsite, -⟩ := hfact
    have hmem : target ∈ s.chain p.scope := by
      rcases htarget with rfl | rfl | rfl
      · exact Store.mem_chain_self _ _
      · exact h.hoist
      · exact h.program
    refine ⟨Nat.lt_of_le_of_lt (Store.le_of_mem_chain hmem) h.lt_size, ?_⟩
    rwa [hsite]

theorem fit (h : p.Open s) {R : Node → Prop} {facts : List Fact}
    (hfacts : ∀ fact ∈ facts, fact.StandsAt R p) : Fact.Fit s facts := by
  induction facts generalizing s with
  | nil => trivial
  | cons fact rest ih =>
    refine ⟨h.fits (hfacts fact List.mem_cons_self), ih (h.learn fact) fun other hother ↦ ?_⟩
    exact hfacts other (List.mem_cons_of_mem fact hother)

end Place.Open

namespace Fact

theorem fit_append {facts rest : List Fact} :
    Fit s (facts ++ rest) ↔ Fit s facts ∧ Fit (facts.foldl Store.learn s) rest := by
  induction facts generalizing s with
  | nil => simp [Fit]
  | cons fact facts ih => simp only [List.cons_append, Fit, ih, List.foldl_cons, and_assoc]

/-- The sites a fact speaks of. -/
def sites : Fact → List Site
  | declared _ _ site | referred site => [site]
  | opened .. | placed .. => []

theorem StandsAt.sound {R : Node → Prop} {p : Place} {fact : Fact} (h : fact.StandsAt R p) :
    ∀ site ∈ fact.sites, site.Sound R := by
  cases fact with
  | opened => exact h.elim
  | placed => simp [sites]
  | declared target kind site => simpa [sites] using h.2.2.1
  | referred site => simpa [sites] using h.2

end Fact

namespace Task

variable {R : Node → Prop} {t : Task}

/-- One step of a survey: the facts fit, their sites are sound, and the tasks left stand at places
that are open afterwards. -/
theorem Effect.step {outcome : Outcome} (h : Effect R s.scopes.size t outcome)
    (hopen : t.place.Open s) :
    Fact.Fit s outcome.facts ∧ (∀ fact ∈ outcome.facts, ∀ site ∈ fact.sites, site.Sound R) ∧
      ∀ u ∈ outcome.tasks, R u.node ∧ Node.Owned R u.owner u.node ∧
        u.place.Open (outcome.facts.foldl Store.learn s) := by
  cases h with
  | stay facts tasks =>
    refine ⟨hopen.fit facts, fun fact hfact ↦ (facts fact hfact).sound, fun u hu ↦ ?_⟩
    obtain ⟨hplace, hmem, howned⟩ := tasks u hu
    exact ⟨hmem, howned, hplace ▸ hopen.foldl_learn outcome.facts⟩
  | enter type before after inner facts outside inside scope hoist tasks =>
    have hbefore := hopen.foldl_learn before
    have hsize : (before.foldl Store.learn s).scopes.size = s.scopes.size := by
      rw [Store.size_foldl_learn, Nat.add_eq_left]
      apply List.countP_eq_zero.mpr
      intro fact hfact
      cases fact with
      | opened => exact (outside _ hfact).elim
      | _ => simp
    have hhoist : inner.hoist = s.scopes.size ∨ inner.hoist = t.place.hoist := by
      rw [hoist]
      exact ite_eq_or_eq _ _ _
    have hinner := hbefore.openScope type t.node (hsize ▸ scope) (hsize ▸ hhoist)
    rw [facts]
    refine ⟨?_, ?_, ?_⟩
    · refine Fact.fit_append.mpr ⟨hopen.fit outside, ?_, hinner.fit inside⟩
      rintro outer ⟨⟩
      exact hbefore.lt_size
    · intro fact hfact
      rcases List.mem_append.mp hfact with hfact | hfact
      · exact (outside fact hfact).sound
      · rcases List.mem_cons.mp hfact with rfl | hfact
        · simp [Fact.sites]
        · exact (inside fact hfact).sound
    · intro u hu
      rw [List.foldl_append, List.foldl_cons]
      rcases tasks u hu with ⟨hplace, hmem, howned⟩ | ⟨hplace, hmem, howned⟩
      · rw [hplace]
        exact ⟨hmem, howned, (hbefore.learn _).foldl_learn after⟩
      · exact ⟨hmem, howned, hplace ▸ hinner.foldl_learn after⟩

end Task

theorem map_eq_ok_iff {ε α β : Type} {f : α → β} {result : Except ε α} {b : β} :
    f <$> result = .ok b ↔ ∃ a, result = .ok a ∧ f a = b := by
  cases result with
  | error => simp [Functor.map, Except.map]
  | ok => simp [Functor.map, Except.map]

theorem toOption_eq_some_iff {ε α : Type} {result : Except ε α} {a : α} :
    result.toOption = some a ↔ result = .ok a := by
  cases result with
  | error => simp [Except.toOption]
  | ok => simp [Except.toOption]

/-- Induction over the run of a survey. -/
theorem survey_induction {motive : ScopeId → List Task → Prop} (nil : ∀ fresh, motive fresh [])
    (step : ∀ fresh t rest, t.node.isTyped = true →
      motive (fresh + Fact.opens (t.expand fresh).facts) ((t.expand fresh).tasks ++ rest) →
      motive fresh (t :: rest))
    (untyped : ∀ fresh t rest, ¬ t.node.isTyped = true → motive fresh (t :: rest))
    (fresh : ScopeId) (tasks : List Task) : motive fresh tasks :=
  survey.induct motive nil step untyped fresh tasks

/-- Induction over the run of a survey that succeeds. -/
theorem survey_ok_induction
    {motive : (fresh : ScopeId) → (tasks : List Task) → (facts : List Fact) →
      survey fresh tasks = .ok facts → Prop}
    (nil : ∀ fresh h, motive fresh [] [] h)
    (step : ∀ fresh t rest later h, t.node.isTyped = true → ∀
      (hlater : survey (fresh + Fact.opens (t.expand fresh).facts)
        ((t.expand fresh).tasks ++ rest) = .ok later),
      motive _ _ later hlater → motive fresh (t :: rest) ((t.expand fresh).facts ++ later) h)
    {fresh : ScopeId} {tasks : List Task} {facts : List Fact}
    (h : survey fresh tasks = .ok facts) : motive fresh tasks facts h := by
  induction fresh, tasks using survey_induction generalizing facts with
  | nil fresh =>
    obtain rfl : [] = facts := by
      rw [survey] at h
      exact Except.ok.inj h
    exact nil fresh h
  | step fresh t rest htyped ih =>
    obtain ⟨later, hlater, rfl⟩ := by
      rw [survey, if_pos htyped] at h
      exact map_eq_ok_iff.mp h
    exact step fresh t rest later h htyped hlater (ih hlater)
  | untyped fresh t rest htyped =>
    rw [survey, if_neg htyped] at h
    exact absurd h (by simp)

/-- Once a task of a survey is done, the next tasks too are about nodes of the tree. -/
theorem Task.owned_tasks {R : Node → Prop} (hR : Node.Hereditary R) {t : Task} {rest : List Task}
    (htasks : ∀ u ∈ t :: rest, R u.node ∧ Node.Owned R u.owner u.node) (fresh : ScopeId) :
    ∀ u ∈ (t.expand fresh).tasks ++ rest, R u.node ∧ Node.Owned R u.owner u.node := by
  intro u hu
  obtain ⟨hmem, howned⟩ := htasks t List.mem_cons_self
  rcases List.mem_append.mp hu with hu | hu
  · exact (t.effect_expand hR hmem howned : Task.Effect R fresh t (t.expand fresh)).left hu
  · exact htasks u (List.mem_cons_of_mem t hu)

/-- The facts of a whole survey fit, and their sites are sound. -/
theorem fit_survey {R : Node → Prop} (hR : Node.Hereditary R) {tasks : List Task}
    (htasks : ∀ t ∈ tasks, R t.node ∧ Node.Owned R t.owner t.node ∧ t.place.Open s)
    {facts : List Fact} (hfacts : survey s.scopes.size tasks = .ok facts) :
    Fact.Fit s facts ∧ ∀ fact ∈ facts, ∀ site ∈ fact.sites, site.Sound R := by
  generalize hfresh : s.scopes.size = fresh at hfacts
  induction hfacts using survey_ok_induction generalizing s with
  | nil fresh => simp [Fact.Fit]
  | step fresh t rest later _ _ hlater ih =>
    subst hfresh
    obtain ⟨hmem, howned, hopen⟩ := htasks t List.mem_cons_self
    obtain ⟨hfit, hsound, hleft⟩ := (t.effect_expand hR hmem howned).step hopen
    have hrest : ∀ u ∈ (t.expand s.scopes.size).tasks ++ rest, R u.node ∧
        Node.Owned R u.owner u.node ∧
        u.place.Open ((t.expand s.scopes.size).facts.foldl Store.learn s) := by
      intro u hu
      rcases List.mem_append.mp hu with hu | hu
      · exact hleft u hu
      · obtain ⟨humem, huowned, huopen⟩ := htasks u (List.mem_cons_of_mem t hu)
        exact ⟨humem, huowned, huopen.foldl_learn _⟩
    obtain ⟨hfitLater, hsoundLater⟩ := ih hrest (Store.size_foldl_learn s _)
    refine ⟨Fact.fit_append.mpr ⟨hfit, hfitLater⟩, fun fact hfact ↦ ?_⟩
    rcases List.mem_append.mp hfact with hfact | hfact
    · exact hsound fact hfact
    · exact hsoundLater fact hfact

/-- What is declared in a whole survey stands under nodes of the tree. -/
theorem declaredUnder_survey {R : Node → Prop} (hR : Node.Hereditary R) {fresh : ScopeId}
    {tasks : List Task} (htasks : ∀ t ∈ tasks, R t.node ∧ Node.Owned R t.owner t.node)
    {facts : List Fact} (hfacts : survey fresh tasks = .ok facts) {target : ScopeId}
    {kind : BindingKind} {site : Site} (hfact : .declared target kind site ∈ facts) :
    R site.parent := by
  induction hfacts using survey_ok_induction with
  | nil fresh => exact absurd hfact List.not_mem_nil
  | step fresh t rest later _ _ hlater ih =>
    obtain ⟨hmem, howned⟩ := htasks t List.mem_cons_self
    have heffect : Task.Effect R fresh t (t.expand fresh) := t.effect_expand hR hmem howned
    rcases List.mem_append.mp hfact with hhere | hafter
    · exact heffect.declaredUnder hhere
    · exact ih (Task.owned_tasks hR htasks fresh) hafter

/-! ## Whole programs -/

/-- What a program declares stands under its nodes. -/
theorem Program.declaredUnder {tree : Node} {facts : List Fact}
    (h : Program.facts tree = .ok facts) {target : ScopeId} {kind : BindingKind} {site : Site}
    (hfact : .declared target kind site ∈ facts) : site.parent ∈ tree.nodes := by
  obtain ⟨later, hlater, rfl⟩ := map_eq_ok_iff.mp h
  have hR := Node.hereditary_mem_nodes tree
  rcases List.mem_append.mp hfact with hstart | hafter
  · simp at hstart
  · refine declaredUnder_survey hR (fun t ht ↦ ?_) hlater hafter
    have hstands := Task.standsAt_ofItems hR tree.mem_nodes_self .body t ht
    exact ⟨hstands.mem, hstands.owned⟩

theorem Program.fit_facts {tree : Node} {facts : List Fact} (h : Program.facts tree = .ok facts) :
    Fact.Fit {} facts ∧ ∀ fact ∈ facts, ∀ site ∈ fact.sites, site.Sound (· ∈ tree.nodes) := by
  obtain ⟨later, hlater, rfl⟩ := map_eq_ok_iff.mp h
  have hR := Node.hereditary_mem_nodes tree
  let start : Store := [Fact.opened .program tree none, .placed tree.id 0].foldl Store.learn {}
  have hopen : Place.Open start ⟨0, 0⟩ :=
    ⟨Nat.zero_lt_one, Store.mem_chain_self _ _, Store.mem_chain_self _ _⟩
  have htasks : ∀ t ∈ Task.ofItems tree .body ⟨0, 0⟩ (tree.items .body),
      t.node ∈ tree.nodes ∧ Node.Owned (· ∈ tree.nodes) t.owner t.node ∧ t.place.Open start := by
    intro t ht
    obtain ⟨hplace, hmem, howned⟩ := Task.standsAt_ofItems hR tree.mem_nodes_self .body t ht
    exact ⟨hmem, howned, hplace ▸ hopen⟩
  obtain ⟨hfit, hsound⟩ := fit_survey (s := start) hR htasks hlater
  refine ⟨⟨by simp [Fact.Fits], trivial, hfit⟩, fun fact hfact ↦ ?_⟩
  rcases List.mem_append.mp hfact with hfact | hfact
  · obtain rfl | rfl : fact = .opened .program tree none ∨ fact = .placed tree.id 0 := by
      simpa using hfact
    · simp [Fact.sites]
    · simp [Fact.sites]
  · exact hsound fact hfact

namespace Store

theorem analyze_eq_ok_iff {tree : Node} :
    analyze tree = .ok s ↔ tree.hasKind .program = true ∧
      ∃ facts, Program.facts tree = .ok facts ∧ ofFacts facts = s := by
  unfold analyze
  by_cases hprogram : tree.hasKind .program = true
  · rw [if_pos hprogram, map_eq_ok_iff]
    simp only [hprogram, true_and]
  · simp [hprogram]

end Store

end Relabel
