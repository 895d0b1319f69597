import Relabel.Proofs.Labeling.Recognition
import Relabel.Proofs.Labeling.Structure
import Relabel.Proofs.Naming.Refusal
import Relabel.Proofs.Printing.Respelling
import Relabel.Proofs.Scope.Resolution
import Relabel.Proofs.Syntax.Walk

/-!
# What idioms ask for

A program that can be printed can still be printed in the course of a run, whatever was respelled
before. So an idiom that is asked about one of its nodes gives an answer, unless the registry
refuses a name that is computed from the program, and what it asks for are names on one line. Only
a registry whose own names are not on one line could spoil the printing.
-/

namespace Relabel

namespace Store

/-! ## Stores and edits in the course of a run -/

/-- The sites of a store stand in a tree, its declarations under nodes of the tree, and the edits
concern identifiers and the keys of shorthand properties. -/
structure Orderly (tree : Node) (s : Store) (e : Edits) : Prop where
  sites : s.EachSite (Site.Sound (· ∈ tree.nodes))
  declared : ∀ (id : BindingId) (b : Binding), s.bindings[id]? = some b →
    ∀ site ∈ b.declarations, site.parent ∈ tree.nodes
  justified : e.Justified (· ∈ tree.nodes)
  identifiers : ∀ n ∈ tree.nodes, (e.spellings.get? n.id).isSome = true → n.isIdentifier = true

/-- All names are words, those of bindings and those that edits give. -/
structure Worded (s : Store) (e : Edits) : Prop where
  names : ∀ (id : BindingId) (b : Binding), s.bindings[id]? = some b →
    Text.isWord b.name.toList = true
  spellings : ∀ x text, e.spellings.get? x = some text → Text.isWord text.toList = true
  keys : ∀ x text, e.writtenOut.get? x = some (some text) → Text.isWord text.toList = true

/-- A key that a rename puts in has the old name. -/
theorem key_respellSites {b : Binding} {name : String} {e : Edits} {x : NodeId} {text : String}
    (h : (respellSites b name e).writtenOut.get? x = some (some text)) :
    e.writtenOut.get? x = some (some text) ∨ text = b.name := by
  rw [respellSites_eq] at h
  generalize b.sites = sites at h
  induction sites generalizing e with
  | nil => exact .inl h
  | cons site rest ih =>
    rcases ih h with hfirst | hname
    · unfold respellSite Edits.respell at hfirst
      cases howner : site.owner with
      | none =>
        rw [howner] at hfirst
        exact .inl hfirst
      | some property =>
        rw [howner] at hfirst
        by_cases hrenamed : b.renamed = true
        · simp only [hrenamed, if_true] at hfirst
          exact .inl hfirst
        · simp only [hrenamed, Bool.false_eq_true, if_false, Edits.writeOut] at hfirst
          split at hfirst
          · exact .inl hfirst
          · rw [Table.get?_set] at hfirst
            split at hfirst
            · by_cases hshares : Edits.sharesKey property = true
              · simp only [hshares, if_true, Option.some.injEq] at hfirst
                exact .inr hfirst.symm
              · simp [hshares] at hfirst
            · exact .inl hfirst
    · exact .inr hname

theorem Worded.rekey {s : Store} {e : Edits} (h : s.Worded e) {id : BindingId} {b : Binding}
    (hb : s.bindings[id]? = some b) {name : String} (hname : Text.isWord name.toList = true) :
    (s.rekey id b name).Worded (respellSites b name e) where
  names i c hc := by
    rw [getElem?_bindings_rekey] at hc
    split at hc
    · obtain ⟨old, -, rfl⟩ := Option.map_eq_some_iff.mp hc
      exact hname
    · exact h.names i c hc
  spellings x text htext := by
    rw [spellings_respellSites] at htext
    split at htext
    · rwa [← Option.some.inj htext]
    · exact h.spellings x text htext
  keys x text htext := by
    rcases key_respellSites htext with hold | rfl
    · exact h.keys x text hold
    · exact h.names id b hb

theorem preserved_declared (tree : Node) : Preserved fun s _ ↦
    ∀ (id : BindingId) (b : Binding), s.bindings[id]? = some b →
      ∀ site ∈ b.declarations, site.parent ∈ tree.nodes := by
  intro s e id b name h _ _ _ i c hc site hsite
  rw [Store.getElem?_bindings_rekey] at hc
  split at hc
  · obtain ⟨old, hold, rfl⟩ := Option.map_eq_some_iff.mp hc
    exact h i old hold site hsite
  · exact h i c hc site hsite

theorem preserved_orderly {tree : Node} (hunshared : tree.Unshared) : Preserved (Orderly tree) := by
  intro s e id b name h hb hother haccepted
  refine ⟨h.sites.rekey id b name,
    @preserved_declared tree s e id b name h.declared hb hother haccepted,
    h.justified.respellSites (fun site hsite ↦ h.sites id b hb site hsite) name, ?_⟩
  intro n hn hspelled
  rw [spellings_respellSites] at hspelled
  split at hspelled
  · rename_i hsite
    obtain ⟨site, hsite, hid⟩ := List.mem_map.mp hsite
    have hsound := h.sites id b hb site hsite
    obtain rfl := hunshared.identity _ hsound.mem n hn hid
    exact hsound.isIdentifier
  · exact h.identifiers n hn hspelled

section Start

variable {tree : Node} {s : Store} (hanalyze : analyze tree = .ok s)

include hanalyze

theorem orderly_analyze : s.Orderly tree {} := by
  have hdeclared : ∀ (id : BindingId) (b : Binding), s.bindings[id]? = some b →
      ∀ site ∈ b.declarations, site.parent ∈ tree.nodes :=
    fun _ _ hb _ hsite ↦ declaredUnder hanalyze hb hsite
  obtain ⟨-, facts, hfacts, rfl⟩ := analyze_eq_ok_iff.mp hanalyze
  obtain ⟨hfit, hsound⟩ := Program.fit_facts hfacts
  exact ⟨eachSite_ofFacts hfit hsound, hdeclared, Edits.justified_empty _, by simp⟩

theorem worded_analyze (hprintable : tree.Printable) : s.Worded {} := by
  obtain ⟨-, facts, hfacts, rfl⟩ := analyze_eq_ok_iff.mp hanalyze
  obtain ⟨hfit, hsites⟩ := Program.fit_facts hfacts
  refine ⟨fun id b hb ↦ ?_, by simp, by simp⟩
  have hcollects := collects_ofFacts hfit
  obtain ⟨d, hd, hscope, hname, -⟩ := hcollects.kind id b hb
  have hsite : d.2.2 ∈ b.sites := by
    apply List.mem_append_left
    rw [hcollects.declarations id b hb]
    exact List.mem_map.mpr ⟨d, List.mem_filter.mpr ⟨hd, by simp [hscope, hname]⟩, rfl⟩
  have hsound := eachSite_ofFacts hfit hsites id b hb _ hsite
  obtain ⟨text, htext⟩ := hprintable _ hsound.mem
  obtain ⟨spelled, hspelled, hword⟩ := Printing.isWord_of_render hsound.isIdentifier htext
  rw [← hname, Site.name, hspelled]
  exact hword

end Start

end Store

/-- A program without shared nodes that can be printed with all its parts, and whose shorthand
properties can be written out. -/
structure Node.Labelable (tree : Node) : Prop where
  program : tree.kind = some .program
  unshared : tree.Unshared
  printable : tree.Printable
  plain : tree.PlainShorthands

theorem Node.Labelable.isTyped {tree : Node} (h : tree.Labelable) :
    ∀ n ∈ tree.nodes, n.isTyped = true := by
  intro n hn
  obtain ⟨text, htext⟩ := h.printable n hn
  exact Printing.isTyped_of_render htext

/-- The faults with which a run can end that starts with a registry, by the registry that it leaves:
a computed name is refused, or something cannot be printed because a canonical name is not on one
line. -/
def Registry.MayRaise (r now : Registry) (fault : Fault) : Prop :=
  now.Refuses fault ∨ (∃ reason, fault = .printing reason) ∧ ¬ r.Tidy

namespace Recognition

open Issuing (Meets)

/-- What recognisers are shown in the course of a run. -/
structure Context.Fits (c : Context) (tree : Node) (r : Registry) : Prop where
  orderly : c.store.Orderly tree c.edits
  worded : r.Tidy → c.store.Worded c.edits

/-- A recogniser that asks for names on one line only, and fails only as it may. -/
def Answers (r : Registry) (answer : Answer) : Prop :=
  Meets r (fun found ↦ r.Tidy → ∀ requests, found = some requests →
    ∀ request ∈ requests, IsOneLine request.name) r.MayRaise answer

section Recognisers

variable {tree n : Node} {r : Registry} {c : Context} (htree : tree.Labelable)
  (hc : c.Fits tree r)

include htree hc in
theorem Context.Fits.wordy (htidy : r.Tidy) : c.edits.Wordy tree where
  spellings := (hc.worded htidy).spellings
  keys := (hc.worded htidy).keys
  identifiers := hc.orderly.identifiers
  respects := hc.orderly.justified.respects htree.unshared htree.plain.namesKeys
  shared n hn text htext := by
    obtain ⟨property, hmem, hid, hshorthand, hshares, -⟩ := hc.orderly.justified n.id text htext
    obtain rfl := htree.unshared.identity property hmem n hn hid
    exact ⟨hshorthand, hshares⟩

include htree in
theorem isTyped_of_shows (hn : c.edits.Shows tree n) : ∀ m ∈ n.nodes, m.isTyped = true := by
  obtain ⟨m, hm, rfl⟩ := hn
  refine Edits.isTyped_of_mem_nodes_apply fun k hk ↦ ?_
  exact htree.isTyped k (Node.mem_nodes_trans hm hk)

include htree hc in
/-- An identifier that recognisers see is a word. -/
theorem isWord_of_shows (htidy : r.Tidy) (hn : c.edits.Shows tree n)
    (hidentifier : n.isIdentifier = true) : Printing.IsWord n := by
  obtain ⟨m, hm, rfl⟩ := hn
  rw [Edits.isIdentifier_apply] at hidentifier
  obtain ⟨text, htext⟩ := htree.printable m hm
  exact Printing.isWord_apply (hc.wordy htree htidy)
    (Printing.isWord_of_render hidentifier htext)

theorem isOneLine_spelled (h : Printing.IsWord n) : IsOneLine (n.head.name.getD "") := by
  obtain ⟨text, htext, hword⟩ := h
  rw [htext]
  exact isOneLine_of_isWord hword

include htree hc in
theorem meets_render (hn : c.edits.Shows tree n) :
    Meets r (fun _ ↦ True) r.MayRaise (render n) := by
  unfold render
  cases hrender : n.render with
  | ok text => exact .pure trivial
  | error fault =>
    refine .throw fun now ↦ .inr ⟨⟨fault, rfl⟩, fun htidy ↦ ?_⟩
    obtain ⟨m, hm, rfl⟩ := hn
    obtain ⟨text, htext⟩ := Printing.render_apply htree.printable
      (hc.wordy htree htidy) htree.plain hm
    rw [hrender] at htext
    injection htext

include htree in
theorem meets_search (hn : c.edits.Shows tree n) (skip : List Kind) (p : Node → Bool) :
    Meets r (fun _ ↦ True) r.MayRaise (search (n.walk skip) p) := by
  unfold search
  rw [Node.fault_walk (isTyped_of_shows htree hn)]
  split
  · exact .pure trivial
  · exact .pure trivial

theorem answers_nothing : Answers r nothing :=
  .pure fun _ _ hfound ↦ by simp at hfound

theorem exists_of_mem_requests {wanted : List (Option BindingId × String)} {found : List Request}
    (h : requests wanted = some found) {request : Request} (hrequest : request ∈ found) :
    ∃ entry ∈ wanted, entry.2 = request.name := by
  unfold requests at h
  split at h
  · simp at h
  · obtain rfl := Option.some.inj h
    obtain ⟨⟨id, name⟩, hentry, hmade⟩ := List.mem_filterMap.mp hrequest
    obtain ⟨id, rfl, rfl⟩ := Option.map_eq_some_iff.mp hmade
    exact ⟨_, hentry, rfl⟩

/-- A match is in order if the names that it asks for are. -/
theorem answers_requests {wanted : List (Option BindingId × String)}
    (h : r.Tidy → ∀ entry ∈ wanted, IsOneLine entry.2) :
    Answers r (pure (requests wanted)) := by
  refine .pure fun htidy found hfound request hrequest ↦ ?_
  obtain ⟨entry, hentry, hname⟩ := exists_of_mem_requests hfound hrequest
  exact hname ▸ h htidy entry hentry

theorem answers_askFor (identifier : Node) (role : Role) :
    Answers r (askFor c identifier role) := by
  refine Meets.bind (.nameFor role) fun name hname ↦ answers_requests fun htidy entry hentry ↦ ?_
  obtain rfl := List.mem_singleton.mp hentry
  exact hname ▸ htidy role

theorem shows_ofKind? {e : Edits} (hn : e.Shows tree n) {field : Field} (hfield : field ≠ .key)
    {kind : Kind} {child : Node} (hchild : ofKind? n field kind = some child) :
    e.Shows tree child :=
  hn.child? hfield (Option.filter_eq_some_iff.mp hchild).1

include htree in
theorem answers_polyfillAccessor (hn : c.edits.Shows tree n) :
    Answers r (polyfillAccessor c n) := by
  unfold polyfillAccessor
  split
  case h_2 => exact answers_nothing
  case h_1 id _ =>
    split
    case h_2 => exact answers_nothing
    case h_1 init hinit =>
      refine Meets.bind (meets_search htree (hn.child? (by decide) hinit) _ _) fun found _ ↦ ?_
      cases found with
      | false => exact answers_nothing
      | true => exact answers_askFor _ _

theorem shows_guardedStatement? {e : Edits} (hn : e.Shows tree n) {only : Node}
    (honly : guardedStatement? n = some only) : e.Shows tree only := by
  unfold guardedStatement? at honly
  simp only [Option.bind_eq_bind, Option.bind_eq_some_iff] at honly
  obtain ⟨-, -, first, hfirst, -, -, block, hblock, honly⟩ := honly
  rw [Option.join_eq_some_iff] at hfirst
  have hfirstShown := hn.statement (List.mem_of_mem_head? hfirst)
  split at honly
  · rename_i stands hitems
    obtain rfl := Option.some.inj honly
    refine (hfirstShown.child? (by decide) hblock).item (by decide : Field.body ≠ .key) ?_
    rw [hitems]
    exact List.mem_singleton_self _
  · exact absurd honly (by simp)

include htree hc in
theorem answers_guardedInvoker (hn : c.edits.Shows tree n) : Answers r (guardedInvoker c n) := by
  unfold guardedInvoker
  split
  case h_2 => exact answers_nothing
  case h_1 declarator hitems =>
    have hdeclarator : c.edits.Shows tree declarator := by
      refine hn.item (by decide : Field.declarations ≠ .key) ?_
      rw [hitems]
      exact List.mem_singleton_self _
    split
    · exact answers_nothing
    · split
      case h_2 => exact answers_nothing
      case h_1 init hinit =>
        split
        case h_2 => exact answers_nothing
        case h_1 id _ =>
          split
          case h_2 => exact answers_nothing
          case h_1 callee hcallee =>
            split
            case h_2 => exact answers_nothing
            case h_1 only honly =>
              have hinitShown := shows_ofKind? hdeclarator (by decide) hinit
              have honlyShown := shows_guardedStatement?
                (shows_ofKind? hinitShown (by decide) hcallee) honly
              refine Meets.bind (meets_render htree hc honlyShown) fun text _ ↦ ?_
              split
              · exact answers_askFor _ _
              · exact answers_nothing

theorem answers_wrapper : Answers r (wrapper c n) := by
  unfold wrapper
  split
  case h_2 => exact answers_nothing
  case h_1 choice _ =>
    split
    case h_2 => exact answers_nothing
    case h_1 polyfill _ =>
      refine Meets.bind (.nameFor .atobCall) fun callName _ ↦ ?_
      split
      · refine Meets.bind (.nameFor .atobWrapper) fun first hfirst ↦
          Meets.bind (.nameFor .atobPolyfill) fun second hsecond ↦
            answers_requests fun htidy entry hentry ↦ ?_
        rcases List.mem_pair.mp hentry with rfl | rfl
        · exact hfirst ▸ htidy _
        · exact hsecond ▸ htidy _
      · exact answers_nothing

theorem shows_choice? (hn : c.edits.Shows tree n) {choice : Choice}
    (hchoice : choice? n = some choice) :
    c.edits.Shows tree choice.consequent ∧ c.edits.Shows tree choice.alternate := by
  unfold choice? at hchoice
  simp only [Option.bind_eq_bind, Option.bind_eq_some_iff] at hchoice
  obtain ⟨id, -, -, -, argument, hargument, test, -, consequent, hconsequent, alternate, halternate,
    hmade⟩ := hchoice
  obtain rfl := Option.some.inj hmade
  have hargumentShown := hn.soleReturn? (Option.filter_eq_some_iff.mp hargument).1
  exact ⟨shows_ofKind? hargumentShown (by decide) hconsequent,
    shows_ofKind? hargumentShown (by decide) halternate⟩

theorem shows_soleArgument? (hn : c.edits.Shows tree n) {argument : Node}
    (hargument : soleArgument? n = some (some argument)) : c.edits.Shows tree argument := by
  unfold soleArgument? at hargument
  simp only [Option.bind_eq_bind, Option.bind_eq_some_iff] at hargument
  obtain ⟨-, -, hargument⟩ := hargument
  split at hargument
  · rename_i stands hitems
    obtain rfl := Option.some.inj hargument
    refine hn.item (by decide : Field.arguments ≠ .key) ?_
    rw [show n.items .arguments = [some argument] from hitems]
    exact List.mem_singleton_self _
  · exact absurd hargument (by simp)

include htree hc in
theorem answers_stringGuard (hn : c.edits.Shows tree n) : Answers r (stringGuard c n) := by
  unfold stringGuard
  split
  case h_2 => exact answers_nothing
  case h_1 choice hchoice =>
    obtain ⟨hconsequent, halternate⟩ := shows_choice? hn hchoice
    dsimp only
    split
    · exact answers_nothing
    · split
      case h_2 => exact answers_nothing
      case h_1 first hfirst =>
        split
        case h_2 => exact answers_nothing
        case h_1 second hsecond =>
          refine Meets.bind (meets_render htree hc (shows_soleArgument? hconsequent hfirst))
            fun text _ ↦ Meets.bind
              (meets_render htree hc (shows_soleArgument? halternate hsecond)) fun other _ ↦ ?_
          split
          · exact answers_askFor _ _
          · exact answers_nothing

include htree in
theorem answers_chartDecode (hn : c.edits.Shows tree n) : Answers r (chartDecode c n) := by
  unfold chartDecode
  split
  case h_2 => exact answers_nothing
  case h_1 id _ =>
    split
    case h_2 => exact answers_nothing
    case h_1 body hbody =>
      refine Meets.bind (meets_search htree (hn.child? (by decide) hbody) _ _) fun found _ ↦ ?_
      cases found with
      | false => exact answers_nothing
      | true => exact answers_askFor _ _

theorem answers_standardDecode : Answers r (standardDecode c n) := by
  unfold standardDecode
  repeat' split
  all_goals first
    | exact answers_nothing
    | exact answers_askFor _ _

include htree hc in
theorem answers_performanceNow (hn : c.edits.Shows tree n) : Answers r (performanceNow c n) := by
  unfold performanceNow
  split
  case h_2 => exact answers_nothing
  case h_1 id _ =>
    split
    · exact answers_nothing
    · split
      case h_2 => exact answers_nothing
      case h_1 argument hargument =>
        refine Meets.bind (meets_render htree hc (hn.soleReturn? hargument)) fun text _ ↦ ?_
        split
        · exact answers_askFor _ _
        · exact answers_nothing

theorem answers_catchParameter : Answers r (catchParameter c n) := by
  unfold catchParameter
  split
  case h_2 => exact answers_nothing
  case h_1 => exact answers_askFor _ _

include htree hc in
/-- What a getter returns is spelled on one line. -/
theorem isOneLine_returned (htidy : r.Tidy) {now : Registry} {id : BindingId} {b : Binding}
    (hb : c.store.bindings[id]? = some b) {argument : Node}
    (hargument : returnedBy? c now b = some argument) :
    IsOneLine (argument.head.name.getD "") := by
  unfold returnedBy? returnedIdentifier? at hargument
  simp only [Option.bind_eq_bind, Option.bind_eq_some_iff] at hargument
  obtain ⟨-, -, site, hsite, -, -, -, -, -, -, hargument⟩ := hargument
  obtain ⟨hreturned, hidentifier⟩ := Option.filter_eq_some_iff.mp hargument
  have hparent : c.edits.Shows tree (c.edits.apply site.parent) :=
    ⟨_, hc.orderly.declared id b hb site (List.mem_of_mem_head? hsite), rfl⟩
  exact isOneLine_spelled
    (isWord_of_shows htree hc htidy (hparent.soleReturn? hreturned) hidentifier)

include htree hc in
theorem meets_finalName (unvisited : List BindingId) (id : BindingId) :
    Meets r (fun found ↦ r.Tidy → ∀ name, found = some name → IsOneLine name) r.MayRaise
      (finalName c unvisited id) := by
  rw [finalName]
  split
  case h_2 => exact .pure fun _ name hname ↦ by simp at hname
  case h_1 b hb =>
    refine Meets.bind .registry fun now hnow ↦ ?_
    split
    case h_2 =>
      refine .pure fun htidy name hname ↦ ?_
      obtain rfl := Option.some.inj hname
      exact isOneLine_of_isWord ((hc.worded htidy).names id b hb)
    case h_1 argument hargument =>
      have hnext (hfresh : id ∈ unvisited) (returned : BindingId) :=
        meets_finalName (unvisited.erase id) returned
      split
      · rename_i hfresh
        extract_lets nameAfter
        have hgetter (field : Option String)
            (hfield : r.Tidy → ∀ name, field = some name → IsOneLine name) :
            Meets r (fun found ↦ r.Tidy → ∀ name, found = some name → IsOneLine name) r.MayRaise
              (nameAfter field) := by
          cases field with
          | none => exact .pure fun _ name hname ↦ by simp at hname
          | some field =>
            refine Meets.bind (.getterName (fun _ _ _ h ↦ .inl h) field) fun found hfound ↦ ?_
            refine .pure fun htidy name hname ↦ ?_
            obtain rfl := Option.some.inj hname
            rw [hfound]
            exact Registry.getterName_isOneLine htidy (hfield htidy field rfl)
        split
        · rename_i returned _
          exact Meets.bind (hnext hfresh returned) hgetter
        · refine Meets.bind (.pure (R := fun field ↦ r.Tidy → ∀ name, field = some name →
            IsOneLine name) fun htidy name hname ↦ ?_) hgetter
          have hline := isOneLine_returned htree hc htidy hb hargument
          rwa [hname] at hline
      · exact .pure fun _ name hname ↦ by simp at hname
termination_by unvisited.length
decreasing_by
  have hshorter := List.length_erase_of_mem hfresh
  have hpositive := List.length_pos_of_mem hfresh
  omega

include htree hc in
theorem answers_simpleGetter : Answers r (simpleGetter c n) := by
  unfold simpleGetter
  split
  case h_2 => exact answers_nothing
  case h_1 id _ =>
    refine Meets.bind .registry fun now _ ↦ ?_
    split
    · exact answers_nothing
    · refine Meets.bind (meets_finalName htree hc _ id) fun found hfound ↦ ?_
      cases found with
      | none => exact answers_nothing
      | some name =>
        refine answers_requests fun htidy entry hentry ↦ ?_
        obtain rfl := List.mem_singleton.mp hentry
        exact hfound htidy name rfl

include htree hc in
/-- The key of a property is spelled on one line. -/
theorem isOneLine_key (htidy : r.Tidy) {p : Node} (hp : c.edits.Shows tree p) {key value : Node}
    (hproperty : identifierProperty? p = some (key, value)) :
    IsOneLine (key.head.name.getD "") := by
  unfold identifierProperty? at hproperty
  simp only [Option.bind_eq_bind, Option.bind_eq_some_iff] at hproperty
  obtain ⟨-, -, -, -, key', hkey, value', -, hsame⟩ := hproperty
  obtain ⟨rfl, rfl⟩ := Prod.mk.inj (Option.some.inj hsame)
  obtain ⟨hkey, hidentifier⟩ := Option.filter_eq_some_iff.mp hkey
  obtain ⟨m, hm, rfl⟩ := hp
  rcases Edits.mem_branches_apply (Node.mem_branches_of_child? hkey) with
    ⟨part, hpart, rfl⟩ | ⟨text, -, htext, rfl⟩
  · have hshown : c.edits.Shows tree (c.edits.apply part) :=
      ⟨part, Node.mem_nodes_of_mem_branches hm hpart, rfl⟩
    exact isOneLine_spelled (isWord_of_shows htree hc htidy hshown hidentifier)
  · exact isOneLine_spelled (Printing.isWord_newKey (hc.wordy htree htidy) htext)

include htree hc in
theorem answers_handlerMap (hn : c.edits.Shows tree n) : Answers r (handlerMap c n) := by
  unfold handlerMap
  split
  case h_2 => exact answers_nothing
  case h_1 map hmap =>
    have hmapShown := shows_ofKind? hn (by decide) hmap
    dsimp only
    split
    · exact answers_nothing
    · refine Meets.bind (R := fun handlers : List (Option BindingId × String) ↦
        ∀ entry ∈ handlers, r.Tidy → IsOneLine entry.2) (.mapM fun found hfound ↦ ?_)
          fun handlers hhandlers ↦ ?_
      · obtain ⟨key, value⟩ := found
        obtain ⟨item, hitem, hproperty⟩ := List.mem_filterMap.mp hfound
        obtain ⟨p, rfl, hproperty⟩ := Option.bind_eq_some_iff.mp hproperty
        refine Meets.bind (.handlerName (fun _ _ _ h ↦ .inl h) _) fun name hname ↦
          .pure fun htidy ↦ ?_
        rw [hname]
        exact Registry.handlerName_isOneLine htidy
          (isOneLine_key htree hc htidy (hmapShown.item (by decide) hitem) hproperty)
      split
      · refine Meets.bind (.nameFor .responseHandlers) fun name hname ↦
          answers_requests fun htidy entry hentry ↦ ?_
        rcases List.mem_append.mp hentry with hhandler | hown
        · exact hhandlers entry hhandler htidy
        · obtain rfl := List.mem_singleton.mp hown
          exact hname ▸ htidy _
      · refine answers_requests fun htidy entry hentry ↦ ?_
        rw [List.append_nil] at hentry
        exact hhandlers entry hentry htidy

theorem answers_handlerParameters (hroles : r.parameterRoles = defaultParameterRoles) :
    Answers r (handlerParameters c n) := by
  unfold handlerParameters
  split
  case h_2 => exact answers_nothing
  case h_1 id _ =>
    refine Meets.bind (.parameterRoles (fun _ _ _ h ↦ .inl h) hroles) fun roles hnames ↦ ?_
    split
    case h_2 => exact answers_nothing
    case h_1 names hfound =>
      dsimp only
      split
      · exact answers_nothing
      · refine answers_requests fun htidy entry hentry ↦ ?_
        exact hnames htidy _ names hfound entry.2 (List.of_mem_zip hentry).2

include htree hc in
/-- Every idiom answers as it should. -/
theorem answers_recognise (hroles : r.parameterRoles = defaultParameterRoles)
    (hn : c.edits.Shows tree n) (idiom : Idiom) : Answers r (idiom.recognise c n) := by
  cases idiom with
  | polyfillAccessor => exact answers_polyfillAccessor htree hn
  | guardedInvoker => exact answers_guardedInvoker htree hc hn
  | wrapper => exact answers_wrapper
  | stringGuard => exact answers_stringGuard htree hc hn
  | catchParameter => exact answers_catchParameter
  | chartDecode => exact answers_chartDecode htree hn
  | standardDecode => exact answers_standardDecode
  | performanceNow => exact answers_performanceNow htree hc hn
  | simpleGetter => exact answers_simpleGetter htree hc
  | handlerParameters => exact answers_handlerParameters hroles
  | handlerMap => exact answers_handlerMap htree hc hn

end Recognisers

end Recognition

end Relabel
