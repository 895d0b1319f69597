import Relabel.Proofs.Labeling.Safety
import Relabel.Proofs.Scope.Isomorphism

/-!
# Lists of accepted renames

Calls on a program come down to a list of renames that were accepted one after the other. What the
store says about a binding afterwards depends only on the last of them that was about the binding,
and so does the spelling of every identifier.
-/

namespace Relabel

/-- The last name that a list of requests gives to a binding. -/
def lastName? (requests : List Request) (id : BindingId) : Option String :=
  (requests.reverse.find? fun request ↦ request.binding = id).map (·.name)

@[simp]
theorem lastName?_nil (id : BindingId) : lastName? [] id = none := rfl

theorem lastName?_append_singleton (requests : List Request) (request : Request)
    (id : BindingId) :
    lastName? (requests ++ [request]) id =
      if request.binding = id then some request.name else lastName? requests id := by
  unfold lastName?
  rw [List.reverse_append, List.reverse_singleton, List.singleton_append, List.find?_cons]
  by_cases hid : request.binding = id <;> simp [hid]

theorem isSome_lastName?_append_singleton (requests : List Request) (request : Request)
    (id : BindingId) :
    (lastName? (requests ++ [request]) id).isSome = true ↔
      request.binding = id ∨ (lastName? requests id).isSome = true := by
  rw [lastName?_append_singleton]
  by_cases hid : request.binding = id <;> simp [hid]

theorem mem_of_lastName? {requests : List Request} {id : BindingId} {name : String}
    (h : lastName? requests id = some name) : ⟨id, name⟩ ∈ requests := by
  obtain ⟨request, hfound, rfl⟩ := Option.map_eq_some_iff.mp h
  have hid : request.binding = id := by simpa using List.find?_some hfound
  subst hid
  exact List.mem_reverse.mp (List.mem_of_find?_eq_some hfound)

theorem exists_lastName?_of_mem {requests : List Request} {request : Request}
    (h : request ∈ requests) : ∃ name, lastName? requests request.binding = some name := by
  have hfound : (requests.reverse.find? fun other ↦ other.binding = request.binding).isSome :=
    List.find?_isSome.mpr ⟨request, List.mem_reverse.mpr h, by simp⟩
  obtain ⟨last, hlast⟩ := Option.isSome_iff_exists.mp hfound
  exact ⟨last.name, Option.map_eq_some_iff.mpr ⟨last, hlast, rfl⟩⟩

namespace Store

/-- Requests for new names that are granted one after the other, starting from a store, with the
store and the edits that they lead to. -/
inductive Grants (s : Store) : List Request → Store → Edits → Prop
  | start : Grants s [] s {}
  | more {requests : List Request} {live live' : Store} {e e' : Edits} {b : Binding}
      {request : Request} : Grants s requests live e →
      live.bindings[request.binding]? = some b → b.name ≠ request.name →
      live.rename e request.binding request.name = .ok (live', e') →
      Grants s (requests ++ [request]) live' e'

/-- A request that is granted changes the store and the edits. -/
theorem eq_of_rename_eq_ok {s s' : Store} {e e' : Edits} {id : BindingId} {b : Binding}
    {name : String} (hb : s.bindings[id]? = some b) (hne : b.name ≠ name)
    (hrename : s.rename e id name = .ok (s', e')) :
    s' = s.rekey id b name ∧ e' = respellSites b name e := by
  rcases rename_eq_ok_iff.mp hrename with ⟨hsame, -, -⟩ | ⟨c, hc, -, -, rfl, rfl⟩
  · exact absurd (hsame b hb) hne
  · obtain rfl : b = c := Option.some.inj (hb.symm.trans hc)
    exact ⟨rfl, rfl⟩

/-- What accepted renames preserve holds after every list of them. -/
theorem Grants.preserves {s live : Store} {requests : List Request} {e : Edits}
    (h : s.Grants requests live e) {P : Store → Edits → Prop} (hP : Preserved P)
    (hstart : P s {}) : P live e := by
  induction h with
  | start => exact hstart
  | more _ _ _ hrename ih => exact hP.store_rename ih hrename

/-- A request adds to the granted ones, or nothing changes. -/
theorem Grants.engine_rename {s : Store} {engine : Engine} {requests : List Request}
    (h : s.Grants requests engine.store engine.edits) (idiom : String) (request : Request) :
    ∃ more, s.Grants more (engine.rename idiom request).1.store
        (engine.rename idiom request).1.edits ∧
      ∀ granted ∈ more, granted ∈ requests ∨ granted = request := by
  unfold Engine.rename
  cases hb : engine.store.bindings[request.binding]? with
  | none => exact ⟨requests, h, fun _ ↦ .inl⟩
  | some b =>
    by_cases hname : b.name = request.name
    · simp only [hname, if_true]
      exact ⟨requests, h, fun _ ↦ .inl⟩
    · simp only [if_neg hname]
      cases hrename : engine.store.rename engine.edits request.binding request.name with
      | error collision => exact ⟨requests, h, fun _ ↦ .inl⟩
      | ok result =>
        refine ⟨requests ++ [request], h.more hb hname hrename, fun granted hgranted ↦ ?_⟩
        rwa [List.mem_append, List.mem_singleton] at hgranted

theorem preserved_grants (s : Store) :
    Preserved fun live e ↦ ∃ requests, s.Grants requests live e := by
  rintro live e id b name ⟨requests, hgrants⟩ hb hne haccepted
  refine ⟨requests ++ [⟨id, name⟩], hgrants.more hb (Ne.symm hne) ?_⟩
  exact rename_eq_ok_iff.mpr (.inr ⟨b, hb, hne, haccepted, rfl, rfl⟩)

/-- A binding after requests were granted. -/
def granted (requests : List Request) (id : BindingId) (b : Binding) : Binding :=
  match lastName? requests id with
  | some name => { b with name, renamed := true }
  | none => b

@[simp]
theorem sites_granted (requests : List Request) (id : BindingId) (b : Binding) :
    (granted requests id b).sites = b.sites := by
  unfold granted
  split <;> rfl

theorem granted_append_singleton (requests : List Request) (request : Request) (id : BindingId)
    (b : Binding) :
    granted (requests ++ [request]) id b =
      if request.binding = id then
        { granted requests id b with name := request.name, renamed := true }
      else granted requests id b := by
  unfold granted
  rw [lastName?_append_singleton]
  by_cases hid : request.binding = id
  · rw [if_pos hid, if_pos hid]
    cases lastName? requests id <;> rfl
  · rw [if_neg hid, if_neg hid]

theorem Grants.bindings {s live : Store} {requests : List Request} {e : Edits}
    (h : s.Grants requests live e) (id : BindingId) :
    live.bindings[id]? = s.bindings[id]?.map (granted requests id) := by
  induction h with
  | start =>
    have hsame : granted [] id = fun b ↦ b := rfl
    rw [hsame, Option.map_id']
  | @more requests live _ _ _ b request _ hb hne hrename ih =>
    obtain ⟨rfl, -⟩ := eq_of_rename_eq_ok hb hne hrename
    rw [getElem?_bindings_rekey, ih]
    cases hold : s.bindings[id]? with
    | none => simp
    | some old =>
      simp only [Option.map_some, granted_append_singleton]
      by_cases hid : request.binding = id
      · rw [if_pos hid, if_pos hid]
      · rw [if_neg hid, if_neg hid]

end Store

namespace Engine.Reachable

variable {tree : Node} {s : Store} {engine : Engine}

theorem grants (h : engine.Reachable tree s) :
    ∃ requests, s.Grants requests engine.store engine.edits :=
  h.preserves (Store.preserved_grants s) ⟨[], .start⟩

end Engine.Reachable

end Relabel
