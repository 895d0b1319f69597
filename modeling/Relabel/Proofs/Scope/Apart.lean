import Relabel.Proofs.Scope.Collection
import Relabel.Proofs.Scope.Ownership

/-!
# Identifiers that belong to one binding

An identifier that stands for a variable at one place of a program is a site of one binding. The
sites of a binding are spelled with its name when the program is analysed; if they are sites of no
other binding, they stay so whatever is renamed.
-/

namespace Relabel

/-- No identifier belongs to both bindings. -/
def Binding.Apart (b c : Binding) : Prop :=
  ∀ site ∈ b.sites, ∀ other ∈ c.sites, site.id ≠ other.id

instance (b c : Binding) : Decidable (b.Apart c) :=
  inferInstanceAs (Decidable (∀ site ∈ b.sites, ∀ other ∈ c.sites, site.id ≠ other.id))

theorem eq_of_count_map_le_one {α κ : Type} [DecidableEq κ] {f : α → κ} {x : κ} {l : List α}
    (hcount : (l.map f).count x ≤ 1) {a b : α} (ha : a ∈ l) (hb : b ∈ l) (hfa : f a = x)
    (hfb : f b = x) : a = b := by
  induction l with
  | nil => exact absurd ha List.not_mem_nil
  | cons first rest ih =>
    rw [List.map_cons, List.count_cons] at hcount
    have hrest {c : α} (hc : c ∈ rest) (hfc : f c = x) : 0 < (rest.map f).count x :=
      List.count_pos_iff.mpr (List.mem_map.mpr ⟨c, hc, hfc⟩)
    rcases List.mem_cons.mp ha with rfl | hainner <;> rcases List.mem_cons.mp hb with rfl | hbinner
    · rfl
    · have hmore := hrest hbinner hfb
      simp only [hfa, beq_self_eq_true, if_true] at hcount
      omega
    · have hmore := hrest hainner hfa
      simp only [hfb, beq_self_eq_true, if_true] at hcount
      omega
    · exact ih (by omega) hainner hbinner

namespace Store

variable {facts : List Fact} {i j : BindingId} {b c : Binding}

theorem mem_declaredSites_of_mem (hfit : Fact.Fit {} facts)
    (hb : (ofFacts facts).bindings[i]? = some b) {site : Site} (hsite : site ∈ b.declarations) :
    ∃ d ∈ facts.filterMap Fact.declaration?, d.2.2 = site ∧ d.1 = b.scope ∧ site.name = b.name := by
  rw [(collects_ofFacts hfit).declarations i b hb] at hsite
  obtain ⟨d, hd, rfl⟩ := List.mem_map.mp hsite
  obtain ⟨hmem, hsame⟩ := List.mem_filter.mp hd
  obtain ⟨hscope, hname⟩ := of_decide_eq_true hsame
  exact ⟨d, hmem, rfl, hscope, hname⟩

theorem mem_referredSites_of_mem (hfit : Fact.Fit {} facts)
    (hb : (ofFacts facts).bindings[i]? = some b) {site : Site} (hsite : site ∈ b.references) :
    site ∈ Fact.referredSites facts ∧
      (ofFacts facts).lookup? site.scope site.name = some i := by
  have href := ((consistent_ofFacts hfit).mem_references_iff hb).mp hsite
  obtain ⟨other, hother, hsame⟩ := List.mem_map.mp href
  obtain ⟨rfl, hfound⟩ := Reference.mk.inj hsame
  exact ⟨hother, hfound⟩

/-- When a program is analysed, the sites of a binding are spelled with its name. -/
theorem name_of_mem_sites (hfit : Fact.Fit {} facts)
    (hb : (ofFacts facts).bindings[i]? = some b) {site : Site} (hsite : site ∈ b.sites) :
    site.name = b.name := by
  rcases List.mem_append.mp hsite with hdeclared | hreferred
  · obtain ⟨-, -, -, -, hname⟩ := mem_declaredSites_of_mem hfit hb hdeclared
    exact hname
  · obtain ⟨-, hfound⟩ := mem_referredSites_of_mem hfit hb hreferred
    obtain ⟨b', hb', hname, -⟩ := (consistent_ofFacts hfit).lookup?_some hfound
    obtain rfl : b = b' := Option.some.inj (hb.symm.trans hb')
    exact hname.symm

/-- An identifier that facts mention once is a site of one binding. -/
theorem eq_of_count_sites_le_one (hfit : Fact.Fit {} facts)
    (hb : (ofFacts facts).bindings[i]? = some b) (hc : (ofFacts facts).bindings[j]? = some c)
    {site other : Site} (hsite : site ∈ b.sites) (hother : other ∈ c.sites)
    (hid : site.id = other.id)
    (honce : ((facts.flatMap Fact.sites).map Site.id).count site.id ≤ 1) : i = j := by
  have hconsistent := consistent_ofFacts hfit
  rw [((Fact.sites_perm facts).map Site.id).count_eq, List.map_append, List.count_append] at honce
  have hdeclared {k : BindingId} {d : Binding} (hd : (ofFacts facts).bindings[k]? = some d)
      {twin : Site} (htwin : twin ∈ d.declarations) (htwinId : twin.id = site.id) :
      0 < ((Fact.declaredSites facts).map Site.id).count site.id := by
    obtain ⟨stated, hstated, rfl, -⟩ := mem_declaredSites_of_mem hfit hd htwin
    rw [Fact.declaredSites_eq, List.count_pos_iff]
    exact List.mem_map.mpr ⟨_, List.mem_map.mpr ⟨stated, hstated, rfl⟩, htwinId⟩
  have hreferred {k : BindingId} {d : Binding} (hd : (ofFacts facts).bindings[k]? = some d)
      {twin : Site} (htwin : twin ∈ d.references) (htwinId : twin.id = site.id) :
      0 < ((Fact.referredSites facts).map Site.id).count site.id := by
    rw [List.count_pos_iff]
    exact List.mem_map.mpr ⟨twin, (mem_referredSites_of_mem hfit hd htwin).1, htwinId⟩
  rcases List.mem_append.mp hsite with hours | hours <;>
    rcases List.mem_append.mp hother with htheirs | htheirs
  · -- Both are declared, so by one statement.
    obtain ⟨stated, hstated, rfl, hscope, hname⟩ := mem_declaredSites_of_mem hfit hb hours
    obtain ⟨stated', hstated', rfl, hscope', hname'⟩ := mem_declaredSites_of_mem hfit hc htheirs
    rw [Fact.declaredSites_eq, List.map_map] at honce
    obtain rfl := eq_of_count_map_le_one (Nat.le_of_add_right_le honce) hstated hstated' rfl
      hid.symm
    exact hconsistent.binding_inj hb hc (hscope.symm.trans hscope') (hname.symm.trans hname')
  · have hfirst := hdeclared hb hours rfl
    have hsecond := hreferred hc htheirs hid.symm
    omega
  · have hfirst := hreferred hb hours rfl
    have hsecond := hdeclared hc htheirs hid.symm
    omega
  · -- Both are references, so one reference, which finds one binding.
    obtain ⟨hmem, hfound⟩ := mem_referredSites_of_mem hfit hb hours
    obtain ⟨hmem', hfound'⟩ := mem_referredSites_of_mem hfit hc htheirs
    obtain rfl := eq_of_count_map_le_one (by omega) hmem hmem' rfl hid.symm
    exact Option.some.inj (hfound.symm.trans hfound')

end Store

end Relabel
