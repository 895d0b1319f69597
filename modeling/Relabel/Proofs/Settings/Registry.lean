import Relabel.Proofs.Naming.Bindable
import Relabel.Settings.Basic

/-!
# Settings and the registry that they ask for

Settings are checked before a registry is made from them: the leading text for itself, and each
descriptor for itself. A name is what the two make together. The checks leave out that a leading
text may end in a line feed, that a name made from a descriptor alone may start with a digit, and
that a name may be a reserved word.
-/

namespace Relabel

/-- Whether the first character of a text is a digit. -/
def startsWithDigit (text : String) : Bool :=
  text.toList.head?.any Char.isDigit

section Pieces

variable {lead text : String}

theorem lineOf_append {a b : List Char} (hb : b ≠ []) : lineOf (a ++ b) = a ++ lineOf b := by
  have hlast : (a ++ b).getLast? = b.getLast? := by
    rw [List.getLast?_append, Option.or_of_isSome (by simpa using hb)]
  unfold lineOf
  rw [hlast, apply_ite (a ++ ·), List.dropLast_append_of_ne_nil hb]

theorem toList_ne_nil_of_isNamePiece (h : isNamePiece text = true) : text.toList ≠ [] := by
  intro hnil
  simp [isNamePiece, lineOf, hnil] at h

theorem head?_lineOf {cs : List Char} (h : lineOf cs ≠ []) : (lineOf cs).head? = cs.head? := by
  unfold lineOf at h ⊢
  split
  · rename_i hlast
    rw [if_pos hlast, ← List.length_pos_iff, List.length_dropLast] at h
    rw [List.head?_dropLast, if_pos (by omega)]
  · rfl

/-- A part of a name is an identifier unless it starts with a digit. -/
theorem isIdentifier_iff_of_isNamePiece (h : isNamePiece text = true) :
    isIdentifier text = true ↔ startsWithDigit text = false := by
  rw [isNamePiece, Bool.and_eq_true, Bool.not_eq_true', List.isEmpty_eq_false_iff] at h
  obtain ⟨hnonempty, hparts⟩ := h
  rw [isIdentifier, startsWithDigit, ← head?_lineOf hnonempty]
  generalize lineOf text.toList = cs at hnonempty hparts ⊢
  cases cs with
  | nil => exact absurd rfl hnonempty
  | cons c rest =>
    rw [List.all_cons, Bool.and_eq_true] at hparts
    simp [isPlainName, isNameStart_iff, hparts.1, hparts.2]

/-- A plain name and a part of a name make an identifier. -/
theorem isIdentifier_append_of_isPlain (hlead : IsPlain lead) (h : isNamePiece text = true) :
    isIdentifier (lead ++ text) = true := by
  rw [isPlain_iff] at hlead
  unfold isIdentifier
  rw [String.toList_append, lineOf_append (toList_ne_nil_of_isNamePiece h)]
  unfold isNamePiece at h
  rw [Bool.and_eq_true] at h
  cases hcs : lead.toList with
  | nil => simp [hcs, isPlainName] at hlead
  | cons c rest =>
    rw [hcs, isPlainName, Bool.and_eq_true] at hlead
    rw [List.cons_append, isPlainName, List.all_append, hlead.1, hlead.2, h.2]
    rfl

/-- An identifier has a line feed at most at its end. -/
theorem isOneLine_of_isIdentifier_append (htext : text.toList ≠ [])
    (h : isIdentifier (lead ++ text) = true) : IsOneLine lead := by
  rcases isPlain_or_of_isIdentifier h with hplain | ⟨plain, hplain, hsplit⟩
  · exact (isOneLine_append.mp hplain.isOneLine).1
  · have hbefore : lead.toList ++ text.toList.dropLast = plain.toList := by
      have hchars := congrArg (·.toList.dropLast) hsplit
      simpa [List.dropLast_append_of_ne_nil htext] using hchars
    intro hfeed
    exact hplain.isOneLine (hbefore ▸ List.mem_append_left _ hfeed)

end Pieces

namespace Settings

/-- Settings whose leading text and descriptors pass their checks. -/
structure Accepted (s : Settings) : Prop where
  lead : checkLead (some (.text s.lead)) = .ok s.lead
  descriptor : ∀ role,
    checkDescriptor role (some (.text (s.descriptors role))) = .ok (s.descriptors role)

variable {s : Settings}

theorem accepted_iff :
    s.Accepted ↔ isLead s.lead = true ∧ ∀ role, isNamePiece (s.descriptors role) = true := by
  have hlead : checkLead (some (.text s.lead)) = .ok s.lead ↔ isLead s.lead = true := by
    by_cases h : isLead s.lead = true <;> simp [checkLead, reject, h]
  have hdescriptor (role : Role) :
      checkDescriptor role (some (.text (s.descriptors role))) = .ok (s.descriptors role) ↔
        isNamePiece (s.descriptors role) = true := by
    by_cases h : isNamePiece (s.descriptors role) = true <;> simp [checkDescriptor, reject, h]
  rw [← hlead, ← forall_congr' hdescriptor]
  exact ⟨fun h ↦ ⟨h.lead, h.descriptor⟩, fun h ↦ ⟨h.1, h.2⟩⟩

theorem isLead_of_checkLead {given : Option Json} {lead : String}
    (h : checkLead given = .ok lead) : isLead lead = true := by
  unfold checkLead at h
  split at h
  · obtain rfl := Except.ok.inj h
    decide
  · obtain rfl := Except.ok.inj h
    decide
  · split at h
    · rename_i hlead
      obtain rfl := Except.ok.inj h
      exact hlead
    · cases h
  · cases h

theorem isNamePiece_of_checkDescriptor {role : Role} {given : Option Json} {text : String}
    (h : checkDescriptor role given = .ok text) : isNamePiece text = true := by
  unfold checkDescriptor at h
  split at h
  · obtain rfl := Except.ok.inj h
    cases role <;> decide
  · split at h
    · rename_i hpiece
      obtain rfl := Except.ok.inj h
      exact hpiece
    · cases h
  · cases h

/-- A descriptor without objections is accepted. -/
theorem exists_checkDescriptor_of_objections {role : Role} {given : Option Json}
    (h : objections (checkDescriptor role given) = []) :
    ∃ text, checkDescriptor role given = .ok text := by
  cases hcheck : checkDescriptor role given with
  | ok text => exact ⟨text, rfl⟩
  | error faults =>
    obtain rfl : faults = [] := by rwa [hcheck] at h
    unfold checkDescriptor at hcheck
    split at hcheck
    · cases hcheck
    · split at hcheck <;> cases hcheck
    · cases hcheck

theorem isNamePiece_of_checkNames {given : Option Json} {descriptors : Descriptors}
    (h : checkNames given = .ok descriptors) (role : Role) :
    isNamePiece (descriptors role) = true := by
  unfold checkNames at h
  split at h
  · obtain rfl := Except.ok.inj h
    cases role <;> decide
  · dsimp only at h
    split at h
    · rename_i hnone
      obtain rfl := Except.ok.inj h
      obtain ⟨text, htext⟩ := exists_checkDescriptor_of_objections
        (List.flatMap_eq_nil_iff.mp hnone role (by cases role <;> decide))
      simp only [htext]
      exact isNamePiece_of_checkDescriptor htext
    · cases h
  · cases h

/-- Settings that data are read as are accepted, and so are the standard ones. -/
theorem accepted_of_validate {fields : List (String × Json)} (h : validate fields = .ok s) :
    s.Accepted := by
  unfold validate at h
  dsimp only at h
  split at h
  · cases h
  · split at h
    · rename_i hlead hnames _ _ _
      obtain rfl := Except.ok.inj h
      exact accepted_iff.mpr ⟨isLead_of_checkLead hlead, isNamePiece_of_checkNames hnames⟩
    · cases h

/-! ## The names of settings -/

/-- The name that settings make for a role. -/
def canonicalName (s : Settings) : Role → String :=
  Registry.nameFor { lead := s.lead, descriptors := s.descriptors, parameterRoles := [] }

theorem isIdentifier_canonicalName_iff (h : s.Accepted) (role : Role) :
    isIdentifier (s.canonicalName role) = true ↔ (role.hasLead = true → IsOneLine s.lead) ∧
      (role.hasLead = false ∨ s.lead = "" → startsWithDigit (s.descriptors role) = false) := by
  obtain ⟨hlead, hpiece⟩ := accepted_iff.mp h
  have hrole := isIdentifier_iff_of_isNamePiece (hpiece role)
  rw [canonicalName, Registry.nameFor]
  cases hprefixed : role.hasLead with
  | false => simpa using hrole
  | true =>
    dsimp only
    rw [if_pos rfl]
    simp only [Bool.true_eq_false, false_or, forall_const]
    by_cases hempty : s.lead = ""
    · rw [hempty, String.empty_append, hrole]
      simp [IsOneLine]
    · have hidentifier : isIdentifier s.lead = true := by
        simpa [isLead, hempty] using hlead
      refine ⟨fun hname ↦ ⟨?_, fun hnone ↦ absurd hnone hempty⟩, fun hboth ↦ ?_⟩
      · exact isOneLine_of_isIdentifier_append (toList_ne_nil_of_isNamePiece (hpiece role)) hname
      · rcases isPlain_or_of_isIdentifier hidentifier with hplain | ⟨plain, -, hfeed⟩
        · exact isIdentifier_append_of_isPlain hplain (hpiece role)
        · exact absurd hboth.1 (by simp [hfeed, IsOneLine])

theorem exists_registry_iff_isIdentifier :
    (∃ r, s.registry = .ok r) ↔ (∀ role, isIdentifier (s.canonicalName role) = true) ∧
      Function.Injective s.canonicalName :=
  Registry.exists_create_iff s.lead s.descriptors defaultParameterRoles

theorem nameFor_of_registry {r : Registry} (h : s.registry = .ok r) (role : Role) :
    r.nameFor role = s.canonicalName role :=
  (Registry.later_of_foldlM_claimRole h).1.nameFor role

end Settings

/-- A name is refused as such if it is no identifier or a reserved word. -/
theorem Store.refusal?_eq_notIdentifier_iff {s : Store} {id : BindingId} {b : Binding}
    {name : String} :
    s.refusal? id b name = some .notIdentifier ↔
      isIdentifier name = false ∨ isReserved name = true := by
  unfold refusal?
  by_cases hname : (!isIdentifier name || isReserved name) = true
  · rw [if_pos hname]
    simpa using hname
  · rw [if_neg hname]
    refine iff_of_false ?_ (by simpa using hname)
    split
    · simp
    · dsimp only
      intro h
      rcases Option.or_eq_some_iff.mp h with hshadowed | ⟨-, hcaptured⟩
      · obtain ⟨_, -, hshadowed⟩ := List.exists_of_findSome?_eq_some hshadowed
        obtain ⟨_, -, hshadowed⟩ := Option.map_eq_some_iff.mp hshadowed
        cases hshadowed
      · obtain ⟨_, -, hcaptured⟩ := Option.map_eq_some_iff.mp hcaptured
        cases hcaptured

/-- Accepted settings give a registry if and only if their names differ, the leading text is on one
line, and no descriptor that is a name by itself starts with a digit. A binding can be refused such
a name for the name's own sake only if it is a reserved word. -/
theorem exists_registry_iff_of_accepted {s : Settings} (h : s.Accepted) :
    ((∃ r, s.registry = .ok r) ↔ Function.Injective s.canonicalName ∧ IsOneLine s.lead ∧
      ∀ role, role.hasLead = false ∨ s.lead = "" →
        startsWithDigit (s.descriptors role) = false) ∧
    ∀ r, s.registry = .ok r → ∀ (role : Role) (store : Store) (id : BindingId) (b : Binding),
      store.refusal? id b (r.nameFor role) = some .notIdentifier ↔
        s.canonicalName role ∈ reservedWords := by
  constructor
  · rw [Settings.exists_registry_iff_isIdentifier, and_comm]
    refine and_congr_right fun _ ↦ ?_
    simp only [Settings.isIdentifier_canonicalName_iff h, forall_and]
    refine and_congr_left fun _ ↦ ⟨fun hline ↦ hline .atobGetter rfl, fun hline _ _ ↦ hline⟩
  · intro r hr role store id b
    have hidentifier := (Settings.exists_registry_iff_isIdentifier.mp ⟨r, hr⟩).1 role
    rw [Store.refusal?_eq_notIdentifier_iff, Settings.nameFor_of_registry hr, hidentifier]
    simp [isReserved]

namespace Sample

/-- A leading text, and a descriptor that starts with a digit. -/
def ordinals (lead : String) : Settings :=
  { lead, descriptors := Function.update Role.defaultDescriptor .atobGetter "1st" }

/-- A reserved word for the parameters of catch clauses. -/
def caughtVar : Settings :=
  { descriptors := Function.update Role.defaultDescriptor .catchParameter "var" }

end Sample

/-- After a leading text a descriptor may start with a digit. -/
theorem exists_registry_iff_of_accepted_ordinals :
    (Sample.ordinals "$").Accepted ∧ ∃ r, (Sample.ordinals "$").registry = .ok r ∧
      r.nameFor .atobGetter = "$1st" ∧ ∀ (store : Store) (id : BindingId) (b : Binding),
        store.refusal? id b "$1st" ≠ some .notIdentifier := by
  have haccepted : (Sample.ordinals "$").Accepted :=
    Settings.accepted_iff.mpr ⟨by decide, fun role ↦ by cases role <;> decide⟩
  have hinjective : Function.Injective (Sample.ordinals "$").canonicalName := by
    intro role role' hname
    cases role <;> cases role' <;> first | rfl | exact absurd hname (by decide)
  have hbare (role : Role) : role.hasLead = false ∨ (Sample.ordinals "$").lead = "" →
      startsWithDigit ((Sample.ordinals "$").descriptors role) = false := by
    cases role <;> decide
  obtain ⟨r, hr⟩ := (exists_registry_iff_of_accepted haccepted).1.mpr
    ⟨hinjective, by decide, hbare⟩
  have hname : r.nameFor .atobGetter = "$1st" := Settings.nameFor_of_registry hr _
  refine ⟨haccepted, r, hr, hname, fun store id b hrefused ↦ ?_⟩
  rw [← hname, (exists_registry_iff_of_accepted haccepted).2 r hr] at hrefused
  exact absurd hrefused (by decide)

/-- Without a leading text a name that starts with a digit is refused by the registry, and a
reserved word is given out for the parameters of catch clauses, which no binding can take. -/
theorem registry_refused_if_digit_leads :
    ((Sample.ordinals "").Accepted ∧ Function.Injective (Sample.ordinals "").canonicalName ∧
      ∀ r, (Sample.ordinals "").registry ≠ .ok r) ∧
    Sample.caughtVar.Accepted ∧ Function.Injective Sample.caughtVar.canonicalName ∧
      ∃ r, Sample.caughtVar.registry = .ok r ∧ r.nameFor .catchParameter = "var" ∧
        ∀ (store : Store) (id : BindingId) (b : Binding),
          store.refusal? id b "var" = some .notIdentifier := by
  refine ⟨⟨?_, ?_, fun r hr ↦ ?_⟩, ?_, ?_, ?_⟩
  · exact Settings.accepted_iff.mpr ⟨by decide, fun role ↦ by cases role <;> decide⟩
  · intro role role' hname
    cases role <;> cases role' <;> first | rfl | exact absurd hname (by decide)
  · have hname := (Settings.exists_registry_iff_isIdentifier.mp ⟨r, hr⟩).1 .atobGetter
    exact absurd hname (by decide)
  · exact Settings.accepted_iff.mpr ⟨by decide, fun role ↦ by cases role <;> decide⟩
  · intro role role' hname
    cases role <;> cases role' <;> first | rfl | exact absurd hname (by decide)
  · have hobserved : Sample.caughtVar.registry.toOption.map
        (fun r ↦ r.nameFor .catchParameter) = some "var" := by
      decide +kernel
    obtain ⟨r, hr, hname⟩ := Option.map_eq_some_iff.mp hobserved
    refine ⟨r, toOption_eq_some_iff.mp hr, hname, fun store id b ↦ ?_⟩
    exact Store.refusal?_eq_notIdentifier_iff.mpr (.inr (by decide))

end Relabel
