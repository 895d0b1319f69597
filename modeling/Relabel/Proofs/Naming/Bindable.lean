import Relabel.Proofs.Labeling.Safety
import Relabel.Proofs.Naming.Refusal

/-!
# Names that a program can bind

A binding takes a new name, and a registry issues one, only if it passes the test for identifiers.
The test looks at one line: it also lets through a plain name with a line feed after it, which no
program can bind. Reserved words are kept apart by the renames alone, so that a registry issues them
like other names.
-/

namespace Relabel

/-- ASCII letters, digits, `_` and `$`, at least one of them and no digit first. -/
structure IsPlain (name : String) : Prop where
  nonempty : name ≠ ""
  characters : ∀ c ∈ name.toList, c.isAlphanum = true ∨ c = '_' ∨ c = '$'
  start : ∀ c, name.toList.head? = some c → c.isDigit = false

/-- A name that a program can bind. -/
structure IsBindable (name : String) : Prop extends IsPlain name where
  unreserved : name ∉ reservedWords

theorem isNamePart_iff {c : Char} :
    isNamePart c = true ↔ c.isAlphanum = true ∨ c = '_' ∨ c = '$' := by
  simp [isNamePart, or_assoc]

theorem isAlpha_eq_false_of_isDigit {c : Char} (h : c.isDigit = true) : c.isAlpha = false := by
  simp only [Char.isDigit, Bool.and_eq_true, decide_eq_true_eq, UInt32.le_iff_toNat_le] at h
  have hnine : '9'.val.toNat = 57 := rfl
  have hupper : 'A'.val.toNat = 65 := rfl
  have hlower : 'a'.val.toNat = 97 := rfl
  delta Char.isAlpha Char.isUpper Char.isLower
  simp only [UInt32.le_iff_toNat_le, ge_iff_le, Bool.or_eq_false_iff, Bool.and_eq_false_iff,
    decide_eq_false_iff_not]
  omega

theorem isNameStart_iff {c : Char} :
    isNameStart c = true ↔ isNamePart c = true ∧ c.isDigit = false := by
  cases hdigit : c.isDigit with
  | false => simp [isNameStart, isNamePart, Char.isAlphanum, hdigit]
  | true =>
    have hline : c ≠ '_' := by
      rintro rfl
      exact absurd hdigit (by decide)
    have hdollar : c ≠ '$' := by
      rintro rfl
      exact absurd hdigit (by decide)
    simp [isNameStart, isAlpha_eq_false_of_isDigit hdigit, hline, hdollar]

theorem isPlainName_iff {cs : List Char} :
    isPlainName cs = true ↔ cs ≠ [] ∧ (∀ c ∈ cs, c.isAlphanum = true ∨ c = '_' ∨ c = '$') ∧
      ∀ c, cs.head? = some c → c.isDigit = false := by
  cases cs with
  | nil => simp [isPlainName]
  | cons c rest =>
    simp only [isPlainName, Bool.and_eq_true, List.all_eq_true, isNameStart_iff, isNamePart_iff,
      List.forall_mem_cons, List.head?_cons, Option.some.injEq, forall_eq', ne_eq, reduceCtorEq,
      not_false_eq_true, true_and]
    exact and_right_comm

theorem isPlain_iff {name : String} : IsPlain name ↔ isPlainName name.toList = true := by
  rw [isPlainName_iff, Ne, String.toList_eq_nil_iff]
  exact ⟨fun ⟨hnonempty, hcharacters, hstart⟩ ↦ ⟨hnonempty, hcharacters, hstart⟩,
    fun ⟨hnonempty, hcharacters, hstart⟩ ↦ ⟨hnonempty, hcharacters, hstart⟩⟩

theorem IsPlain.isOneLine {name : String} (h : IsPlain name) : IsOneLine name := by
  intro hfeed
  exact absurd (h.characters _ hfeed) (by decide)

/-- An identifier is a plain name, or a plain name and a line feed. -/
theorem isPlain_or_of_isIdentifier {name : String} (h : isIdentifier name = true) :
    IsPlain name ∨ ∃ plain, IsPlain plain ∧ name = plain ++ "\n" := by
  unfold isIdentifier lineOf at h
  split at h
  · rename_i hlast
    refine .inr ⟨String.ofList name.toList.dropLast, ?_, ?_⟩
    · rwa [isPlain_iff, String.toList_ofList]
    · apply String.toList_injective
      rw [String.toList_append, String.toList_ofList]
      exact (List.dropLast_append_getLast? _ hlast).symm
  · exact .inl (isPlain_iff.mpr h)

/-- An identifier can be bound if it has no line feed and is no reserved word. -/
theorem isBindable_iff_of_isIdentifier {name : String} (h : isIdentifier name = true) :
    IsBindable name ↔ IsOneLine name ∧ isReserved name = false := by
  rw [isReserved, List.contains_eq_mem, decide_eq_false_iff_not]
  constructor
  · exact fun hname ↦ ⟨hname.isOneLine, hname.unreserved⟩
  · rintro ⟨hline, hfree⟩
    rcases isPlain_or_of_isIdentifier h with hplain | ⟨plain, -, rfl⟩
    · exact ⟨hplain, hfree⟩
    · exact absurd hline (by simp [IsOneLine])

/-- A rename that changes a program, from whatever store and edits, gives a binding a plain name or
one with a line feed after it, and no reserved word; the name can be bound if it has no line feed.
Every name that a registry ever issues is a plain name or one with a line feed after it, and can be
bound if it has no line feed and is no reserved word. -/
theorem isBindable_iff_isOneLine (name : String) :
    (∀ (tree : Node) (s s' : Store) (e e' : Edits) (id : BindingId),
      s.rename e id name = .ok (s', e') → e'.apply tree ≠ e.apply tree →
        isReserved name = false ∧ (IsPlain name ∨ ∃ plain, IsPlain plain ∧ name = plain ++ "\n") ∧
          (IsBindable name ↔ IsOneLine name)) ∧
      ∀ (lead : String) (descriptors : Descriptors) (parameterRoles : ParameterRoles)
        (r : Registry), Registry.create lead descriptors parameterRoles = .ok r →
          ∀ (history : List Enquiry) (owner : String),
            (r.after history).ownerOf? name = some owner →
              (IsPlain name ∨ ∃ plain, IsPlain plain ∧ name = plain ++ "\n") ∧
                (IsBindable name ↔ IsOneLine name ∧ isReserved name = false) := by
  constructor
  · intro tree s s' e e' id hrename hchanged
    rcases Store.rename_eq_ok_iff.mp hrename with ⟨-, -, rfl⟩ | ⟨b, -, -, haccepted, -, -⟩
    · exact absurd rfl hchanged
    · obtain ⟨⟨hidentifier, hfree⟩, -⟩ := Store.refusal?_eq_none_iff_tests.mp haccepted
      refine ⟨hfree, isPlain_or_of_isIdentifier hidentifier, ?_⟩
      rw [isBindable_iff_of_isIdentifier hidentifier]
      exact and_iff_left hfree
  · intro lead descriptors parameterRoles r hcreate history owner hissued
    have hafter := (Registry.sound_of_create hcreate).later (r.later_after history)
    have hidentifier := hafter.identifier name owner hissued
    exact ⟨isPlain_or_of_isIdentifier hidentifier, isBindable_iff_of_isIdentifier hidentifier⟩

/-- A parameter is renamed, and a registry issues the name of a getter. -/
theorem isBindable_iff_isOneLine_shorthand :
    ∃ s s' e' r, Store.analyze Sample.shorthand = .ok s ∧ s.rename {} 1 "b" = .ok (s', e') ∧
      e'.apply Sample.shorthand ≠ ({} : Edits).apply Sample.shorthand ∧ IsBindable "b" ∧
      Registry.create "___" Role.defaultDescriptor [] = .ok r ∧
      (r.after [.name (.getter "x")]).ownerOf? "___get_x" = some "getter:x" ∧
      IsBindable "___get_x" := by
  have hobserved : (Store.analyze Sample.shorthand).toOption.bind (fun s ↦
      (s.rename {} 1 "b").toOption.map fun next ↦
        (next.2.apply Sample.shorthand).identifierNames.toOption) =
      some (some ["f", "b", "a", "b"]) := by
    decide +kernel
  obtain ⟨s, hs, hobserved⟩ := Option.bind_eq_some_iff.mp hobserved
  obtain ⟨⟨s', e'⟩, hrename, hnames⟩ := Option.map_eq_some_iff.mp hobserved
  rw [toOption_eq_some_iff] at hs hrename
  have hchanged : e'.apply Sample.shorthand ≠ ({} : Edits).apply Sample.shorthand := by
    intro hsame
    rw [hsame] at hnames
    exact absurd hnames (by decide +kernel)
  have hissued : (Registry.create "___" Role.defaultDescriptor []).toOption.map (fun r ↦
      (r.after [.name (.getter "x")]).ownerOf? "___get_x") = some (some "getter:x") := by
    decide +kernel
  obtain ⟨r, hcreate, howner⟩ := Option.map_eq_some_iff.mp hissued
  rw [toOption_eq_some_iff] at hcreate
  have hwritten := (isBindable_iff_isOneLine "b").1 _ s s' {} e' 1 hrename hchanged
  have hknown := (isBindable_iff_isOneLine "___get_x").2 _ _ _ r hcreate _ _ howner
  exact ⟨s, s', e', r, hs, hrename, hchanged, hwritten.2.2.mpr (by decide), hcreate, howner,
    hknown.2.mpr (by decide)⟩

/-- A parameter takes a name with a line feed, and a registry without leading text issues a
reserved word for the parameters of catch clauses. -/
theorem written_if_lineFeed_follows :
    (∃ s s' e', Store.analyze Sample.shorthand = .ok s ∧ s.rename {} 1 "b\n" = .ok (s', e') ∧
      e'.apply Sample.shorthand ≠ ({} : Edits).apply Sample.shorthand ∧ ¬ IsBindable "b\n") ∧
    ∃ r, Registry.create "" (fun role ↦ if role = .catchParameter then "var" else role.key) [] =
        .ok r ∧
      r.ownerOf? "var" = some "catch_param" ∧ ¬ IsBindable "var" := by
  have hobserved : (Store.analyze Sample.shorthand).toOption.bind (fun s ↦
      (s.rename {} 1 "b\n").toOption.map fun next ↦
        (next.2.apply Sample.shorthand).identifierNames.toOption) =
      some (some ["f", "b\n", "a", "b\n"]) := by
    decide +kernel
  obtain ⟨s, hs, hobserved⟩ := Option.bind_eq_some_iff.mp hobserved
  obtain ⟨⟨s', e'⟩, hrename, hnames⟩ := Option.map_eq_some_iff.mp hobserved
  rw [toOption_eq_some_iff] at hs hrename
  have hissued : (Registry.create "" (fun role ↦ if role = .catchParameter then "var"
      else role.key) []).toOption.map (fun r ↦ r.ownerOf? "var") = some (some "catch_param") := by
    decide +kernel
  obtain ⟨r, hcreate, howner⟩ := Option.map_eq_some_iff.mp hissued
  rw [toOption_eq_some_iff] at hcreate
  refine ⟨⟨s, s', e', hs, hrename, fun hsame ↦ ?_, fun hname ↦ ?_⟩, r, hcreate, howner,
    fun hname ↦ ?_⟩
  · rw [hsame] at hnames
    exact absurd hnames (by decide +kernel)
  · exact absurd hname.isOneLine (by decide)
  · exact absurd hname.unreserved (by decide)

end Relabel
