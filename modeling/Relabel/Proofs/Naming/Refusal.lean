import Relabel.Proofs.Naming.Ownership
import Relabel.Text.Word

/-!
# Refused names

A computation with a registry comes to an end early if a registry refuses a computed name, either
because it is no identifier or because it belongs to somebody else. The names that are asked for in
the meantime stay on one line as long as the names that the registry was made with do, and are then
words.
-/

namespace Relabel

/-- A text without line feeds. -/
def IsOneLine (text : String) : Prop :=
  '\n' ∉ text.toList

instance (text : String) : Decidable (IsOneLine text) :=
  inferInstanceAs (Decidable ('\n' ∉ text.toList))

theorem isOneLine_append {a b : String} : IsOneLine (a ++ b) ↔ IsOneLine a ∧ IsOneLine b := by
  unfold IsOneLine
  rw [String.toList_append, List.mem_append, not_or]

theorem isNamePart_lt {c : Char} (h : isNamePart c = true) : c.val < 0x80 := by
  delta isNamePart Char.isAlphanum Char.isAlpha Char.isUpper Char.isLower Char.isDigit at h
  simp only [Bool.or_eq_true, Bool.and_eq_true, decide_eq_true_eq, beq_iff_eq,
    UInt32.le_iff_toNat_le, ge_iff_le] at h
  rw [UInt32.lt_iff_toNat_lt]
  rcases h with (((h | h) | h) | rfl) | rfl
  · exact Nat.lt_of_le_of_lt h.2 (by decide)
  · exact Nat.lt_of_le_of_lt h.2 (by decide)
  · exact Nat.lt_of_le_of_lt h.2 (by decide)
  · decide
  · decide

theorem isNamePart_of_isNameStart {c : Char} (h : isNameStart c = true) : isNamePart c = true := by
  simp only [isNameStart, isNamePart, Char.isAlphanum, Bool.or_eq_true] at h ⊢
  exact h.imp_left (.imp_left .inl)

theorem ne_verticalTilde {c : Char} (h : c.val < 0x80) : (c != Text.verticalTilde) = true := by
  rw [bne_iff_ne]
  rintro rfl
  exact absurd h (by decide)

theorem isWordStart_of_isNameStart {c : Char} (h : isNameStart c = true) :
    Text.isWordStart c = true := by
  have hc := isNamePart_lt (isNamePart_of_isNameStart h)
  have hstart : Text.isIdentifierStart c = true := by
    unfold Text.isIdentifierStart
    rw [if_pos hc, Bool.or_right_comm]
    exact h
  rw [Text.isWordStart, hstart, ne_verticalTilde hc]
  rfl

theorem isWordPart_of_isNamePart {c : Char} (h : isNamePart c = true) :
    Text.isWordPart c = true := by
  have hc := isNamePart_lt h
  have hpart : Text.isIdentifierPart c = true := by
    unfold Text.isIdentifierPart
    rw [if_pos hc, Bool.or_right_comm]
    exact h
  rw [Text.isWordPart, hpart, ne_verticalTilde hc]
  rfl
/-- An identifier on one line is a word. -/
theorem isWord_of_isIdentifier {name : String} (h : isIdentifier name = true)
    (hline : IsOneLine name) : Text.isWord name.toList = true := by
  have hsame : lineOf name.toList = name.toList := by
    unfold lineOf
    rw [if_neg fun hlast ↦ hline (List.mem_of_getLast? hlast)]
  unfold isIdentifier at h
  rw [hsame] at h
  generalize name.toList = cs at h
  cases cs with
  | nil => exact absurd h (by simp [isPlainName])
  | cons c rest =>
    simp only [isPlainName, Bool.and_eq_true, List.all_eq_true] at h
    simp only [Text.isWord, Bool.and_eq_true, List.all_eq_true]
    exact ⟨isWordStart_of_isNameStart h.1, fun d hd ↦ isWordPart_of_isNamePart (h.2 d hd)⟩

theorem isOneLine_of_isWord {name : String} (h : Text.isWord name.toList = true) :
    IsOneLine name := by
  have hstart : Text.isWordStart '\n' = false := by decide +kernel
  have hpart : Text.isWordPart '\n' = false := by decide +kernel
  unfold IsOneLine
  generalize name.toList = cs at h
  cases cs with
  | nil => exact List.not_mem_nil
  | cons c rest =>
    simp only [Text.isWord, Bool.and_eq_true, List.all_eq_true] at h
    rw [List.mem_cons, not_or]
    refine ⟨?_, fun hrest ↦ ?_⟩
    · rintro rfl
      exact Bool.false_ne_true (hstart.symm.trans h.1)
    · exact Bool.false_ne_true (hpart.symm.trans (h.2 _ hrest))

namespace Text.Template

variable {name : String} {value : List Char} {nested : List Char → Except TemplateError (List Char)}

/-- A text without braces. -/
def isPlain (text : String) : Bool :=
  text.toList.all fun c ↦ !(c == '\x7b' || c == '\x7d')

theorem fillWith_of_isPlain {cs : List Char}
    (h : (cs.all fun c ↦ !(c == '\x7b' || c == '\x7d')) = true) :
    fillWith name value nested cs = .ok cs := by
  induction cs with
  | nil => rw [fillWith.eq_def]
  | cons c rest ih =>
    rw [List.all_cons, Bool.and_eq_true, Bool.not_eq_true'] at h
    rw [fillWith.eq_def]
    dsimp only
    rw [h.1, ih h.2]
    rfl

theorem fill_of_isPlain {name value text : String} (h : isPlain text = true) :
    fill name value text = .ok text := by
  rw [fill, fillChars, fillWith_of_isPlain h]
  exact congrArg Except.ok String.ofList_toList

theorem fill_slot {value rest : String} (h : isPlain rest = true) :
    fill "prefix" value ("\x7bprefix\x7d" ++ rest) = .ok (value ++ rest) := by
  rw [fill, String.toList_append]
  change String.ofList <$> fillChars "prefix" value.toList 2
    ('\x7b' :: 'p' :: 'r' :: 'e' :: 'f' :: 'i' :: 'x' :: '\x7d' :: rest.toList) = _
  rw [fillChars, fillWith.eq_def]
  have hread : readSlot ('p' :: 'r' :: 'e' :: 'f' :: 'i' :: 'x' :: '\x7d' :: rest.toList) =
      .ok { name := "prefix".toList, size := 7 } := rfl
  have hvalue : evaluate "prefix" value.toList "prefix".toList = .ok value.toList := by
    simp [evaluate, member]
  have hlayout : Layout.apply {} value.toList = value.toList := by simp [Layout.apply]
  have hrest : fillWith "prefix" value.toList (fillChars "prefix" value.toList 1) rest.toList =
      .ok rest.toList := fillWith_of_isPlain h
  dsimp only
  rw [if_pos (by decide), if_neg (by decide), if_neg (by decide), hread]
  dsimp only [bind, Except.bind]
  rw [hvalue]
  change String.ofList <$> ((Layout.apply {} value.toList ++ ·) <$> fillWith "prefix" value.toList
    (fillChars "prefix" value.toList 1) rest.toList) = _
  rw [hlayout, hrest]
  change Except.ok (String.ofList (value.toList ++ rest.toList)) = _
  rw [← String.toList_append, String.ofList_toList]

end Text.Template

/-- A template that starts with the slot for the lead, or has no slots. -/
def IsFillable (template : String) : Prop :=
  ∃ rest, Text.Template.isPlain rest = true ∧ IsOneLine rest ∧
    (template = rest ∨ template = "\x7bprefix\x7d" ++ rest)

theorem isFillable_default :
    ∀ entry ∈ defaultParameterRoles, ∀ template ∈ entry.2, IsFillable template := by
  have hall : ∀ entry ∈ defaultParameterRoles, ∀ template ∈ entry.2,
      (Text.Template.isPlain template = true ∧ IsOneLine template) ∨
        ∃ rest ∈ ["a", "b", "c", "d", "e", "f"], Text.Template.isPlain rest = true ∧
          IsOneLine rest ∧ template = "\x7bprefix\x7d" ++ rest := by
    decide +kernel
  intro entry hentry template htemplate
  rcases hall entry hentry template htemplate with ⟨hplain, hline⟩ | ⟨rest, -, hplain, hline, hsame⟩
  · exact ⟨template, hplain, hline, .inl rfl⟩
  · exact ⟨rest, hplain, hline, .inr hsame⟩

/-! ## What a registry refuses -/

/-- A holder whose name is made from a name of the program. -/
def Holder.IsComputed : Holder → Prop
  | .role _ => False
  | .getter _ | .handler _ => True

namespace Registry

variable {r r' now : Registry}

/-- All canonical names are on one line. -/
def Tidy (r : Registry) : Prop :=
  ∀ role, IsOneLine (r.nameFor role)

/-- The faults that come of asking a registry for a computed name. -/
inductive Refuses (r : Registry) : Fault → Prop
  | notIdentifier {holder : Holder} : holder.IsComputed →
      isIdentifier (holder.called r) = false →
      Refuses r (.registry (.badComputedName (holder.called r)))
  | taken {holder : Holder} {owner : String} : holder.IsComputed →
      r.ownerOf? (holder.called r) = some owner → owner ≠ holder.owner →
      Refuses r (.registry (.clash (holder.called r) owner holder.owner))

theorem Tidy.lead (h : r.Tidy) : IsOneLine r.lead :=
  (isOneLine_append.mp (h .atobGetter)).1

theorem getterName_isOneLine (h : r.Tidy) {field : String} (hfield : IsOneLine field) :
    IsOneLine (r.getterName field) :=
  isOneLine_append.mpr ⟨isOneLine_append.mpr ⟨h.lead, by decide⟩, hfield⟩

theorem handlerName_isOneLine (h : r.Tidy) {key : String} (hkey : IsOneLine key) :
    IsOneLine (r.handlerName key) :=
  isOneLine_append.mpr ⟨isOneLine_append.mpr ⟨h.lead, hkey⟩, by decide⟩

theorem claim_eq_error_iff {name owner : String} {fault : RegistryFault} :
    r.claim name owner = .error fault ↔
      ∃ other, r.ownerOf? name = some other ∧ other ≠ owner ∧ fault = .clash name other owner := by
  unfold claim
  cases hother : r.ownerOf? name with
  | none => simp
  | some other =>
    by_cases hsame : other = owner
    · simp [hsame]
    · simp only [if_neg hsame, Option.some.injEq, exists_eq_left', ne_eq]
      exact ⟨fun h ↦ ⟨hsame, (Except.error.inj h).symm⟩, fun h ↦ h.2 ▸ rfl⟩

/-- A computed name is issued, or it is refused for one of two reasons. -/
theorem refuses_of_computed {holder : Holder} (hcomputed : holder.IsComputed)
    {kind descriptor : String} (howner : holder.owner = kind ++ ":" ++ descriptor)
    {fault : RegistryFault} (h : r.computed kind descriptor (holder.called r) = .error fault) :
    r.Refuses (.registry fault) := by
  unfold computed at h
  split at h
  · obtain ⟨other, hother, hne, rfl⟩ := claim_eq_error_iff.mp h
    rw [← howner] at hne ⊢
    exact .taken hcomputed hother hne
  · rename_i hname
    obtain rfl := Except.error.inj h
    exact .notIdentifier hcomputed (Bool.not_eq_true _ ▸ hname)

end Registry

namespace Issuing

variable {α β : Type}

/-- A computation that, from a registry that came of a given one, leads again to such a registry,
and either to a result with a property or to a fault with a property. -/
def Meets (r : Registry) (R : α → Prop) (Q : Registry → Fault → Prop) (x : Issuing α) : Prop :=
  ∀ now, r.Later now → r.Later (x.run now).2 ∧
    match (x.run now).1 with
    | .ok a => R a
    | .error fault => Q (x.run now).2 fault

namespace Meets

variable {r : Registry} {R : α → Prop} {S : β → Prop} {Q : Registry → Fault → Prop}

theorem pure {a : α} (h : R a) : Meets r R Q (Pure.pure a) :=
  fun _ hnow ↦ ⟨hnow, h⟩

theorem throw {fault : Fault} (h : ∀ now, Q now fault) :
    Meets r R Q (MonadExcept.throw fault : Issuing α) :=
  fun now hnow ↦ ⟨hnow, h now⟩

theorem bind {x : Issuing α} {f : α → Issuing β} (hx : Meets r R Q x)
    (hf : ∀ a, R a → Meets r S Q (f a)) : Meets r S Q (x >>= f) := by
  intro now hnow
  obtain ⟨hlater, hresult⟩ := hx now hnow
  rw [run_bind]
  rcases hrun : x.run now with ⟨fault | a, next⟩
  · rw [hrun] at hlater hresult
    exact ⟨hlater, hresult⟩
  · rw [hrun] at hlater hresult
    exact hf a hresult next hlater

theorem mapM {f : α → Issuing β} {as : List α} (hf : ∀ a ∈ as, Meets r S Q (f a)) :
    Meets r (fun bs ↦ ∀ b ∈ bs, S b) Q (as.mapM f) := by
  induction as with
  | nil => exact pure (by simp)
  | cons a rest ih =>
    rw [List.mapM_cons]
    refine (hf a List.mem_cons_self).bind fun b hb ↦
      (ih fun c hc ↦ hf c (List.mem_cons_of_mem a hc)).bind fun bs hbs ↦ pure ?_
    exact List.forall_mem_cons.mpr ⟨hb, hbs⟩

theorem foldlM {f : β → α → Issuing β} {as : List α}
    (hf : ∀ b, S b → ∀ a ∈ as, Meets r S Q (f b a)) {b : β} (hb : S b) :
    Meets r S Q (as.foldlM f b) := by
  induction as generalizing b with
  | nil => exact pure hb
  | cons a rest ih =>
    rw [List.foldlM_cons]
    refine (hf b hb a List.mem_cons_self).bind fun next hnext ↦ ?_
    exact ih (fun c hc d hd ↦ hf c hc d (List.mem_cons_of_mem a hd)) hnext

theorem registry : Meets r r.Later Q registry :=
  fun _ hnow ↦ ⟨hnow, hnow⟩

theorem nameFor (role : Role) : Meets r (· = r.nameFor role) Q (nameFor role) :=
  registry.bind fun _ hnow ↦ pure (hnow.nameFor role)

theorem fillTemplate {template : String} (h : IsFillable template) :
    Meets r (fun text ↦ r.Tidy → IsOneLine text) Q (fillTemplate template) := by
  refine registry.bind fun now hnow ↦ ?_
  obtain ⟨rest, hplain, hline, rfl | rfl⟩ := h
  · rw [Text.Template.fill_of_isPlain hplain]
    exact pure fun _ ↦ hline
  · rw [Text.Template.fill_slot hplain]
    refine pure fun htidy ↦ isOneLine_append.mpr ⟨?_, hline⟩
    rw [hnow.lead]
    exact htidy.lead

section Computed

variable (hQ : ∀ now fault, r.Later now → now.Refuses fault → Q now fault)

include hQ

theorem getterName (field : String) : Meets r (· = r.getterName field) Q (getterName field) := by
  intro now hnow
  rw [run_getterName]
  cases hissue : now.issueGetter field with
  | error fault =>
    have hcomputed : (Holder.getter field).IsComputed := trivial
    exact ⟨hnow, hQ _ _ hnow (Registry.refuses_of_computed hcomputed rfl hissue)⟩
  | ok next =>
    refine ⟨hnow.trans (.computed hissue), ?_⟩
    rw [Registry.getterName, Registry.getterName, hnow.lead]

theorem handlerName (key : String) : Meets r (· = r.handlerName key) Q (handlerName key) := by
  intro now hnow
  rw [run_handlerName]
  cases hissue : now.issueHandler key with
  | error fault =>
    have hcomputed : (Holder.handler key).IsComputed := trivial
    exact ⟨hnow, hQ _ _ hnow (Registry.refuses_of_computed hcomputed rfl hissue)⟩
  | ok next =>
    refine ⟨hnow.trans (.computed hissue), ?_⟩
    rw [Registry.handlerName, Registry.handlerName, hnow.lead]

/-- The default names of parameters can be filled in, whatever the lead. -/
theorem parameterRoles (hroles : r.parameterRoles = defaultParameterRoles) :
    Meets r (fun roles ↦ r.Tidy → ∀ key names, roles.get? key = some names →
      ∀ name ∈ names, IsOneLine name) Q parameterRoles := by
  refine registry.bind fun now hnow ↦ ?_
  rw [hnow.parameterRoles, hroles]
  refine foldlM (fun roles hroles entry hentry ↦ ?_) fun _ key names hnames ↦ ?_
  · refine (mapM fun template htemplate ↦
      fillTemplate (isFillable_default entry hentry template htemplate)).bind fun names hnames ↦ ?_
    refine (handlerName hQ entry.1).bind fun name _ ↦ pure fun htidy key found hfound ↦ ?_
    rw [Table.get?_set] at hfound
    split at hfound
    · obtain rfl := Option.some.inj hfound
      exact fun name hname ↦ hnames name hname htidy
    · exact hroles htidy key found hfound
  · simp at hnames

end Computed

end Meets

end Issuing

end Relabel
