import Relabel.Proofs.Printing.Follow

/-!
# Expressions that follow expressions

One lemma for each function that prints expressions. What cannot be printed is found out on the way
through the children of a node, which are the same on both sides; the texts only decide how pieces
are put together.
-/

namespace Relabel.Printing

namespace Parts.Follows

variable {p p' : Parts} {place place' : ExpressionPlace}

theorem expressions {rs rs' : List Rendering} (h : List.Forall₂ Rendering.Follows rs rs') :
    Printing.Follows Given (rs.mapM (·.expression place)) (rs'.mapM (·.expression place')) :=
  (Printing.Follows.mapM (fun _ _ hr ↦ hr.expression place place') h).weaken fun _ _ _ ↦ trivial

theorem assignment {left left' right right' : Rendering} (hleft : left.Follows left')
    (hright : right.Follows right') (operator operator' : String) :
    Printing.Follows Given (assignment left right operator place)
      (assignment left' right' operator' place') :=
  (hleft.expression _ _).bind fun _ _ _ ↦ (hright.expression _ _).bind fun _ _ _ ↦ .given _ _

theorem sequence (h : p.Follows p') :
    Printing.Follows Given (sequence p place) (sequence p' place') :=
  (h.list .expressions).bind fun _ _ hlist ↦ (expressions hlist).bind fun _ _ _ ↦ .given _ _

theorem conditional (h : p.Follows p') :
    Printing.Follows Given (conditional p place) (conditional p' place') :=
  (h.child .test).expression fun _ _ ↦ (h.child .consequent).expression fun _ _ ↦
    (h.child .alternate).expression fun _ _ ↦ .given _ _

theorem binary (h : p.Follows p') : Printing.Follows Given (binary p place) (binary p' place') := by
  unfold Printing.binary
  rw [h.operator]
  cases Level.ofOperator? p.operator with
  | none => exact .throw
  | some level =>
    refine (h.child .left).expression fun _ _ ↦ (h.child .right).expression fun _ _ ↦ ?_
    refine .always fun depth ↦ ?_
    split_ifs <;> exact ⟨_, rfl⟩

theorem arguments (h : p.Follows p') : Printing.Follows Given (arguments p) (arguments p') :=
  (h.list .arguments).bind fun _ _ hlist ↦ (expressions hlist).bind fun _ _ _ ↦ .given _ _

theorem call (h : p.Follows p') : Printing.Follows Given (call p place) (call p' place') :=
  (h.child .callee).expression fun _ _ ↦ h.arguments.bind fun _ _ _ ↦ .given _ _

theorem new (h : p.Follows p') : Printing.Follows Given (new p place) (new p' place') :=
  (h.list .arguments).bind fun _ _ _ ↦ (h.child .callee).expression fun _ _ ↦
    h.arguments.bind fun _ _ _ ↦ .given _ _

theorem member (h : p.Follows p') : Printing.Follows Given (member p place) (member p' place') := by
  unfold Printing.member
  refine (h.child .object).bind fun _ _ hobject ↦ (hobject.expression _ _).bind fun _ _ _ ↦
    (h.child .property).bind fun _ _ hproperty ↦ ?_
  dsimp only
  rw [h.computed]
  refine .ite ?_ ?_
  · exact (hproperty.expression _ _).bind fun _ _ _ ↦ .given _ _
  · exact hproperty.nameOf.bind fun _ _ _ ↦ .given _ _

theorem chain (h : p.Follows p') : Printing.Follows Given (chain p place) (chain p' place') :=
  (h.child .expression).expression fun _ _ ↦ .given _ _

theorem importExpression (h : p.Follows p') :
    Printing.Follows Given (importExpression p place) (importExpression p' place') :=
  (h.child .source).expression fun _ _ ↦ .given _ _

theorem metaProperty (h : p.Follows p') :
    Printing.Follows Given (metaProperty p place) (metaProperty p' place') :=
  (h.child .metaName).bind fun _ _ hfirst ↦ hfirst.nameOf.bind fun _ _ _ ↦
    (h.child .property).bind fun _ _ hsecond ↦ hsecond.nameOf.bind fun _ _ _ ↦ .given _ _

theorem unary (h : p.Follows p') : Printing.Follows Given (unary p place) (unary p' place') :=
  (h.child .argument).expression fun _ _ ↦ .given _ _

theorem update (h : p.Follows p') : Printing.Follows Given (update p place) (update p' place') := by
  have hbefore : p'.node.head.before = p.node.head.before := by rw [h.head]
  refine (h.child .argument).bind fun _ _ hargument ↦ ?_
  rw [hbefore]
  refine .ite ?_ ?_
  · exact (hargument.expression _ _).bind fun _ _ _ ↦ .given _ _
  · exact (hargument.expression _ _).bind fun _ _ _ ↦ .given _ _

theorem yield (h : p.Follows p') : Printing.Follows Given (yield p place) (yield p' place') := by
  refine (h.child? .argument).bind fun _ _ hargument ↦ ?_
  cases hargument with
  | none => exact .given _ _
  | some hargument => exact (hargument.expression _ _).bind fun _ _ _ ↦ .given _ _

theorem await (h : p.Follows p') : Printing.Follows Given (await p place) (await p' place') :=
  (h.child .argument).expression fun _ _ ↦ .given _ _

theorem parameters (h : p.Follows p') :
    Printing.Follows Given (parameters p) (parameters p') := by
  unfold Printing.parameters
  rw [h.hasKind]
  refine (h.list .params).bind fun only only' hlist ↦ ?_
  have hall : Printing.Follows Given (only.mapM (·.expression { level := Level.assignment }))
      (only'.mapM (·.expression { level := Level.assignment })) := expressions hlist
  cases p.node.hasKind .arrowFunction with
  | false => exact hall.bind fun _ _ _ ↦ .given _ _
  | true =>
    rcases hlist with _ | ⟨honly, _ | ⟨_, _⟩⟩
    · exact hall.bind fun _ _ _ ↦ .given _ _
    · dsimp only
      rw [honly.hasKind]
      refine .ite ?_ ?_
      · exact honly.nameOf.bind fun _ _ _ ↦ .given _ _
      · exact (honly.expression _ _).bind fun _ _ _ ↦ .given _ _
    · exact hall.bind fun _ _ _ ↦ .given _ _

theorem body {r r' : Rendering} (h : r.Follows r') (place place' : StatementPlace) :
    Printing.Follows Given (body r place) (body r' place') := by
  unfold Printing.body
  rw [h.hasKind, h.hasKind]
  refine .ite ?_ (.ite (.given _ _) (.indented ?_))
  · exact (h.statement _ _).bind fun _ _ _ ↦ .given _ _
  · exact Printing.Follows.newLine.bind fun _ _ _ ↦ (h.statement _ _).bind fun _ _ _ ↦ .given _ _

theorem callable (h : p.Follows p') : Printing.Follows Given (callable p) (callable p') := by
  have hconcise : p'.node.head.concise = p.node.head.concise := by rw [h.head]
  refine h.parameters.bind fun _ _ _ ↦ (h.child .body).bind fun _ _ hbody ↦ ?_
  rw [hconcise]
  refine .ite ?_ ?_
  · exact (hbody.expression _ _).bind fun _ _ _ ↦ .given _ _
  · exact (body hbody _ _).bind fun _ _ _ ↦ .given _ _

theorem functionText (h : p.Follows p') :
    Printing.Follows Given (functionText p) (functionText p') := by
  refine (h.child? .id).bind fun _ _ hid ↦ ?_
  cases hid with
  | none => exact h.callable.bind fun _ _ _ ↦ .given _ _
  | some hid => exact hid.nameOf.bind fun _ _ _ ↦ h.callable.bind fun _ _ _ ↦ .given _ _

theorem arrowFunction (h : p.Follows p') :
    Printing.Follows Given (arrowFunction p place) (arrowFunction p' place') :=
  h.callable.bind fun _ _ _ ↦ .given _ _

theorem classText (h : p.Follows p') : Printing.Follows Given (classText p) (classText p') := by
  refine (h.child? .id).bind fun _ _ hid ↦ ?_
  extract_lets rest rest'
  have hrest (name name' : String) : Printing.Follows Given (rest name) (rest' name') := by
    refine (h.child? .superClass).bind fun _ _ hparent ↦ ?_
    cases hparent with
    | none => exact (h.child .body).statement fun _ _ ↦ .given _ _
    | some hparent =>
      exact (hparent.expression _ _).bind fun _ _ _ ↦ (h.child .body).statement fun _ _ ↦ .given _ _
  cases hid with
  | none => exact hrest _ _
  | some hid => exact (hid.expression _ _).bind fun _ _ _ ↦ hrest _ _

theorem propertyKey (h : p.Follows p') :
    Printing.Follows Given (propertyKey p) (propertyKey p') :=
  (h.child .key).expression fun _ _ ↦ .given _ _

theorem methodText (h : p.Follows p') : Printing.Follows Given (methodText p) (methodText p') :=
  (h.child .value).bind fun _ _ hvalue ↦ h.propertyKey.bind fun _ _ _ ↦
    hvalue.callable.bind fun _ _ _ ↦ .given _ _

theorem accessorText (h : p.Follows p') (word : String) :
    Printing.Follows Given (accessorText p word) (accessorText p' word) :=
  h.propertyKey.bind fun _ _ _ ↦ (h.child .value).bind fun _ _ hvalue ↦
    hvalue.callable.bind fun _ _ _ ↦ .given _ _

theorem methodDefinition (h : p.Follows p') :
    Printing.Follows Given (methodDefinition p) (methodDefinition p') := by
  unfold Printing.methodDefinition
  rw [h.accessorWord?]
  cases Printing.accessorWord? p.node with
  | none => exact h.methodText.bind fun _ _ _ ↦ .given _ _
  | some word => exact (h.accessorText word).bind fun _ _ _ ↦ .given _ _

theorem fieldDefinition (h : p.Follows p') :
    Printing.Follows Given (fieldDefinition p) (fieldDefinition p') := by
  refine h.propertyKey.bind fun _ _ _ ↦ (h.child? .value).bind fun _ _ hvalue ↦ ?_
  cases hvalue with
  | none => exact .given _ _
  | some hvalue => exact (hvalue.expression _ _).bind fun _ _ _ ↦ .given _ _

theorem property (h : p.Follows p') (hkind : p.node.kind = some .property) :
    Printing.Follows Given (property p) (property p') := by
  have hmethod : p'.node.head.isMethod = p.node.head.isMethod := by rw [h.head]
  unfold Printing.property
  rw [h.accessorWord?, hmethod]
  cases Printing.accessorWord? p.node with
  | some word => exact h.accessorText word
  | none =>
    dsimp only
    rcases h.shorthand hkind with hsame | ⟨hshorthand, hwritten, hplain, hkey, hvalue⟩
    · rw [hsame]
      refine .ite ?_ (.ite h.methodText ?_)
      · refine (h.child .value).bind fun _ _ hvalue ↦ ?_
        rw [hvalue.hasKind]
        exact .ite (hvalue.expression _ _) h.propertyKey
      · exact h.propertyKey.bind fun _ _ _ ↦ (h.child .value).expression fun _ _ ↦ .given _ _
    · refine .always fun depth ↦ ?_
      rw [hwritten, hplain]
      obtain ⟨key, hkey⟩ := hkey depth
      obtain ⟨value, hvalue⟩ := hvalue { level := Level.assignment } depth
      obtain ⟨r, hr, hvalue⟩ := bind_eq_ok_iff.mp hvalue
      refine ⟨key ++ ": " ++ value, bind_eq_ok_iff.mpr ⟨key, hkey, bind_eq_ok_iff.mpr ⟨r, hr, ?_⟩⟩⟩
      exact bind_eq_ok_iff.mpr ⟨value, hvalue, rfl⟩

/-! ## Arrays, objects and what else there is -/

theorem spread {items items' : List (Print String)}
    (h : List.Forall₂ (Printing.Follows Given) items items') (opening closing : String) :
    Printing.Follows Given (spread opening closing items) (spread opening closing items') := by
  have hlines : Printing.Follows Given
      (Printing.indented do
        let start ← newLine
        let texts ← items.mapM fun item ↦ return start ++ (← item)
        return ",".intercalate texts)
      (Printing.indented do
        let start ← newLine
        let texts ← items'.mapM fun item ↦ return start ++ (← item)
        return ",".intercalate texts) := by
    refine .indented (Printing.Follows.newLine.bind fun _ _ _ ↦ ?_)
    exact (Printing.Follows.mapM (S := Given)
      (fun _ _ hitem ↦ hitem.bind fun _ _ _ ↦ .given _ _) h).bind fun _ _ _ ↦ .given _ _
  exact hlines.bind fun _ _ _ ↦ Printing.Follows.newLine.bind fun _ _ _ ↦ .given _ _

theorem arrayItems {items items' : List (Option Rendering)}
    (h : List.Forall₂ (Option.Rel Rendering.Follows) items items') :
    List.Forall₂ (Printing.Follows Given) (arrayItems items) (arrayItems items') := by
  induction h with
  | nil => exact .nil
  | cons hitem _ ih =>
    refine .cons ?_ ih
    cases hitem with
    | none => exact .given _ _
    | some hitem => exact hitem.expression _ _

theorem all {items items' : List (Print String)}
    (h : List.Forall₂ (Printing.Follows Given) items items') :
    Printing.Follows Given (items.mapM fun item ↦ item) (items'.mapM fun item ↦ item) :=
  (Printing.Follows.mapM (fun _ _ hitem ↦ hitem) h).weaken fun _ _ _ ↦ trivial

theorem array (h : p.Follows p') : Printing.Follows Given (array p) (array p') := by
  refine (h.items .elements).bind fun items items' hitems ↦ ?_
  have hempty : items'.isEmpty = items.isEmpty := by cases hitems <;> rfl
  rw [hempty, ← hitems.length_eq]
  refine .ite (.given _ _) (.ite ?_ (spread (arrayItems hitems) _ _))
  exact (Printing.Follows.indented (all (arrayItems hitems))).bind fun _ _ _ ↦ .given _ _

theorem arrayPattern (h : p.Follows p') :
    Printing.Follows Given (arrayPattern p) (arrayPattern p') :=
  (h.items .elements).bind fun _ _ hitems ↦
    (Printing.Follows.indented (all (arrayItems hitems))).bind fun _ _ _ ↦ .given _ _

theorem printed {rs rs' : List Rendering} (h : List.Forall₂ Rendering.Follows rs rs') :
    List.Forall₂ (Printing.Follows Given) (rs.map (·.expression place))
      (rs'.map (·.expression place')) := by
  induction h with
  | nil => exact .nil
  | cons hfirst _ ih => exact .cons (hfirst.expression _ _) ih

theorem object (h : p.Follows p') : Printing.Follows Given (object p) (object p') := by
  refine (h.list .properties).bind fun _ _ hlist ↦ ?_
  rcases hlist with _ | ⟨hfirst, _ | ⟨hsecond, hrest⟩⟩
  · exact .given _ _
  · refine (Printing.Follows.indented (hfirst.expression _ _)).bind fun text text' _ ↦ ?_
    refine .always fun depth ↦ ?_
    split_ifs <;> exact ⟨_, rfl⟩
  · exact spread (printed (.cons hfirst (.cons hsecond hrest))) _ _

/-- Items can be printed on lines of their own if they can be printed at all. -/
theorem exists_spread_iff {items : List (Print String)} {opening closing : String} {depth : Nat} :
    (∃ text, Printing.spread opening closing items depth = .ok text) ↔
      ∀ item ∈ items, ∃ text, item (depth + 1) = .ok text := by
  have hstarted (start : String) : (∃ texts, (items.mapM fun item ↦ do
      return start ++ (← item)) (depth + 1) = .ok texts) ↔
        ∀ item ∈ items, ∃ text, item (depth + 1) = .ok text := by
    rw [exists_mapM_iff]
    refine forall₂_congr fun item _ ↦ ⟨?_, ?_⟩
    · rintro ⟨_, htext⟩
      obtain ⟨text, htext, -⟩ := bind_eq_ok_iff.mp htext
      exact ⟨text, htext⟩
    · rintro ⟨text, htext⟩
      exact ⟨_, bind_eq_ok_iff.mpr ⟨text, htext, rfl⟩⟩
  constructor
  · rintro ⟨_, htext⟩
    obtain ⟨_, hlines, -⟩ := bind_eq_ok_iff.mp htext
    obtain ⟨start, -, hlines⟩ := bind_eq_ok_iff.mp
      (show (Printing.newLine >>= _) (depth + 1) = .ok _ from hlines)
    obtain ⟨texts, htexts, -⟩ := bind_eq_ok_iff.mp hlines
    exact (hstarted start).mp ⟨texts, htexts⟩
  · intro hitems
    obtain ⟨start, hstart⟩ : ∃ start, Printing.newLine (depth + 1) = .ok start := ⟨_, rfl⟩
    obtain ⟨texts, htexts⟩ := (hstarted start).mpr hitems
    refine ⟨_, bind_eq_ok_iff.mpr ⟨",".intercalate texts, ?_, rfl⟩⟩
    exact bind_eq_ok_iff.mpr ⟨start, hstart, bind_eq_ok_iff.mpr ⟨texts, htexts, rfl⟩⟩

theorem objectPattern (h : p.Follows p') :
    Printing.Follows Given (objectPattern p) (objectPattern p') := by
  refine (h.list .properties).bind fun properties properties' hlist depth text htext depth' ↦ ?_
  -- the two need not be printed in one form, but either form needs all items and no more
  have hitems : List.Forall₂ (Printing.Follows Given) (properties.map (·.expression {}))
      (properties'.map (·.expression {})) := printed hlist
  generalize properties.map _ = items, properties'.map _ = items' at hitems htext ⊢
  have hprinted : ∀ item ∈ items, ∃ text, item (depth + 1) = .ok text := by
    split at htext
    · exact exists_spread_iff.mp ⟨text, htext⟩
    · obtain ⟨texts, htexts, -⟩ := bind_eq_ok_iff.mp htext
      exact exists_mapM_iff.mp ⟨texts, htexts⟩
  obtain ⟨texts, htexts⟩ := exists_mapM_iff.mpr hprinted
  obtain ⟨texts', htexts', -⟩ := all hitems (depth + 1) texts htexts (depth' + 1)
  split
  · obtain ⟨text', htext'⟩ := exists_spread_iff.mpr (exists_mapM_iff.mp ⟨texts', htexts'⟩)
    exact ⟨text', htext', trivial⟩
  · exact ⟨_, bind_eq_ok_iff.mpr ⟨texts', htexts', rfl⟩, trivial⟩

theorem template (h : p.Follows p') : Printing.Follows Given (template p) (template p') :=
  (h.list .quasis).bind fun _ _ _ ↦ (h.list .expressions).bind fun _ _ hlist ↦
    (expressions hlist).bind fun _ _ _ ↦ .given _ _

theorem taggedTemplate (h : p.Follows p') :
    Printing.Follows Given (taggedTemplate p place) (taggedTemplate p' place') :=
  (h.child .tag).expression fun _ _ ↦ (h.child .quasi).expression fun _ _ ↦ .given _ _

/-- What is spelled like a word is a name. -/
theorem exists_name_of_spelling {r word : Rendering} (hword : IsWord word.node)
    (h : spelling r = spelling word) : ∃ text, name r.node = .ok text := by
  obtain ⟨text, htext, hchars⟩ := hword
  rw [spelling, spelling, htext] at h
  cases hname : r.node.head.name with
  | none =>
    rw [hname] at h
    rw [← show "" = text from h] at hchars
    exact absurd hchars (by decide)
  | some inner =>
    rw [hname] at h
    obtain rfl : inner = text := h
    exact ⟨inner, by simp [name, hname, hchars]⟩

theorem specifier (h : p.Follows p') (outer inner : Field) :
    Printing.Follows Given (specifier p outer inner) (specifier p' outer inner) := by
  refine (h.child outer).bind fun first first' hfirst ↦ (h.child? inner).bind fun _ _ hinner ↦ ?_
  cases hinner with
  | none => exact .given _ _
  | @some r r' hinner =>
    -- with a name for the inner part, it does not matter whether the name is left out
    have hknown (hname : ∃ text, name r'.node = .ok text) (depth : Nat) : ∃ text,
        (if spelling r' == spelling first' then return spelling first'
          else return spelling first' ++ " as " ++ (← nameOf r') : Print String) depth =
            .ok text := by
      obtain ⟨text, htext⟩ := hname
      split_ifs
      · exact ⟨_, rfl⟩
      · exact ⟨_, bind_eq_ok_iff.mpr ⟨text, htext, rfl⟩⟩
    by_cases hr : r.node.kind = some .identifier
    · exact .always (hknown (hinner.word hr).2.name_eq_ok)
    have hname : name r'.node = name r.node := by rw [name, name, hinner.spelled hr]
    have hspelling : spelling r' = spelling r := by rw [spelling, spelling, hinner.spelled hr]
    by_cases hfirstKind : first.node.kind = some .identifier
    · by_cases hsame : spelling r = spelling first
      · exact .always (hknown (hname ▸ exists_name_of_spelling (hfirst.word hfirstKind).1 hsame))
      · intro depth text htext depth'
        have hother : ¬ (spelling r == spelling first) = true := by simpa using hsame
        dsimp only at htext
        rw [if_neg hother] at htext
        obtain ⟨inner, hinnerName, -⟩ := bind_eq_ok_iff.mp htext
        obtain ⟨text', htext'⟩ := hknown ⟨inner, hname.trans hinnerName⟩ depth'
        exact ⟨text', htext', trivial⟩
    · have hsame : spelling first' = spelling first := by
        rw [spelling, spelling, hfirst.spelled hfirstKind]
      dsimp only
      rw [hspelling, hsame]
      exact .ite (.given _ _) (hinner.nameOf.bind fun _ _ _ ↦ .given _ _)

theorem literalText (h : p.Follows p') :
    Printing.Follows Given (literalText p place) (literalText p' place') := by
  have hvalue : p'.node.head.value = p.node.head.value := by rw [h.head]
  unfold Printing.literalText
  rw [hvalue]
  cases p.node.head.value with
  | none => exact .throw
  | some value =>
    refine (Printing.Follows.same (literal value)).bind fun _ _ _ ↦ .always fun depth ↦ ?_
    split
    · split_ifs <;> exact ⟨_, rfl⟩
    · exact ⟨_, rfl⟩

theorem expression (h : p.Follows p') (place place' : ExpressionPlace) :
    Printing.Follows Given (expression p place) (expression p' place') := by
  have hargument : Printing.Follows Given
      (do return "..." ++ (← (← p.child .argument).expression { level := Level.assignment }))
      (do return "..." ++ (← (← p'.child .argument).expression { level := Level.assignment })) :=
    (h.child .argument).expression fun _ _ ↦ .given _ _
  unfold Printing.expression
  rw [h.kind]
  split
  case h_1 => exact h.sequence
  case h_2 =>
    rw [h.operator]
    exact (h.child .left).bind fun _ _ hleft ↦ (h.child .right).bind fun _ _ hright ↦
      assignment hleft hright _ _
  case h_3 =>
    exact (h.child .left).bind fun _ _ hleft ↦ (h.child .right).bind fun _ _ hright ↦
      assignment hleft hright _ _
  case h_4 => exact h.arrowFunction
  case h_5 => exact h.conditional
  case h_6 | h_7 => exact h.binary
  case h_8 => exact h.call
  case h_9 => exact h.new
  case h_10 => exact h.member
  case h_11 => exact h.chain
  case h_12 => exact h.importExpression
  case h_13 => exact h.metaProperty
  case h_14 => exact h.unary
  case h_15 => exact h.update
  case h_16 => exact h.yield
  case h_17 => exact h.await
  case h_18 => exact h.functionText
  case h_19 => exact h.classText
  case h_20 => exact h.methodDefinition
  case h_21 => exact h.fieldDefinition
  case h_22 hkind => exact h.property hkind
  case h_23 => exact h.array
  case h_24 => exact h.arrayPattern
  case h_25 => exact h.object
  case h_26 => exact h.objectPattern
  case h_27 | h_28 => exact hargument
  case h_29 | h_30 | h_34 => exact .given _ _
  case h_31 => exact follows_name h.word h.spelled
  case h_32 => exact h.literalText
  case h_33 => exact h.template
  case h_35 => exact h.taggedTemplate
  case h_36 => exact (h.child .localName).bind fun _ _ hname ↦ hname.nameOf
  case h_37 =>
    exact (h.child .localName).bind fun _ _ hname ↦ hname.nameOf.bind fun _ _ _ ↦ .given _ _
  case h_38 => exact h.specifier .imported .localName
  case h_39 => exact h.specifier .localName .exported
  case h_40 => exact .throw

end Parts.Follows

end Relabel.Printing
