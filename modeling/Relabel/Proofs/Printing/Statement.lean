import Relabel.Proofs.Printing.Expression

/-!
# Statements that follow statements

One lemma for each function that prints statements, and what a statement wants to know about the
start of an expression in it. With them the rendering of a node follows the rendering of another
one if the renderings of its children do.
-/

namespace Relabel.Printing

/-- What the text of the first child under a label starts with. -/
def startOf (p : Parts) (field : Field) : Print Lead :=
  match p.first? field with
  | some r => r.lead
  | none => return .other

namespace Parts

variable {p : Parts} {field : Field} {depth : Nat}

theorem checkedItem_eq_ok {r r' : Option Rendering}
    (h : r.mapM (p.checked field) depth = .ok r') : r = r' := by
  cases r with
  | none => exact Except.ok.inj h
  | some r =>
    change (p.checked field r >>= fun r ↦ Pure.pure (some r)) depth = .ok r' at h
    obtain ⟨found, hfound, hsame⟩ := bind_eq_ok_iff.mp h
    unfold checked at hfound
    split at hfound
    · rw [← Except.ok.inj hsame, Except.ok.inj hfound]
    · injection hfound

theorem forall₂_of_mapM {α β : Type} {f : α → Print β} {as : List α} {bs : List β}
    (h : as.mapM f depth = .ok bs) : List.Forall₂ (fun a b ↦ f a depth = .ok b) as bs := by
  induction as generalizing bs with
  | nil =>
    obtain rfl : [] = bs := Except.ok.inj h
    exact .nil
  | cons a rest ih =>
    rw [List.mapM_cons] at h
    obtain ⟨b, hb, h⟩ := bind_eq_ok_iff.mp h
    obtain ⟨others, hothers, hsame⟩ := bind_eq_ok_iff.mp h
    obtain rfl : b :: others = bs := Except.ok.inj hsame
    exact .cons hb (ih hothers)

theorem find_of_child {r : Rendering} (h : p.child field depth = .ok r) :
    p.first? field = some r := by
  obtain ⟨found, hfound, h⟩ := bind_eq_ok_iff.mp h
  cases found with
  | none => injection h
  | some found =>
    obtain rfl : found = r := Except.ok.inj h
    unfold child? at hfound
    split at hfound
    · injection Except.ok.inj hfound
    · exact checkedItem_eq_ok hfound

/-- What stands first in a list of children. -/
theorem find_of_list {rs : List Rendering} (h : p.list field depth = .ok rs) :
    p.first? field = rs.head? := by
  obtain ⟨items, hitems, h⟩ := bind_eq_ok_iff.mp h
  unfold Parts.items at hitems
  split at hitems
  · unfold first?
    rw [← List.head?_filter]
    generalize p.branches.filter _ = branches at hitems ⊢
    cases forall₂_of_mapM hitems with
    | nil =>
      cases forall₂_of_mapM h
      rfl
    | @cons _ item _ _ hbranch _ =>
      rcases forall₂_of_mapM h with _ | ⟨hitem, -⟩
      cases item with
      | none => injection hitem
      | some item =>
        rw [List.head?_cons, List.head?_cons, Option.bind_some, checkedItem_eq_ok hbranch,
          Except.ok.inj hitem]
  · injection hitems

end Parts

namespace Parts.Follows

variable {p p' : Parts} {field : Field} {depth : Nat}

/-- The start of a child is known if the child was printed. -/
theorem startOf {m : Print String} (h : p.Follows p')
    (hm : ∀ depth text, m depth = .ok text →
      ∀ r ∈ p.first? field, ∃ place text, r.expression place depth = .ok text) :
    Printing.Follows Given m (Printing.startOf p' field) := by
  intro depth text htext depth'
  have hprinted := hm depth text htext
  have hfirst := h.first? field
  unfold Printing.startOf
  generalize p.first? field = first, p'.first? field = first' at hprinted hfirst ⊢
  cases hfirst with
  | none => exact ⟨_, rfl, trivial⟩
  | some hr =>
    obtain ⟨place, text, htext⟩ := hprinted _ rfl
    exact hr.lead place depth text htext depth'

/-- The start of the child that is printed first. -/
theorem startOf_child (h : p.Follows p') {place : ExpressionPlace}
    {k : Rendering → String → Print String} :
    Printing.Follows Given (p.child field >>= fun r ↦ r.expression place >>= k r)
      (Printing.startOf p' field) := by
  refine h.startOf fun depth text htext r hr ↦ ?_
  obtain ⟨r', hr', htext⟩ := bind_eq_ok_iff.mp htext
  obtain ⟨text, htext, -⟩ := bind_eq_ok_iff.mp htext
  obtain rfl : r' = r := Option.some.inj ((Parts.find_of_child hr').symm.trans hr)
  exact ⟨place, text, htext⟩

theorem startOf_assignment (h : p.Follows p') {place : ExpressionPlace} {operator : String} :
    Printing.Follows Given
      (do Printing.assignment (← p.child .left) (← p.child .right) operator place)
      (Printing.startOf p' .left) := by
  refine h.startOf fun depth text htext r hr ↦ ?_
  obtain ⟨left, hleft, htext⟩ := bind_eq_ok_iff.mp htext
  obtain ⟨right, -, htext⟩ := bind_eq_ok_iff.mp htext
  obtain ⟨text, htext, -⟩ := bind_eq_ok_iff.mp htext
  obtain rfl : left = r := Option.some.inj ((Parts.find_of_child hleft).symm.trans hr)
  exact ⟨_, text, htext⟩

theorem startOf_binary (h : p.Follows p') {place : ExpressionPlace} :
    Printing.Follows Given (Printing.binary p place) (Printing.startOf p' .left) := by
  unfold Printing.binary
  cases Level.ofOperator? p.operator with
  | none => exact .throw
  | some level => exact h.startOf_child

theorem startOf_sequence (h : p.Follows p') {place : ExpressionPlace} :
    Printing.Follows Given (Printing.sequence p place) (Printing.startOf p' .expressions) := by
  refine h.startOf fun depth text htext r hr ↦ ?_
  obtain ⟨rs, hrs, htext⟩ := bind_eq_ok_iff.mp htext
  obtain ⟨texts, htexts, -⟩ := bind_eq_ok_iff.mp htext
  rw [Parts.find_of_list hrs] at hr
  obtain ⟨text, htext⟩ := exists_mapM_iff.mp ⟨texts, htexts⟩ r (List.mem_of_mem_head? hr)
  exact ⟨_, text, htext⟩

/-- What an update starts with is known if it was printed. -/
theorem lead_update (h : p.Follows p') {place : ExpressionPlace} :
    Printing.Follows Given (Printing.update p place)
      (if p'.node.head.before then Pure.pure Lead.other
      else do
        match ← Printing.startOf p' .argument with
        | .brace =>
          let text ← (← p'.child .argument).expression { level := Level.update }
          return if hasLineEnd text then .other else .brace
        | .letIndex => return .letIndex
        | _ => return .other) := by
  intro depth text htext depth'
  obtain ⟨r, hr, htext⟩ := bind_eq_ok_iff.mp htext
  obtain ⟨place, text, htext⟩ : ∃ place text, r.expression place depth = .ok text := by
    split_ifs at htext
    all_goals
      obtain ⟨text, htext, -⟩ := bind_eq_ok_iff.mp htext
      exact ⟨_, text, htext⟩
  obtain ⟨r', hr', hfollows⟩ := h.child .argument depth r hr depth'
  obtain ⟨text', htext', -⟩ := hfollows.expression place { level := Level.update } depth text htext
    depth'
  have hstarts : Printing.Follows Given (r.expression place) (Printing.startOf p' .argument) :=
    h.startOf fun depth text htext found hfound ↦ by
      obtain rfl : r = found := Option.some.inj ((Parts.find_of_child hr).symm.trans hfound)
      exact ⟨place, text, htext⟩
  obtain ⟨start, hstart, -⟩ := hstarts depth text htext depth'
  split
  · exact ⟨_, rfl, trivial⟩
  · suffices hrest : ∃ lead, (match start with
        | .brace => do
          let text ← (← p'.child .argument).expression { level := Level.update }
          return if hasLineEnd text then .other else .brace
        | .letIndex => return .letIndex
        | _ => return .other : Print Lead) depth' = .ok lead by
      obtain ⟨lead, hlead⟩ := hrest
      exact ⟨lead, bind_eq_ok_iff.mpr ⟨start, hstart, hlead⟩, trivial⟩
    cases start with
    | brace => exact ⟨_, bind_eq_ok_iff.mpr ⟨r', hr', bind_eq_ok_iff.mpr ⟨text', htext', rfl⟩⟩⟩
    | _ => exact ⟨_, rfl⟩

/-- The start of an expression is known if it was printed. -/
theorem lead (h : p.Follows p') (place : ExpressionPlace) :
    Printing.Follows Given (Printing.expression p place) (Printing.lead p') := by
  have hfollowed {m : Print String} {m' : Print Lead} (hm : Printing.Follows Given m m') :
      Printing.Follows Given m (Lead.followed <$> m') := hm.andThen fun _ _ ↦ ⟨_, rfl⟩
  unfold Printing.lead
  rw [h.kind]
  split
  case h_6 hkind =>
    simp only [Printing.expression, hkind]
    refine Printing.Follows.andThen h.startOf_child fun start depth ↦ ?_
    cases start <;> exact ⟨_, rfl⟩
  case h_7 hkind =>
    simp only [Printing.expression, hkind]
    exact hfollowed h.startOf_child
  case h_8 hkind =>
    simp only [Printing.expression, hkind]
    exact hfollowed h.startOf_child
  case h_9 hkind =>
    simp only [Printing.expression, hkind]
    exact h.startOf_child
  case h_10 hkind | h_11 hkind =>
    simp only [Printing.expression, hkind]
    exact hfollowed h.startOf_binary
  case h_12 hkind =>
    simp only [Printing.expression, hkind]
    exact hfollowed h.startOf_assignment
  case h_13 hkind =>
    simp only [Printing.expression, hkind]
    exact hfollowed h.startOf_child
  case h_14 hkind =>
    simp only [Printing.expression, hkind]
    exact hfollowed h.startOf_sequence
  case h_15 hkind =>
    simp only [Printing.expression, hkind]
    exact h.lead_update
  all_goals exact .always fun _ ↦ ⟨_, rfl⟩

/-! ## Blocks and clauses -/

theorem lines {rs rs' : List Rendering} (h : List.Forall₂ Rendering.Follows rs rs')
    (place place' : StatementPlace) :
    Printing.Follows Given (lines rs place) (lines rs' place') :=
  (Printing.Follows.mapM (S := Given) (fun _ _ hr ↦ Printing.Follows.newLine.bind fun _ _ _ ↦
    (hr.statement place place').bind fun _ _ _ ↦ .given _ _) h).weaken fun _ _ _ ↦ trivial

theorem block (h : p.Follows p') : Printing.Follows Given (block p) (block p') :=
  (h.list .body).bind fun _ _ hlist ↦ (Printing.Follows.indented (lines hlist _ _)).bind fun _ _ _ ↦
    Printing.Follows.newLine.bind fun _ _ _ ↦ .given _ _

theorem classBody (h : p.Follows p') : Printing.Follows Given (classBody p) (classBody p') := by
  refine Printing.Follows.bind (R := Given) (.indented ?_) fun _ _ _ ↦
    Printing.Follows.newLine.bind fun _ _ _ ↦ .given _ _
  refine Printing.Follows.newLine.bind fun _ _ _ ↦ (h.list .body).bind fun _ _ hlist ↦ ?_
  exact (Printing.Follows.mapM (S := Given) (fun _ _ hr ↦ (hr.expression _ _).bind fun _ _ _ ↦
    .given _ _) hlist).weaken fun _ _ _ ↦ trivial

theorem jump (h : p.Follows p') (word : String) :
    Printing.Follows Given (jump p word) (jump p' word) := by
  refine (h.child? .label).bind fun _ _ hlabel ↦ ?_
  cases hlabel with
  | none => exact .given _ _
  | some => exact .given _ _

theorem condition (h : p.Follows p') (word : String) (field : Field) :
    Printing.Follows Given (condition p word field) (condition p' word field) :=
  Printing.Follows.bind (R := Given)
    (.indented ((h.child field).bind fun _ _ hr ↦ hr.expression _ _)) fun _ _ _ ↦ .given _ _

theorem afterBody (isBlock isBlock' : Bool) (text text' : String) :
    Printing.Follows Given (afterBody isBlock text) (afterBody isBlock' text') := by
  refine .always fun depth ↦ ?_
  unfold Printing.afterBody
  split_ifs <;> exact ⟨_, rfl⟩

theorem doWhileStatement (h : p.Follows p') :
    Printing.Follows Given (doWhileStatement p) (doWhileStatement p') :=
  (h.child .body).bind fun _ _ hinner ↦ (body hinner _ _).bind fun _ _ _ ↦
    (afterBody _ _ _ _).bind fun _ _ _ ↦ (h.child .test).expression fun _ _ ↦ .given _ _

theorem catchClause (h : p.Follows p') :
    Printing.Follows Given (catchClause p) (catchClause p') := by
  refine (h.child? .param).bind fun _ _ hparam ↦ ?_
  extract_lets rest rest'
  have hrest (start start' : String) : Printing.Follows Given (rest start) (rest' start') :=
    (h.child .body).bind fun _ _ hbody ↦ (body hbody _ _).bind fun _ _ _ ↦ .given _ _
  cases hparam with
  | none => exact hrest _ _
  | some hparam =>
    exact (Printing.Follows.indented (hparam.expression _ _)).bind fun _ _ _ ↦ hrest _ _

theorem tryStatement (h : p.Follows p') :
    Printing.Follows Given (tryStatement p) (tryStatement p') := by
  refine (h.child .block).bind fun _ _ hinner ↦ (body hinner _ _).bind fun _ _ _ ↦
    (afterBody _ _ _ _).bind fun start start' _ ↦ (h.child? .finalizer).bind fun last last' hlast ↦
      (h.child? .handler).bind fun _ _ hhandler ↦ ?_
  extract_lets rest rest'
  have hrest (caught caught' : String) : Printing.Follows Given (rest caught) (rest' caught') := by
    cases hlast with
    | none => exact .given _ _
    | some hlast => exact (body hlast _ _).bind fun _ _ _ ↦ .given _ _
  cases hhandler with
  | none => exact hrest _ _
  | some hhandler =>
    have hsame : last'.isSome = last.isSome := by cases hlast <;> rfl
    refine (hhandler.statement _ _).bind fun _ _ _ ↦ ?_
    dsimp only
    rw [hsame]
    cases last.isSome with
    | false => exact hrest _ _
    | true => exact (afterBody _ _ _ _).bind fun _ _ _ ↦ hrest _ _

theorem exportDefault (h : p.Follows p') :
    Printing.Follows Given (exportDefault p isStatement) (exportDefault p' isStatement) := by
  refine (h.child .declaration).bind fun r r' hdeclaration ↦ ?_
  have hsame : isStatement r'.node = isStatement r.node := by
    rw [isStatement, isStatement, hdeclaration.kind]
  rw [hsame]
  refine .ite ?_ ?_
  · exact (hdeclaration.statement _ _).bind fun _ _ _ ↦ .given _ _
  · exact (hdeclaration.expression _ _).bind fun _ _ _ ↦ .given _ _

theorem exportNamed (h : p.Follows p') :
    Printing.Follows Given (exportNamed p) (exportNamed p') := by
  refine (h.child? .declaration).bind fun _ _ hdeclaration ↦ ?_
  cases hdeclaration with
  | some hdeclaration => exact (hdeclaration.statement _ _).bind fun _ _ _ ↦ .given _ _
  | none =>
    refine (h.list .specifiers).bind fun _ _ hlist ↦ ?_
    extract_lets rest rest'
    have hrest (names names' : String) : Printing.Follows Given (rest names) (rest' names') := by
      refine (h.child? .source).bind fun _ _ hsource ↦ ?_
      cases hsource with
      | none => exact .given _ _
      | some hsource => exact (hsource.expression _ _).bind fun _ _ _ ↦ .given _ _
    cases hlist with
    | nil => exact hrest _ _
    | cons hfirst hothers =>
      exact (spread (printed (.cons hfirst hothers)) _ _).bind fun _ _ _ ↦ hrest _ _

theorem exportAll (h : p.Follows p') : Printing.Follows Given (exportAll p) (exportAll p') :=
  (h.child .source).expression fun _ _ ↦ .given _ _

theorem isEmpty_eq {rs rs' : List Rendering} (h : List.Forall₂ Rendering.Follows rs rs') :
    rs'.isEmpty = rs.isEmpty := by
  cases h <;> rfl

theorem importNames {rs rs' : List Rendering} (h : List.Forall₂ Rendering.Follows rs rs') :
    Printing.Follows Given (importNames rs) (importNames rs') := by
  cases h with
  | nil => exact .given _ _
  | cons hfirst hrest =>
    unfold Printing.importNames
    dsimp only
    rw [hfirst.hasKind, isEmpty_eq hrest]
    refine .ite ?_ (.ite ?_ ?_)
    · exact (hfirst.expression _ _).bind fun _ _ _ ↦ .given _ _
    · exact (hfirst.expression _ _).bind fun _ _ _ ↦ .given _ _
    · exact (spread (printed (.cons hfirst hrest)) _ _).bind fun _ _ _ ↦ .given _ _

theorem importDeclaration (h : p.Follows p') :
    Printing.Follows Given (importDeclaration p) (importDeclaration p') := by
  refine (h.child .source).expression fun _ _ ↦ (h.list .specifiers).bind fun _ _ hlist ↦ ?_
  cases hlist with
  | nil => exact .given _ _
  | cons hfirst hrest =>
    dsimp only
    rw [hfirst.hasKind, isEmpty_eq hrest]
    split
    · refine (hfirst.expression _ _).bind fun _ _ _ ↦ ?_
      split
      · exact .given _ _
      · exact (importNames hrest).bind fun _ _ _ ↦ .given _ _
    · exact (importNames (.cons hfirst hrest)).bind fun _ _ _ ↦ .given _ _

theorem isFalseDirective_eq (h : p.Follows p') {r r' : Rendering} (hr : r.Follows r') :
    isFalseDirective p'.node r'.node = isFalseDirective p.node r.node := by
  unfold isFalseDirective
  rw [h.head, hr.hasKind]
  rcases hr.value with hvalue | hkind
  · rw [hvalue]
  · have hother : r.node.hasKind .literal = false := by rw [Node.hasKind, hkind]; rfl
    rw [hother, Bool.and_false, Bool.false_and, Bool.false_and]

theorem expressionStatement (h : p.Follows p') :
    Printing.Follows Given (expressionStatement p) (expressionStatement p') := by
  refine (h.child .expression).bind fun r r' hr ↦ ?_
  rw [h.isFalseDirective_eq hr]
  refine .ite (.given _ _) fun depth _ htext depth' ↦ ?_
  -- what the text starts with is known because the text is
  obtain ⟨text, htext, -⟩ := bind_eq_ok_iff.mp htext
  obtain ⟨text', htext', -⟩ := hr.expression {} {} depth text htext depth'
  obtain ⟨lead, hlead, -⟩ := hr.lead {} depth text htext depth'
  exact ⟨_, bind_eq_ok_iff.mpr ⟨text', htext', bind_eq_ok_iff.mpr ⟨lead, hlead, rfl⟩⟩, trivial⟩

theorem variableDeclarator (h : p.Follows p') (place place' : StatementPlace) :
    Printing.Follows Given (variableDeclarator p place) (variableDeclarator p' place') := by
  refine (h.child .id).expression fun _ _ ↦ (h.child? .init).bind fun _ _ hinit ↦ ?_
  cases hinit with
  | none => exact .given _ _
  | some hinit => exact (hinit.expression _ _).bind fun _ _ _ ↦ .given _ _

theorem declarationWord (h : p.Follows p') :
    Printing.Follows Given (declarationWord p) (declarationWord p') := by
  have hvariety : p'.node.head.variety = p.node.head.variety := by rw [h.head]
  unfold Printing.declarationWord
  rw [hvariety]
  exact .ite (.given _ _) .throw

theorem statements {rs rs' : List Rendering} (h : List.Forall₂ Rendering.Follows rs rs')
    (place place' : StatementPlace) :
    Printing.Follows Given (rs.mapM (·.statement place)) (rs'.mapM (·.statement place')) :=
  (Printing.Follows.mapM (fun _ _ hr ↦ hr.statement place place') h).weaken fun _ _ _ ↦ trivial

theorem variableDeclaration (h : p.Follows p') (place place' : StatementPlace) :
    Printing.Follows Given (variableDeclaration p place) (variableDeclaration p' place') := by
  refine h.declarationWord.bind fun _ _ _ ↦ (h.list .declarations).bind fun rs rs' hlist ↦ ?_
  rw [← hlist.length_eq]
  have htexts := statements hlist { allowIn := place.allowIn } { allowIn := place'.allowIn }
  exact .ite (htexts.indented.bind fun _ _ _ ↦ .given _ _) (htexts.bind fun _ _ _ ↦ .given _ _)

theorem passing (word : String) {r r' : Rendering} (h : r.Follows r') :
    Printing.Follows Given (passing word r) (passing word r') :=
  (h.expression _ _).bind fun _ _ _ ↦ .given _ _

theorem returnStatement (h : p.Follows p') :
    Printing.Follows Given (returnStatement p) (returnStatement p') := by
  refine (h.child? .argument).bind fun _ _ hargument ↦ ?_
  cases hargument with
  | none => exact .given _ _
  | some hargument => exact passing _ hargument

/-! ## Branches and loops -/

theorem switchStatement (h : p.Follows p') :
    Printing.Follows Given (switchStatement p) (switchStatement p') :=
  (h.condition _ _).bind fun _ _ _ ↦ (h.list .cases).bind fun _ _ hlist ↦
    (lines hlist _ _).bind fun _ _ _ ↦ Printing.Follows.newLine.bind fun _ _ _ ↦ .given _ _

theorem switchCase (h : p.Follows p') :
    Printing.Follows Given (switchCase p) (switchCase p') := by
  refine .indented ((h.child? .test).bind fun _ _ htest ↦ ?_)
  extract_lets rest rest'
  have hrest (start start' : String) : Printing.Follows Given (rest start) (rest' start') := by
    refine (h.list .consequent).bind fun _ _ hlist ↦ ?_
    cases hlist with
    | nil => exact .given _ _
    | cons hfirst hothers =>
      dsimp only
      rw [hfirst.hasKind]
      refine .ite ?_ ?_
      · exact (body hfirst _ _).bind fun _ _ _ ↦ (lines hothers _ _).bind fun _ _ _ ↦ .given _ _
      · exact (lines (.cons hfirst hothers) _ _).bind fun _ _ _ ↦ .given _ _
  cases htest with
  | none => exact hrest _ _
  | some htest => exact (htest.expression _ _).bind fun _ _ _ ↦ hrest _ _

/-- A statement that ends in an `if` is not empty. -/
theorem hasKind_emptyStatement_of_endsInBareIf {n : Node} (h : endsInBareIf n = true) :
    n.hasKind .emptyStatement = false := by
  unfold endsInBareIf at h
  rw [Node.fold_eq] at h
  by_contra hempty
  rw [Bool.not_eq_false] at hempty
  rw [beq_iff_eq.mp hempty] at h
  exact Bool.false_ne_true h

/-- A statement that is not empty is printed with the branch that it is, in braces or without. -/
theorem ofBranch {r : Rendering} {m : Print String} (h : r.node.hasKind .emptyStatement = false)
    (hm : Printing.Follows Given (r.statement {}) m) : Printing.Follows Given
      (if endsInBareIf r.node then Printing.blocked r else Printing.body r {}) m := by
  have hline : Printing.Follows Given
      (Printing.indented do return (← newLine) ++ (← r.statement {})) m :=
    (Printing.Follows.ofLast fun _ ↦ hm.ofFirst).shallow
  split
  · exact hline.ofFirst
  · unfold Printing.body
    rw [h]
    split
    · exact hm.ofFirst
    · exact hline

theorem toBranch {r : Rendering} {m : Print String}
    (hm : Printing.Follows Given m (r.statement {})) : Printing.Follows Given m
      (if endsInBareIf r.node then Printing.blocked r else Printing.body r {}) := by
  have hline : Printing.Follows Given m
      (Printing.indented do return (← newLine) ++ (← r.statement {})) :=
    (Printing.Follows.afterLine fun _ ↦ hm.andThen fun _ _ ↦ ⟨_, rfl⟩).deep
  split
  · exact hline.andThen fun _ _ ↦ ⟨_, rfl⟩
  · unfold Printing.body
    split_ifs
    · exact hm.andThen fun _ _ ↦ ⟨_, rfl⟩
    · exact .always fun _ ↦ ⟨_, rfl⟩
    · exact hline

/-- The first branch of an `if` that has two. -/
theorem branch {r r' : Rendering} (h : r.Follows r') : Printing.Follows Given
    (if endsInBareIf r.node then Printing.blocked r else Printing.body r {})
    (if endsInBareIf r'.node then Printing.blocked r' else Printing.body r' {}) := by
  cases hempty : r.node.hasKind .emptyStatement with
  | false => exact toBranch (ofBranch hempty (h.statement _ _))
  | true =>
    refine .always fun depth ↦ ?_
    have hempty' := (h.hasKind .emptyStatement).trans hempty
    rw [if_neg fun hends ↦ Bool.false_ne_true
      ((hasKind_emptyStatement_of_endsInBareIf hends).symm.trans hempty')]
    have hother : r'.node.hasKind .blockStatement = false := by
      rw [Node.hasKind, beq_iff_eq.mp hempty']
      rfl
    unfold Printing.body
    rw [hempty', hother]
    exact ⟨_, rfl⟩

theorem ifStatement (h : p.Follows p') :
    Printing.Follows Given (ifStatement p) (ifStatement p') := by
  refine (h.condition _ _).bind fun start start' _ ↦ (h.child .consequent).bind fun yes yes' hyes ↦
    (h.child? .alternate).bind fun _ _ hno ↦ ?_
  cases hno with
  | none => exact (body hyes _ _).bind fun _ _ _ ↦ .given _ _
  | @some no no' hno =>
    have hjoin {c : Prop} [Decidable c] (m k : Print String) (f : String → Print String) :
        (if c then m >>= f else k >>= f) = (if c then m else k) >>= f := by split <;> rfl
    dsimp -zeta only
    extract_lets bare rest bare' rest'
    have hrest (text text' : String) : Printing.Follows Given (rest text) (rest' text') := by
      refine (afterBody _ _ _ _).bind fun _ _ _ ↦ ?_
      rw [hno.hasKind]
      refine .ite ?_ ?_
      · exact (hno.statement _ _).bind fun _ _ _ ↦ .given _ _
      · exact (body hno _ _).bind fun _ _ _ ↦ .given _ _
    rw [hjoin, hjoin]
    exact (branch hyes).bind fun _ _ _ ↦ hrest _ _

theorem labeled (h : p.Follows p') : Printing.Follows Given (labeled p) (labeled p') :=
  (h.child .label).bind fun _ _ _ ↦ (h.child .body).bind fun _ _ hbody ↦
    (body hbody _ _).bind fun _ _ _ ↦ .given _ _

theorem program (h : p.Follows p') : Printing.Follows Given (program p) (program p') :=
  Printing.Follows.base.bind fun _ _ _ ↦ (h.list .body).bind fun _ _ hlist ↦
    (Printing.Follows.mapM (S := Given) (fun _ _ hr ↦ (hr.statement _ _).bind fun _ _ _ ↦
      .given _ _) hlist).bind fun _ _ _ ↦ .given _ _

theorem loopTarget (h : p.Follows p') (place place' : ExpressionPlace) :
    Printing.Follows Given (loopTarget p (Printing.expression p place))
      (loopTarget p' (Printing.expression p' place')) := by
  unfold Printing.loopTarget
  rw [h.hasKind]
  refine .ite ?_ (h.expression _ _)
  refine h.declarationWord.bind fun _ _ _ ↦ (h.list .declarations).bind fun _ _ hlist ↦ ?_
  cases hlist with
  | nil => exact .given _ _
  | cons hfirst _ =>
    exact (Printing.Follows.indented (hfirst.statement _ _)).bind fun _ _ _ ↦ .given _ _

theorem loopOver (h : p.Follows p') (word : String) :
    Printing.Follows Given (loopOver p word) (loopOver p' word) := by
  refine Printing.Follows.bind (R := Given) (.indented ?_) fun _ _ _ ↦
    (h.child .body).bind fun _ _ hbody ↦ (body hbody _ _).bind fun _ _ _ ↦ .given _ _
  refine (h.child .left).bind fun left left' hleft depth _ hhead depth' ↦ ?_
  -- what the target starts with is known because the target is
  obtain ⟨text, htext, hhead⟩ := bind_eq_ok_iff.mp hhead
  obtain ⟨text', htext', -⟩ := hleft.loopTarget depth text htext depth'
  obtain ⟨lead', hlead', -⟩ := hleft.loopLead depth text htext depth'
  obtain ⟨lead, hlead, hhead⟩ := bind_eq_ok_iff.mp hhead
  obtain ⟨source, hsource, hhead⟩ := bind_eq_ok_iff.mp hhead
  obtain ⟨rest, hrest, -⟩ := bind_eq_ok_iff.mp hhead
  obtain ⟨source', hsource', hfollows⟩ := h.child .right depth source hsource depth'
  obtain ⟨rest', hrest', -⟩ := hfollows.expression _ { level := Level.assignment } depth rest hrest
    depth'
  exact ⟨_, bind_eq_ok_iff.mpr ⟨text', htext', bind_eq_ok_iff.mpr ⟨lead', hlead',
    bind_eq_ok_iff.mpr ⟨source', hsource', bind_eq_ok_iff.mpr ⟨rest', hrest', rfl⟩⟩⟩⟩, trivial⟩

theorem forStatement (h : p.Follows p') :
    Printing.Follows Given (forStatement p) (forStatement p') := by
  refine Printing.Follows.bind (R := Given) (.indented ?_) fun _ _ _ ↦
    (h.child .body).bind fun _ _ hbody ↦ (body hbody _ _).bind fun _ _ _ ↦ .given _ _
  refine (h.child? .init).bind fun _ _ hinit ↦ ?_
  extract_lets test test'
  have htest (start start' : String) : Printing.Follows Given (test start) (test' start') := by
    refine (h.child? .test).bind fun _ _ htest ↦ ?_
    extract_lets update update'
    have hupdate (text text' : String) : Printing.Follows Given (update text) (update' text') := by
      refine (h.child? .update).bind fun _ _ hupdate ↦ ?_
      cases hupdate with
      | none => exact .given _ _
      | some hupdate => exact (hupdate.expression _ _).bind fun _ _ _ ↦ .given _ _
    cases htest with
    | none => exact hupdate _ _
    | some htest => exact (htest.expression _ _).bind fun _ _ _ ↦ hupdate _ _
  cases hinit with
  | none => exact htest _ _
  | @some r r' hinit =>
    dsimp only
    rw [hinit.hasKind]
    refine .ite ?_ ?_
    · exact (hinit.statement _ _).bind fun _ _ _ ↦ htest _ _
    · intro depth _ hhead depth'
      obtain ⟨text, htext, hhead⟩ := bind_eq_ok_iff.mp hhead
      obtain ⟨lead, -, hhead⟩ := bind_eq_ok_iff.mp hhead
      obtain ⟨text', htext', -⟩ := hinit.expression _ { allowIn := false } depth text htext depth'
      obtain ⟨lead', hlead', -⟩ := hinit.lead _ depth text htext depth'
      obtain ⟨head', hhead', -⟩ := htest _ _ depth _ hhead depth'
      exact ⟨head', bind_eq_ok_iff.mpr ⟨text', htext', bind_eq_ok_iff.mpr ⟨lead', hlead', hhead'⟩⟩,
        trivial⟩

theorem statement (h : p.Follows p') (place place' : StatementPlace) :
    Printing.Follows Given (statement p place) (statement p' place') := by
  unfold Printing.statement
  rw [h.kind]
  split
  case h_1 => exact h.block
  case h_2 => exact h.jump _
  case h_3 => exact h.jump _
  case h_4 => exact h.classBody
  case h_5 => exact h.classText
  case h_6 => exact h.doWhileStatement
  case h_7 => exact h.catchClause
  case h_8 | h_9 => exact .given _ _
  case h_10 => exact h.exportDefault
  case h_11 => exact h.exportNamed
  case h_12 => exact h.exportAll
  case h_13 => exact h.expressionStatement
  case h_14 => exact h.importDeclaration
  case h_15 => exact h.variableDeclarator _ _
  case h_16 => exact h.variableDeclaration _ _
  case h_17 => exact (h.child .argument).bind fun _ _ hargument ↦ passing _ hargument
  case h_18 => exact h.returnStatement
  case h_19 => exact h.tryStatement
  case h_20 => exact h.switchStatement
  case h_21 => exact h.switchCase
  case h_22 => exact h.ifStatement
  case h_23 => exact h.forStatement
  case h_24 | h_25 => exact h.loopOver _
  case h_26 | h_27 =>
    exact (h.condition _ _).bind fun _ _ _ ↦ (h.child .body).bind fun _ _ hbody ↦
      (body hbody _ _).bind fun _ _ _ ↦ .given _ _
  case h_28 => exact h.labeled
  case h_29 => exact h.functionText
  case h_30 => exact h.program
  case h_31 => exact .throw

/-- The rendering of a node follows that of another one. -/
theorem rendering (h : p.Follows p') :
    (Printing.rendering p.node p.branches).Follows (Printing.rendering p'.node p'.branches) where
  kind := h.kind
  word := h.word
  spelled := h.spelled
  value := .inl (by
    change p'.node.head.value = p.node.head.value
    rw [h.head])
  expression := h.expression
  statement := h.statement
  callable := h.callable
  loopTarget := h.loopTarget _ _
  lead := h.lead
  loopLead := by
    change Printing.Follows Given (Printing.loopTarget p _) (Printing.lead p')
    unfold Printing.loopTarget
    split
    case isTrue hkind =>
      refine .always fun depth ↦ ?_
      unfold Printing.lead
      rw [h.kind, beq_iff_eq.mp hkind]
      exact ⟨_, rfl⟩
    case isFalse => exact h.lead _

end Parts.Follows

end Relabel.Printing
