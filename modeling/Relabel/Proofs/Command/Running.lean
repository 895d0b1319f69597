import Relabel.Command.Run
import Relabel.Proofs.Command.Frame

/-!
# Actions that keep to their places

How an action ends and the session that it leaves. An action is steady if it ends the same way in
all sessions that differ at some places only, and if it changes a session at some places only. Steps
that are steady make steady actions.
-/

namespace Relabel.Command

variable {α β : Type}

namespace Running

/-- How an action ends. -/
def outcome (x : Running α) (w : Session) : Except Stop α :=
  (x.run.run w).1

/-- The session that an action leaves. -/
def after (x : Running α) (w : Session) : Session :=
  (x.run.run w).2

section Steps

variable {x : Running α} {g : α → Running β} {h : Stop → Running α} {w : Session} {a : α}
  {stop : Stop}

@[simp]
theorem outcome_pure : outcome (pure a) w = .ok a := rfl

@[simp]
theorem after_pure : after (pure a : Running α) w = w := rfl

@[simp]
theorem outcome_throw : outcome (throw stop : Running α) w = .error stop := rfl

@[simp]
theorem after_throw : after (throw stop : Running α) w = w := rfl

theorem after_modify (change : Session → Session) :
    after (modify change : Running Unit) w = change w := rfl

theorem throw_bind : (throw stop : Running α) >>= g = throw stop := rfl

theorem outcome_bind : outcome (x >>= g) w =
    (outcome x w).bind fun a ↦ outcome (g a) (after x w) := by
  rw [outcome, outcome, after, ExceptT.run_bind, StateT.run_bind]
  cases x.run.run w with
  | mk result w' => cases result <;> rfl

theorem after_bind : after (x >>= g) w = match outcome x w with
    | .ok a => after (g a) (after x w)
    | .error _ => after x w := by
  rw [after, after, outcome, ExceptT.run_bind, StateT.run_bind]
  cases x.run.run w with
  | mk result w' => cases result <;> rfl

theorem outcome_bind_eq_ok_iff {b : β} : outcome (x >>= g) w = .ok b ↔
    ∃ a, outcome x w = .ok a ∧ outcome (g a) (after x w) = .ok b := by
  rw [outcome_bind]
  cases outcome x w with
  | ok a => simp [Except.bind]
  | error stop => simp [Except.bind]

theorem after_bind_of_ok (h : outcome x w = .ok a) :
    after (x >>= g) w = after (g a) (after x w) := by
  rw [after_bind, h]

theorem outcome_tryCatch : outcome (tryCatch x h) w = match outcome x w with
    | .ok a => .ok a
    | .error stop => outcome (h stop) (after x w) := by
  rw [outcome, outcome, after, ExceptT.run_tryCatch, StateT.run_bind]
  cases x.run.run w with
  | mk result w' => cases result <;> rfl

theorem after_tryCatch : after (tryCatch x h) w = match outcome x w with
    | .ok _ => after x w
    | .error stop => after (h stop) (after x w) := by
  rw [after, after, outcome, ExceptT.run_tryCatch, StateT.run_bind]
  cases x.run.run w with
  | mk result w' => cases result <;> rfl

theorem ext {y : Running α} (houtcome : ∀ w, outcome x w = outcome y w)
    (hafter : ∀ w, after x w = after y w) : x = y :=
  ExceptT.ext (StateT.ext fun w ↦ Prod.ext (houtcome w) (hafter w))

end Steps

theorem run_get_bind (g : Session → Running α) (w : Session) :
    (get >>= g).run.run w = (g w).run.run w := rfl

/-! ## What single steps do -/

section Single

variable {w : Session} {path : Path} {text styled : String} {folder : Folder} {fault : FileFault}

/-- Whether styled text can be shown. -/
def shown (styled : String) : Except Stop Unit :=
  match Console.Markup.render styled with
  | .ok _ => .ok ()
  | .error fault => .error (.escape (.markup fault))

theorem outcome_say : outcome (say styled) w = shown styled := by
  unfold say shown
  cases Console.Markup.render styled <;> rfl

theorem after_say : ∃ output, after (say styled) w = { w with output } := by
  unfold say
  cases Console.Markup.render styled with
  | ok text => exact ⟨_, rfl⟩
  | error fault => exact ⟨w.output, rfl⟩

theorem outcome_readText : outcome (readText path) w = match w.folder.read path with
    | .ok bytes => (Text.ofFile bytes).mapError fun fault ↦ .escape (.decoding fault)
    | .error fault => .error (.escape (.file fault)) := by
  have hread : outcome (readText path) w = outcome (orEscape .file (w.folder.read path) >>=
      fun bytes ↦ orEscape .decoding (Text.ofFile bytes)) w := rfl
  rw [hread]
  cases w.folder.read path with
  | error fault => rfl
  | ok bytes =>
    cases htext : Text.ofFile bytes with
    | error fault => simp [orEscape, htext, escape, Except.mapError]
    | ok text => simp [orEscape, htext, Except.mapError]

theorem after_readText : after (readText path) w = w := by
  have hread : after (readText path) w = after (orEscape .file (w.folder.read path) >>=
      fun bytes ↦ orEscape .decoding (Text.ofFile bytes)) w := rfl
  rw [hread]
  cases w.folder.read path with
  | error fault => rfl
  | ok bytes => cases htext : Text.ofFile bytes <;> simp [orEscape, htext, escape]

/-- What is told about a file that was saved. -/
def savedLine (path : Path) : String :=
  "[green]Saved output to: " ++ path.text ++ "[/green]"

theorem run_saveText : (saveText path text).run.run w =
    (orEscape .file (w.folder.save path (Text.Utf8.encode text)) >>= fun folder ↦
      set { w with folder } >>= fun _ ↦ say (savedLine path)).run.run w := rfl

theorem saveText_of_ok (h : w.folder.save path (Text.Utf8.encode text) = .ok folder) :
    outcome (saveText path text) w = shown (savedLine path) ∧
      ∃ output, after (saveText path text) w = { w with folder, output } := by
  have hnext : (saveText path text).run.run w =
      (say (savedLine path)).run.run { w with folder } := by
    rw [run_saveText, h]
    rfl
  refine ⟨?_, ?_⟩
  · rw [outcome, hnext]
    exact outcome_say
  · rw [after, hnext]
    exact after_say

theorem saveText_of_error (h : w.folder.save path (Text.Utf8.encode text) = .error fault) :
    outcome (saveText path text) w = .error (.escape (.file fault)) ∧
      after (saveText path text) w = w := by
  have hnext : (saveText path text).run.run w =
      (escape (.file fault) : Running Unit).run.run w := by
    rw [run_saveText, h]
    rfl
  exact ⟨by rw [outcome, hnext]; rfl, by rw [after, hnext]; rfl⟩

/-- A program that was saved stands at its place. -/
theorem get?_after_saveText {around : Location} {name : String}
    (haround : w.folder.locate path.parent = .ok around)
    (hdirectory : w.folder.isDirectory around = true)
    (hplace : w.folder.locate path = .ok (around ++ [name]))
    (hend : outcome (saveText path text) w = .ok ()) :
    (after (saveText path text) w).folder.get? (around ++ [name]) =
      some (.file (Text.Utf8.encode text)) := by
  have hparent : w.folder.isDirectory (around ++ [name]).dropLast = true := by
    rw [List.dropLast_concat]
    exact hdirectory
  have hsave := Folder.save_eq haround hdirectory hplace hparent (Text.Utf8.encode text)
  by_cases hfile : w.folder.isDirectory (around ++ [name]) = true
  · rw [if_pos hfile] at hsave
    rw [(saveText_of_error hsave).1] at hend
    cases hend
  · rw [if_neg hfile] at hsave
    obtain ⟨-, output, hafter⟩ := saveText_of_ok hsave
    rw [hafter]
    exact (Folder.get?_set hfile hparent _).trans (if_pos rfl)

end Single

end Running

open Running

/-- Two sessions with the same log, whose folders differ at some places only. What the terminal
shows is left open. -/
structure Session.AlikeOutside (places : Set Location) (w w' : Session) : Prop where
  folder : w.folder.AlikeOutside places w'.folder
  log : w'.log = w.log
  time : w'.time = w.time

namespace Session.AlikeOutside

variable {places places' : Set Location} {w w' w'' : Session}

theorem refl (places : Set Location) (w : Session) : w.AlikeOutside places w :=
  ⟨.refl places w.folder, rfl, rfl⟩

theorem trans (h : w.AlikeOutside places w') (h' : w'.AlikeOutside places w'') :
    w.AlikeOutside places w'' :=
  ⟨h.folder.trans h'.folder, h'.log.trans h.log, h'.time.trans h.time⟩

theorem mono (h : w.AlikeOutside places w') (hsub : places ⊆ places') :
    w.AlikeOutside places' w' :=
  ⟨h.folder.mono hsub, h.log, h.time⟩

end Session.AlikeOutside

namespace Running

/-- In every session that differs from a given one at the outer places only, an action ends as it
does in the given one, and it changes the session at the inner places only. -/
def Steady (outer inner : Set Location) (base : Session) (x : Running α) : Prop :=
  ∀ w, base.AlikeOutside outer w →
    outcome x w = outcome x base ∧ w.AlikeOutside inner (after x w)

namespace Steady

section Rules

variable {outer inner : Set Location} {base : Session} {x : Running α} {g : α → Running β}

protected theorem pure (a : α) : Steady outer inner base (pure a : Running α) :=
  fun w _ ↦ ⟨rfl, .refl inner w⟩

protected theorem throw (stop : Stop) : Steady outer inner base (throw stop : Running α) :=
  fun w _ ↦ ⟨rfl, .refl inner w⟩

/-- The second action has to be steady only as it is if the first one does not stop. -/
protected theorem bind (hsub : inner ⊆ outer) (hx : Steady outer inner base x)
    (hg : ∀ a, outcome x base = .ok a → Steady outer inner base (g a)) :
    Steady outer inner base (x >>= g) := by
  intro w hw
  obtain ⟨houtcome, hafter⟩ := hx w hw
  have hbase := (hx base (.refl outer base)).2
  rw [outcome_bind, outcome_bind, after_bind, houtcome]
  cases hend : outcome x base with
  | error stop => exact ⟨rfl, hafter⟩
  | ok a =>
    obtain ⟨hnext, hlast⟩ := hg a hend (after x w) (hw.trans (hafter.mono hsub))
    have hnext' := (hg a hend (after x base) (hbase.mono hsub)).1
    exact ⟨hnext.trans hnext'.symm, hafter.trans hlast⟩

protected theorem tryCatch {h : Stop → Running α} (hsub : inner ⊆ outer)
    (hx : Steady outer inner base x)
    (hh : ∀ stop, outcome x base = .error stop → Steady outer inner base (h stop)) :
    Steady outer inner base (tryCatch x h) := by
  intro w hw
  obtain ⟨houtcome, hafter⟩ := hx w hw
  have hbase := (hx base (.refl outer base)).2
  rw [outcome_tryCatch, outcome_tryCatch, after_tryCatch, houtcome]
  cases hend : outcome x base with
  | ok a => exact ⟨rfl, hafter⟩
  | error stop =>
    obtain ⟨hnext, hlast⟩ := hh stop hend (after x w) (hw.trans (hafter.mono hsub))
    have hnext' := (hh stop hend (after x base) (hbase.mono hsub)).1
    exact ⟨hnext.trans hnext'.symm, hafter.trans hlast⟩

theorem forIn {items : List α} {step : α → PUnit → Running (ForInStep PUnit)} (hsub : inner ⊆ outer)
    (hstep : ∀ item ∈ items, Steady outer inner base (step item PUnit.unit)) :
    Steady outer inner base (forIn items PUnit.unit step) := by
  induction items with
  | nil => exact .pure _
  | cons item rest ih =>
    rw [List.forIn_cons]
    refine .bind hsub (hstep item List.mem_cons_self) fun next _ ↦ ?_
    cases next with
    | done => exact .pure _
    | yield => exact ih fun item hitem ↦ hstep item (List.mem_cons_of_mem _ hitem)

/-- A list of steady actions: each of them ends as it does in the session at the start. -/
theorem mapM {items : List α} {g : α → Running β} (hsub : inner ⊆ outer)
    (hg : ∀ item ∈ items, Steady outer inner base (g item)) :
    Steady outer inner base (items.mapM g) ∧
      outcome (items.mapM g) base = items.mapM fun item ↦ outcome (g item) base := by
  induction items with
  | nil => exact ⟨.pure _, rfl⟩
  | cons item rest ih =>
    have hitem := hg item List.mem_cons_self
    obtain ⟨hrest, hends⟩ := ih fun item hitem ↦ hg item (List.mem_cons_of_mem _ hitem)
    rw [List.mapM_cons, List.mapM_cons]
    refine ⟨.bind hsub hitem fun _ _ ↦ .bind hsub hrest fun _ _ ↦ .pure _, ?_⟩
    have hafter := (hrest _ ((hitem base (.refl outer base)).2.mono hsub)).1
    rw [outcome_bind]
    refine congrArg _ (funext fun first ↦ ?_)
    rw [outcome_bind, hafter, hends]
    rfl

/-- What every action that comes to its end keeps, a list of actions keeps. -/
theorem keeps_mapM {items : List α} {g : α → Running β} {P : Session → Prop}
    (hg : ∀ item ∈ items, Steady outer outer base (g item))
    (hkept : ∀ item ∈ items, ∀ w b, base.AlikeOutside outer w → outcome (g item) w = .ok b →
      P w → P (after (g item) w))
    {w : Session} (hw : base.AlikeOutside outer w) {ends : List β}
    (hends : outcome (items.mapM g) w = .ok ends) (hP : P w) : P (after (items.mapM g) w) := by
  induction items generalizing w ends with
  | nil => exact hP
  | cons item rest ih =>
    rw [List.mapM_cons] at hends ⊢
    obtain ⟨first, hfirst, hends⟩ := outcome_bind_eq_ok_iff.mp hends
    obtain ⟨last, hlast, -⟩ := outcome_bind_eq_ok_iff.mp hends
    rw [after_bind_of_ok hfirst, after_bind_of_ok hlast]
    exact ih (fun item hitem ↦ hg item (List.mem_cons_of_mem _ hitem))
      (fun item hitem ↦ hkept item (List.mem_cons_of_mem _ hitem))
      (hw.trans (hg item List.mem_cons_self w hw).2) hlast
      (hkept item List.mem_cons_self w first hw hfirst hP)

/-- What the action for one item brings about stands at the end of a list of actions, if the
actions for all other items keep it. -/
theorem reaches_mapM {items : List α} {g : α → Running β} {P : Session → Prop} {target : α}
    (hg : ∀ item ∈ items, Steady outer outer base (g item)) (htarget : target ∈ items)
    (hdone : ∀ w b, base.AlikeOutside outer w → outcome (g target) w = .ok b →
      P (after (g target) w))
    (hkept : ∀ item ∈ items, item ≠ target → ∀ w b, base.AlikeOutside outer w →
      outcome (g item) w = .ok b → P w → P (after (g item) w))
    {w : Session} (hw : base.AlikeOutside outer w) {ends : List β}
    (hends : outcome (items.mapM g) w = .ok ends) : P (after (items.mapM g) w) := by
  induction items generalizing w ends with
  | nil => cases htarget
  | cons item rest ih =>
    rw [List.mapM_cons] at hends ⊢
    obtain ⟨first, hfirst, hends⟩ := outcome_bind_eq_ok_iff.mp hends
    obtain ⟨last, hlast, -⟩ := outcome_bind_eq_ok_iff.mp hends
    rw [after_bind_of_ok hfirst, after_bind_of_ok hlast]
    have hnext := hw.trans (hg item List.mem_cons_self w hw).2
    have hg' (item : α) (hitem : item ∈ rest) := hg item (List.mem_cons_of_mem _ hitem)
    have hkept' (item : α) (hitem : item ∈ rest) := hkept item (List.mem_cons_of_mem _ hitem)
    by_cases hsame : item = target
    · subst hsame
      refine keeps_mapM hg' (fun item' hitem w b hw hend hP ↦ ?_) hnext hlast
        (hdone w first hw hfirst)
      by_cases hagain : item' = item
      · exact hagain ▸ hdone w b hw (hagain ▸ hend)
      · exact hkept' item' hitem hagain w b hw hend hP
    · exact ih hg' (List.mem_of_ne_of_mem (Ne.symm hsame) htarget) hkept' hnext hlast

end Rules

section Primitives

variable {outer inner : Set Location} {base : Session}

theorem orEscape {ε : Type} (cause : ε → Escape) (result : Except ε α) :
    Steady outer inner base (orEscape cause result) := by
  cases result with
  | ok a => exact .pure a
  | error fault => exact .throw _

theorem write (lines : List String) : Steady outer inner base (write lines) :=
  fun w _ ↦ ⟨rfl, .refl inner w.folder, rfl, rfl⟩

theorem say (hsub : inner ⊆ outer) (styled : String) : Steady outer inner base (say styled) :=
  .bind hsub (.orEscape _ _) fun _ _ ↦ .write _

/-- The log, if there is one, stands at one of the places. -/
def LogsIn (places : Set Location) (w : Session) : Prop :=
  ∀ path ∈ w.log, ∀ place, w.folder.locate path = .ok place → place ∈ places

theorem record (hlog : LogsIn inner base) (r : Record) :
    Steady outer inner base (Running.record r) := by
  intro w hw
  refine ⟨rfl, ?_⟩
  rw [Running.record, after_modify]
  cases hlogged : w.log with
  | none => exact .refl inner w
  | some path =>
    cases hwritten : w.folder.append path (Text.Utf8.encode (r.text w.time)) with
    | error fault =>
      simp only [hwritten]
      exact .refl inner w
    | ok folder =>
      simp only [hwritten]
      refine ⟨Folder.alikeOutside_of_write hwritten fun place hplace ↦ ?_, hlogged.symm, rfl⟩
      exact hlog path (hw.log ▸ hlogged) place (hw.folder.locate_eq_ok_iff.mp hplace)

theorem inform (hlog : LogsIn inner base) (message : String) (data : Option Json) :
    Steady outer inner base (Running.inform message data) :=
  .record hlog _

/-- A file that stands at none of the outer places is read the same. -/
theorem readText {path : Path} {place : Location}
    (hplace : base.folder.locate path = .ok place) (hmem : place ∉ outer) :
    Steady outer inner base (Running.readText path) := by
  intro w hw
  rw [outcome_readText, outcome_readText, after_readText, hw.folder.read_eq hplace hmem]
  exact ⟨rfl, .refl inner w⟩

/-- A program is saved next to an entry, at one of the inner places. -/
theorem saveText {path : Path} {around : Location} {name : String}
    (haround : base.folder.locate path.parent = .ok around)
    (hdirectory : base.folder.isDirectory around = true)
    (hplace : base.folder.locate path = .ok (around ++ [name])) (hmem : around ++ [name] ∈ inner)
    (text : String) : Steady outer inner base (Running.saveText path text) := by
  intro w hw
  have hparent : base.folder.isDirectory (around ++ [name]).dropLast = true := by
    rw [List.dropLast_concat]
    exact hdirectory
  have hbase := Folder.save_eq haround hdirectory hplace hparent (Text.Utf8.encode text)
  have hsave := Folder.save_eq (hw.folder.locate_eq_ok_iff.mpr haround)
    ((hw.folder.isDirectory around).trans hdirectory) (hw.folder.locate_eq_ok_iff.mpr hplace)
    ((hw.folder.isDirectory _).trans hparent) (Text.Utf8.encode text)
  rw [hw.folder.isDirectory] at hsave
  by_cases hfile : base.folder.isDirectory (around ++ [name]) = true
  · rw [if_pos hfile] at hbase hsave
    rw [(saveText_of_error hbase).1, (saveText_of_error hsave).1, (saveText_of_error hsave).2]
    exact ⟨rfl, .refl inner w⟩
  · rw [if_neg hfile] at hbase hsave
    obtain ⟨houtcome, output, hafter⟩ := saveText_of_ok hsave
    rw [(saveText_of_ok hbase).1, houtcome, hafter]
    have hparent' := (hw.folder.isDirectory _).trans hparent
    refine ⟨rfl, Folder.alikeOutside_set ?_ hparent' hmem, rfl, rfl⟩
    rwa [hw.folder.isDirectory]

end Primitives

end Steady

end Running

end Relabel.Command
