import Mathlib.Data.List.Nodup
import Mathlib.Data.String.Basic
import Relabel.Proofs.Command.Output
import Relabel.Proofs.Command.Running
import Relabel.Proofs.Labeling.Idempotence

/-!
# The files of a directory, one by one

Labelling a file reads the file, writes its output, and adds to the log. So a file of a directory
fares as it does alone, as long as nothing is written to the place of another file that is to be
labelled. An obstacle that is reported stays with its file; what is not reported ends the run.
-/

namespace Relabel

section Results

variable {ε α β : Type} {g : α → Except ε β} {items : List α}

theorem forall₂_of_mapM_eq_ok {ends : List β} (h : items.mapM g = .ok ends) :
    List.Forall₂ (fun item result ↦ g item = .ok result) items ends := by
  induction items generalizing ends with
  | nil =>
    obtain rfl := Except.ok.inj h
    exact .nil
  | cons item rest ih =>
    rw [List.mapM_cons] at h
    cases hfirst : g item with
    | error fault =>
      rw [hfirst] at h
      cases h
    | ok first =>
      rw [hfirst] at h
      cases hlast : rest.mapM g with
      | error fault =>
        rw [hlast] at h
        cases h
      | ok last =>
        rw [hlast] at h
        obtain rfl := Except.ok.inj h
        exact .cons hfirst (ih hlast)

/-- A list of results fails as its first failure does. -/
theorem exists_of_mapM_eq_error {fault : ε} (h : items.mapM g = .error fault) :
    ∃ before item after, items = before ++ item :: after ∧
      (∀ earlier ∈ before, ∃ result, g earlier = .ok result) ∧ g item = .error fault := by
  induction items with
  | nil => cases h
  | cons item rest ih =>
    rw [List.mapM_cons] at h
    cases hfirst : g item with
    | error fault' =>
      rw [hfirst] at h
      obtain rfl := Except.error.inj h
      exact ⟨[], item, rest, rfl, by simp, hfirst⟩
    | ok first =>
      rw [hfirst] at h
      cases hlast : rest.mapM g with
      | ok last =>
        rw [hlast] at h
        cases h
      | error fault' =>
        rw [hlast] at h
        obtain rfl := Except.error.inj h
        obtain ⟨before, failing, after, rfl, hbefore, hfailing⟩ := ih hlast
        refine ⟨item :: before, failing, after, rfl, ?_, hfailing⟩
        exact List.forall_mem_cons.mpr ⟨⟨first, hfirst⟩, hbefore⟩

theorem exists_mapM_eq_ok_iff :
    (∃ ends, items.mapM g = .ok ends) ↔ ∀ item ∈ items, ∃ result, g item = .ok result := by
  constructor
  · rintro ⟨ends, hends⟩ item hitem
    obtain ⟨i, hi, rfl⟩ := List.getElem_of_mem hitem
    have hall := forall₂_of_mapM_eq_ok hends
    exact ⟨_, (List.forall₂_iff_get.mp hall).2 i hi ((hall.length_eq ▸ hi))⟩
  · intro hall
    cases hends : items.mapM g with
    | ok ends => exact ⟨ends, rfl⟩
    | error fault =>
      obtain ⟨before, item, after, rfl, -, hfailing⟩ := exists_of_mapM_eq_error hends
      obtain ⟨result, hresult⟩ := hall item (by simp)
      rw [hfailing] at hresult
      cases hresult

end Results

namespace Path

theorem partsLe_trans {a b c : List String} (hab : partsLe a b = true) (hbc : partsLe b c = true) :
    partsLe a c = true := by
  induction a generalizing b c with
  | nil => rfl
  | cons first rest ih =>
    cases b with
    | nil => cases hab
    | cons first' rest' =>
      cases c with
      | nil => cases hbc
      | cons first'' rest'' =>
        rw [partsLe] at hab hbc ⊢
        split at hab <;> rename_i h
        · subst h
          split at hbc <;> rename_i h'
          · subst h'
            rw [if_pos rfl]
            exact ih hab hbc
          · rwa [if_neg h']
        · have hlt : first < first' := by simpa using hab
          split at hbc <;> rename_i h'
          · subst h'
            rwa [if_neg h]
          · have hlt' : first' < first'' := by simpa using hbc
            rw [if_neg (hlt.trans hlt').ne]
            simpa using hlt.trans hlt'

theorem partsLe_total (a b : List String) : partsLe a b = true ∨ partsLe b a = true := by
  induction a generalizing b with
  | nil => exact .inl rfl
  | cons first rest ih =>
    cases b with
    | nil => exact .inr rfl
    | cons first' rest' =>
      rw [partsLe, partsLe]
      by_cases h : first = first'
      · rw [if_pos h, if_pos h.symm]
        exact ih rest'
      · rw [if_neg h, if_neg (Ne.symm h)]
        simpa using lt_or_gt_of_ne h

end Path

namespace Command

open Running Folder

variable {s : Settings} {w : Session} {file directory : Path} {f : Folder}

theorem pairwise_selected (f : Folder) (s : Settings) (directory : Path) :
    (selected f s directory).Pairwise fun a b ↦ a.le b = true := by
  have htrans (a b c : Path) (hab : a.le b = true) (hbc : b.le c = true) : a.le c = true :=
    Path.partsLe_trans hab hbc
  have htotal (a b : Path) : (a.le b || b.le a) = true := by
    rw [Bool.or_eq_true]
    exact Path.partsLe_total a.parts b.parts
  exact List.pairwise_mergeSort htrans htotal _

theorem nodup_selected (f : Folder) (s : Settings) (directory : Path) :
    (selected f s directory).Nodup := by
  refine (List.mergeSort_perm _ _).nodup_iff.mpr (List.Nodup.filter _ ?_)
  unfold contents
  split
  · refine nodup_below.map fun names names' hsame ↦ ?_
    simpa using hsame
  · exact List.nodup_nil

/-! ## Labelling a file is steady -/

section Steady

variable {outer inner : Set Location} {base : Session}

theorem steady_labelText (hsub : inner ⊆ outer) (hlog : Steady.LogsIn inner base) (s : Settings)
    (text : String) : Steady outer inner base (labelText s text) := by
  have hrest : Steady outer inner base (do
      for event in (Attempt.ofText s text).events do
        record { level := .debug, message := event.message }
      orEscape .labeling (Attempt.ofText s text).result) :=
    .bind hsub (.forIn hsub fun event _ ↦ .bind hsub (.record hlog _) fun _ _ ↦ .pure _)
      fun _ _ ↦ .orEscape _ _
  unfold labelText
  dsimp only
  split
  · exact .bind hsub (.forIn hsub fun description _ ↦
      .bind hsub (.say hsub _) fun _ _ ↦ .pure _) fun _ _ ↦ hrest
  · exact hrest

/-- The labelled text of a file. -/
def labelledText (s : Settings) (file : Path) : Running LabeledText := do
  inform (String.ofList (List.replicate 80 '='))
  inform ("Starting processing file: " ++ file.text)
  let result ← labelText s (← readText file)
  inform "Labeling finished" (labeledJson result)
  return result

/-- Writes the labelled text of a file next to the file. -/
def saveLabelled (s : Settings) (file : Path) (result : LabeledText) : Running FileReport :=
  match outputPath? s file with
  | some out => do
    saveText out result.code
    return .labeled file out result
  | none => escape (.outputName (outputName s file))

theorem labelFile_eq (s : Settings) (file : Path) :
    labelFile s file none = labelledText s file >>= saveLabelled s file := by
  unfold labelFile labelledText
  simp only [bind_assoc, pure_bind, Option.none_or]
  unfold saveLabelled
  cases outputPath? s file with
  | some out => with_reducible rfl
  | none => simp only [escape, Running.throw_bind]

theorem steady_labelledText (hsub : inner ⊆ outer) (hlog : Steady.LogsIn inner base)
    (hname : IsFileName file.name) {around : Location}
    (haround : base.folder.locate file.parent = .ok around)
    (hdirectory : base.folder.isDirectory around = true) (hfile : around ++ [file.name] ∉ outer) :
    Steady outer inner base (labelledText s file) := by
  have hplace := (locate_file_iff hname).mpr ⟨around, haround, hdirectory, rfl⟩
  exact .bind hsub (.inform hlog _ _) fun _ _ ↦ .bind hsub (.inform hlog _ _) fun _ _ ↦
    .bind hsub (.readText hplace hfile) fun text _ ↦
    .bind hsub (steady_labelText hsub hlog s text) fun result _ ↦
    .bind hsub (.inform hlog _ _) fun _ _ ↦ .pure _

theorem steady_labelFile (hsub : inner ⊆ outer) (hlog : Steady.LogsIn inner base)
    (hsuffix : s.outputSuffix.endsWith ".js" = true) (hname : IsFileName file.name)
    {around : Location} (haround : base.folder.locate file.parent = .ok around)
    (hdirectory : base.folder.isDirectory around = true) (hfile : around ++ [file.name] ∉ outer)
    (hout : ∀ out, outputPath? s file = some out → ∀ place, base.folder.locate out = .ok place →
      place ∈ inner) : Steady outer inner base (labelFile s file none) := by
  rw [labelFile_eq]
  refine .bind hsub (steady_labelledText hsub hlog hname haround hdirectory hfile) fun result _ ↦ ?_
  unfold saveLabelled
  cases hpath : outputPath? s file with
  | none => exact .throw _
  | some out =>
    have houtput := (locate_output_iff hsuffix hname hpath).mpr ⟨around, haround, hdirectory, rfl⟩
    have hparent := locate_output_parent hsuffix hname hpath haround hdirectory
    exact .bind hsub (.saveText hparent hdirectory houtput (hout out hpath _ houtput) result.code)
      fun _ _ ↦ .pure _

end Steady

/-- What is told about a file that was not labelled. -/
def errorLine (file : Path) (obstacle : Obstacle) : String :=
  "[red]Error processing " ++ file.text ++ ": " ++ obstacle.message ++ "[/red]"

/-- What a directory run does about a file that was not labelled. -/
def afterStop (file : Path) : Stop → Running FileReport
  | .escape (.labeling obstacle) =>
    if isReported obstacle then do
      say (errorLine file obstacle)
      record {
        level := .error
        message := "Failed: " ++ file.text
        data := some (.object [("error", .text obstacle.message)]) }
      pure (.failed file obstacle.message)
    else throw (.escape (.labeling obstacle))
  | stop => throw stop

theorem labelMember_eq (s : Settings) (file : Path) (output : Option Path) :
    labelMember s file output = tryCatch (labelFile s file output) (afterStop file) :=
  rfl

theorem steady_afterStop {outer inner : Set Location} {base : Session} (hsub : inner ⊆ outer)
    (hlog : Steady.LogsIn inner base) (file : Path) (stop : Stop) :
    Steady outer inner base (afterStop file stop) := by
  unfold afterStop
  split
  · split
    · exact .bind hsub (.say hsub _) fun _ _ ↦ .bind hsub (.record hlog _) fun _ _ ↦ .pure _
    · exact .throw _
  · exact .throw _

/-- What a directory run makes of the way in which a file ends alone. -/
def reportOf (file : Path) : Except Stop FileReport → Except Stop FileReport
  | .error (.escape (.labeling obstacle)) =>
    if isReported obstacle then
      (shown (errorLine file obstacle)).map fun _ ↦ .failed file obstacle.message
    else .error (.escape (.labeling obstacle))
  | ending => ending

/-- What a directory run reports of a file, by the way in which the file ends alone. -/
inductive Reports (file : Path) : Except Stop FileReport → FileReport → Prop where
  | labeled (report : FileReport) : Reports file (.ok report) report
  | failed (obstacle : Obstacle) (hreported : isReported obstacle = true)
      (hshown : shown (errorLine file obstacle) = .ok ()) :
      Reports file (.error (.escape (.labeling obstacle))) (.failed file obstacle.message)

theorem reportOf_eq_ok_iff {ending : Except Stop FileReport} {report : FileReport} :
    reportOf file ending = .ok report ↔ Reports file ending report := by
  constructor
  · intro h
    unfold reportOf at h
    split at h
    · rename_i obstacle
      split at h
      · rename_i hreported
        cases hshown : shown (errorLine file obstacle) with
        | error stop =>
          rw [hshown] at h
          cases h
        | ok _ =>
          rw [hshown] at h
          obtain rfl := Except.ok.inj h
          exact .failed obstacle hreported hshown
      · cases h
    · subst h
      exact .labeled report
  · rintro (_ | ⟨obstacle, hreported, hshown⟩)
    · rfl
    · rw [reportOf, if_pos hreported, hshown]
      rfl

theorem outcome_labelMember (s : Settings) (file : Path) (output : Option Path) (w : Session) :
    outcome (labelMember s file output) w =
      reportOf file (outcome (labelFile s file output) w) := by
  rw [labelMember_eq, outcome_tryCatch]
  cases outcome (labelFile s file output) w with
  | ok report => rfl
  | error stop =>
    cases stop with
    | exit code => rfl
    | escape cause =>
      cases cause with
      | labeling obstacle =>
        simp only [reportOf, afterStop]
        split
        · rw [outcome_bind, outcome_say]
          cases shown (errorLine file obstacle) <;> rfl
        · rfl
      | _ => rfl

/-- The places that labelling files writes to: that of the log, and those of the outputs. -/
def writtenPlaces (s : Settings) (w : Session) (files : List Path) : Set Location :=
  {place | (∃ path ∈ w.log, w.folder.locate path = .ok place) ∨
    ∃ file ∈ files, ∃ out, outputPath? s file = some out ∧ w.folder.locate out = .ok place}

theorem writtenPlaces_mono {files files' : List Path} (hsub : files ⊆ files') :
    writtenPlaces s w files ⊆ writtenPlaces s w files' := by
  rintro place (hlog | ⟨file, hfile, hout⟩)
  · exact .inl hlog
  · exact .inr ⟨file, hsub hfile, hout⟩

theorem logsIn_writtenPlaces (s : Settings) (w : Session) (files : List Path) :
    Steady.LogsIn (writtenPlaces s w files) w :=
  fun path hpath _ hplace ↦ .inl ⟨path, hpath, hplace⟩

/-- Nothing is written to the place of a file that is to be labelled. -/
def SparesInputs (s : Settings) (w : Session) (files : List Path) : Prop :=
  ∀ file ∈ files, ∀ place, w.folder.locate file = .ok place → place ∉ writtenPlaces s w files

/-- Without a log, and with an ending of outputs that leads through no directory, nothing is written
to the place of a selected file. -/
theorem sparesInputs_of_log_eq_none (hsuffix : s.outputSuffix.endsWith ".js" = true)
    (hnamed : w.folder.WellNamed) (hlog : w.log = none) (hslash : '/' ∉ s.outputSuffix.toList) :
    SparesInputs s w (selected w.folder s directory) := by
  rintro file hfile place hplace (⟨path, hpath, -⟩ | ⟨other, hother, out, hout, hout'⟩)
  · rw [hlog] at hpath
    cases hpath
  · have hmeets := locate_output_eq_selected_iff hsuffix hnamed hother hfile hout
    exact hslash (hmeets.mp (hout'.trans hplace.symm)).2.1

section Members

variable (hsuffix : s.outputSuffix.endsWith ".js" = true) (hnamed : w.folder.WellNamed)
  (hspared : SparesInputs s w (selected w.folder s directory))

include hsuffix hnamed hspared

theorem steady_labelFile_of_selected (hfile : file ∈ selected w.folder s directory) :
    Steady (writtenPlaces s w (selected w.folder s directory)) (writtenPlaces s w [file]) w
      (labelFile s file none) := by
  obtain ⟨hname, place, way, -, -, hway, hdirectory⟩ :=
    exists_way_of_mem_contents hnamed (mem_selected_iff.mp hfile).1
  have hplace := (locate_file_iff hname).mpr ⟨_, hway, hdirectory, rfl⟩
  refine steady_labelFile (writtenPlaces_mono ?_) (logsIn_writtenPlaces _ _ _) hsuffix hname hway
    hdirectory (hspared file hfile _ hplace) fun out hout place hplace ↦ ?_
  · simpa using hfile
  · exact .inr ⟨file, List.mem_singleton_self file, out, hout, hplace⟩

theorem steady_labelMember (hfile : file ∈ selected w.folder s directory) :
    Steady (writtenPlaces s w (selected w.folder s directory)) (writtenPlaces s w [file]) w
      (labelMember s file none) := by
  rw [labelMember_eq]
  have hsub : writtenPlaces s w [file] ⊆ writtenPlaces s w (selected w.folder s directory) :=
    writtenPlaces_mono (by simpa using hfile)
  exact .tryCatch hsub (steady_labelFile_of_selected hsuffix hnamed hspared hfile)
    fun stop _ ↦ steady_afterStop hsub (logsIn_writtenPlaces _ _ _) file stop

/-- A file that was labelled has its output. -/
theorem saved_labelFile (hfile : file ∈ selected w.folder s directory) {w' : Session}
    (hw : w.AlikeOutside (writtenPlaces s w (selected w.folder s directory)) w')
    {report : FileReport} (hend : outcome (labelFile s file none) w' = .ok report) :
    ∃ out result, report = .labeled file out result ∧ outputPath? s file = some out ∧
      ∀ place, w.folder.locate out = .ok place →
        (after (labelFile s file none) w').folder.get? place =
          some (.file (Text.Utf8.encode result.code)) := by
  obtain ⟨hname, place, way, -, -, hway, hdirectory⟩ :=
    exists_way_of_mem_contents hnamed (mem_selected_iff.mp hfile).1
  have hplace := (locate_file_iff hname).mpr ⟨_, hway, hdirectory, rfl⟩
  have hread := steady_labelledText (s := s) (le_refl _) (logsIn_writtenPlaces _ _ _) hname hway
    hdirectory (hspared file hfile _ hplace)
  rw [labelFile_eq] at hend ⊢
  obtain ⟨result, hresult, hend⟩ := outcome_bind_eq_ok_iff.mp hend
  rw [after_bind_of_ok hresult]
  have hnext := hw.trans (hread w' hw).2
  generalize after (labelledText s file) w' = w'' at hend hnext ⊢
  unfold saveLabelled at hend ⊢
  cases hpath : outputPath? s file with
  | none =>
    rw [hpath] at hend
    cases hend
  | some out =>
    rw [hpath] at hend
    obtain ⟨_, hsaved, hend⟩ := outcome_bind_eq_ok_iff.mp hend
    refine ⟨out, result, (Except.ok.inj hend).symm, rfl, fun place hout ↦ ?_⟩
    have houtput := (locate_output_iff hsuffix hname hpath).mpr ⟨_, hway, hdirectory, rfl⟩
    obtain rfl := Except.ok.inj (hout.symm.trans houtput)
    rw [after_bind_of_ok hsaved]
    exact get?_after_saveText (hnext.folder.locate_eq_ok_iff.mpr
      (locate_output_parent hsuffix hname hpath hway hdirectory))
      ((hnext.folder.isDirectory _).trans hdirectory)
      (hnext.folder.locate_eq_ok_iff.mpr houtput) hsaved

end Members

/-! ## The run over a directory -/

/-- What is told about the files that were found. -/
def foundLine (directory : Path) (files : List Path) : String :=
  "[blue]Found " ++ toString files.length ++ " JavaScript files in " ++ directory.text ++ "[/blue]"

/-- Tells of the files that were found. -/
def announce (directory : Path) (files : List Path) : Running Unit := do
  say (foundLine directory files)
  inform ("Processing directory: " ++ directory.text) (some (.object [
    ("js_files_count", .count files.length),
    ("js_files", .texts ((files.take 10).map Path.text))]))

/-- A run over a directory whose files were found. -/
def labelFound (s : Settings) (directory : Path) (files : List Path) :
    Running (List FileReport) :=
  announce directory files >>= fun _ ↦ files.mapM fun file ↦ labelMember s file none

theorem labelDirectory_eq (s : Settings) (directory : Path) : labelDirectory s directory none =
    get >>= fun w ↦ labelFound s directory (selected w.folder s directory) := by
  unfold labelDirectory labelFound announce foundLine
  simp only [Option.map_none, bind_assoc]

theorem run_labelDirectory (s : Settings) (directory : Path) (w : Session) :
    (labelDirectory s directory none).run.run w =
      (labelFound s directory (selected w.folder s directory)).run.run w := by
  rw [labelDirectory_eq, run_get_bind]

theorem steady_announce {outer inner : Set Location} {base : Session} (hsub : inner ⊆ outer)
    (hlog : Steady.LogsIn inner base) (directory : Path) (files : List Path) :
    Steady outer inner base (announce directory files) :=
  .bind hsub (.say hsub _) fun _ _ ↦ .inform hlog _ _

theorem outcome_announce (directory : Path) (files : List Path) (w : Session) :
    outcome (announce directory files) w = shown (foundLine directory files) := by
  rw [announce, outcome_bind, outcome_say]
  cases shown (foundLine directory files) <;> rfl

theorem alikeOutside_announce (s : Settings) (w : Session) (directory : Path) (files : List Path) :
    w.AlikeOutside (writtenPlaces s w files) (after (announce directory files) w) :=
  (steady_announce (le_refl _) (logsIn_writtenPlaces _ _ _) _ _ w (.refl _ w)).2

section Run

variable (hsuffix : s.outputSuffix.endsWith ".js" = true) (hnamed : w.folder.WellNamed)
  (hspared : SparesInputs s w (selected w.folder s directory))

include hsuffix hnamed hspared

theorem steady_members : ∀ file ∈ selected w.folder s directory,
    Steady (writtenPlaces s w (selected w.folder s directory))
      (writtenPlaces s w (selected w.folder s directory)) w (labelMember s file none) := by
  intro file hfile w' hw
  obtain ⟨hend, hafter⟩ := steady_labelMember hsuffix hnamed hspared hfile w' hw
  exact ⟨hend, hafter.mono (writtenPlaces_mono (by simpa using hfile))⟩

/-- A run over a directory writes to the places of the outputs and of the log only. -/
theorem alikeOutside_labelDirectory :
    w.AlikeOutside (writtenPlaces s w (selected w.folder s directory))
      (after (labelDirectory s directory none) w) := by
  rw [after, run_labelDirectory, ← after]
  have hmembers := steady_members hsuffix hnamed hspared
  exact (Steady.bind (le_refl _) (steady_announce (le_refl _) (logsIn_writtenPlaces _ _ _) _ _)
    fun _ _ ↦ (Steady.mapM (le_refl _) hmembers).1) w (.refl _ w) |>.2

/-- A run over a directory ends as its files end alone. -/
theorem outcome_labelDirectory : outcome (labelDirectory s directory none) w =
    (shown (foundLine directory (selected w.folder s directory))).bind fun _ ↦
      (selected w.folder s directory).mapM fun file ↦
        reportOf file (outcome (labelFile s file none) w) := by
  rw [outcome, run_labelDirectory, ← outcome, labelFound, outcome_bind, outcome_announce]
  obtain ⟨hsteady, hends⟩ := Steady.mapM (le_refl _) (steady_members hsuffix hnamed hspared)
  rw [(hsteady _ (alikeOutside_announce _ _ _ _)).1, hends]
  simp only [outcome_labelMember]

/-- What a run over a directory leaves behind at the place of an output, if no other file is
written there. -/
theorem get?_after_labelDirectory (hfile : file ∈ selected w.folder s directory)
    {reports : List FileReport} (hend : outcome (labelDirectory s directory none) w = .ok reports)
    {out : Path} {result : LabeledText}
    (halone : outcome (labelFile s file none) w = .ok (.labeled file out result))
    {place : Location} (hplace : w.folder.locate out = .ok place)
    (hothers : ∀ other ∈ selected w.folder s directory, other ≠ file →
      place ∉ writtenPlaces s w [other]) :
    (after (labelDirectory s directory none) w).folder.get? place =
      some (.file (Text.Utf8.encode result.code)) := by
  rw [outcome, run_labelDirectory, ← outcome, labelFound] at hend
  obtain ⟨_, hannounced, hend⟩ := outcome_bind_eq_ok_iff.mp hend
  rw [after, run_labelDirectory, ← after, labelFound, after_bind_of_ok hannounced]
  refine Steady.reaches_mapM
    (P := fun w ↦ w.folder.get? place = some (.file (Text.Utf8.encode result.code)))
    (steady_members hsuffix hnamed hspared) hfile
    (fun w' _ hw _ ↦ ?_) (fun other hother hne w' _ hw _ hkept ↦ ?_)
    (alikeOutside_announce _ _ _ _) hend
  · have hsame := (steady_labelFile_of_selected hsuffix hnamed hspared hfile w' hw).1.trans halone
    obtain ⟨out', result', hreport, -, hsaved⟩ :=
      saved_labelFile hsuffix hnamed hspared hfile hw hsame
    obtain ⟨-, rfl, rfl⟩ := FileReport.labeled.inj hreport
    rw [labelMember_eq, after_tryCatch, hsame]
    exact hsaved place hplace
  · rw [← hkept]
    exact (steady_labelMember hsuffix hnamed hspared hother w' hw).2.folder.get? place
      (hothers other hother hne)

end Run

end Command

open Command Running in
/-- A run over a directory makes a report of every selected file, in the order of the paths, if the
files allow for it: each of them has to be labelled alone, or to fail alone in a way that is
reported and can be shown. The reports say what the files say alone, and every labelled file has the
output that it has alone, if nothing else is written to the place of the output. The first file that
does not allow for a report ends the run. -/
theorem labelDirectory_eq_alone {fields : List (String × Json)} {s : Settings} {w : Session}
    {directory : Path} (hs : Settings.validate fields = .ok s) (hnamed : w.folder.WellNamed)
    (hspared : SparesInputs s w (selected w.folder s directory)) :
    (selected w.folder s directory).Pairwise (fun a b ↦ a.le b = true) ∧
    (selected w.folder s directory).Nodup ∧
    ((∃ reports, outcome (labelDirectory s directory none) w = .ok reports) ↔
      shown (foundLine directory (selected w.folder s directory)) = .ok () ∧
      ∀ file ∈ selected w.folder s directory,
        ∃ report, Reports file (outcome (labelFile s file none) w) report) ∧
    (∀ reports, outcome (labelDirectory s directory none) w = .ok reports →
      List.Forall₂ (fun file report ↦ Reports file (outcome (labelFile s file none) w) report)
        (selected w.folder s directory) reports) ∧
    (∀ stop, outcome (labelDirectory s directory none) w = .error stop →
      shown (foundLine directory (selected w.folder s directory)) = .error stop ∨
      ∃ before file after, selected w.folder s directory = before ++ file :: after ∧
        (∀ earlier ∈ before,
          ∃ report, Reports earlier (outcome (labelFile s earlier none) w) report) ∧
        reportOf file (outcome (labelFile s file none) w) = .error stop) ∧
    (∀ reports, outcome (labelDirectory s directory none) w = .ok reports →
      ∀ file ∈ selected w.folder s directory, ∀ out result,
      outcome (labelFile s file none) w = .ok (.labeled file out result) →
      (∀ other ∈ selected w.folder s directory, other ≠ file → ∀ place,
        w.folder.locate out = .ok place → place ∉ writtenPlaces s w [other]) →
      (after (labelDirectory s directory none) w).folder.read out =
          .ok (Text.Utf8.encode result.code) ∧
        (after (labelFile s file none) w).folder.read out =
          .ok (Text.Utf8.encode result.code)) ∧
    ∀ file ∈ selected w.folder s directory,
      (after (labelDirectory s directory none) w).folder.read file = w.folder.read file := by
  have hsuffix := endsWith_outputSuffix hs
  have hend := outcome_labelDirectory hsuffix hnamed hspared
  have halike := alikeOutside_labelDirectory hsuffix hnamed hspared
  refine ⟨pairwise_selected _ _ _, nodup_selected _ _ _, ?_, fun reports hreports ↦ ?_,
    fun stop hstop ↦ ?_, fun reports hreports file hfile out result halone hothers ↦ ?_,
    fun file hfile ↦ ?_⟩
  · rw [hend]
    cases hshown : shown (foundLine directory (selected w.folder s directory)) with
    | error stop => simp [Except.bind]
    | ok _ => simp [Except.bind, exists_mapM_eq_ok_iff, reportOf_eq_ok_iff]
  · rw [hend] at hreports
    cases hshown : shown (foundLine directory (selected w.folder s directory)) with
    | error stop =>
      rw [hshown] at hreports
      cases hreports
    | ok _ =>
      rw [hshown] at hreports
      exact (forall₂_of_mapM_eq_ok hreports).imp fun _ _ h ↦ reportOf_eq_ok_iff.mp h
  · rw [hend] at hstop
    cases hshown : shown (foundLine directory (selected w.folder s directory)) with
    | error stop' =>
      rw [hshown] at hstop
      obtain rfl := Except.error.inj hstop
      exact .inl rfl
    | ok _ =>
      rw [hshown] at hstop
      obtain ⟨before, file, after, hsplit, hbefore, hfile⟩ := exists_of_mapM_eq_error hstop
      refine .inr ⟨before, file, after, hsplit, fun earlier hearlier ↦ ?_, hfile⟩
      exact (hbefore earlier hearlier).imp fun _ h ↦ reportOf_eq_ok_iff.mp h
  · obtain ⟨out', result', hreport, hout, hsaved⟩ :=
      saved_labelFile hsuffix hnamed hspared hfile (.refl _ w) halone
    obtain ⟨-, rfl, rfl⟩ := FileReport.labeled.inj hreport
    obtain ⟨hname, place, way, -, -, hway, hdirectory⟩ :=
      exists_way_of_mem_contents hnamed (mem_selected_iff.mp hfile).1
    have hplace := (locate_output_iff hsuffix hname hout).mpr ⟨_, hway, hdirectory, rfl⟩
    have halike' :=
      (steady_labelFile_of_selected hsuffix hnamed hspared hfile w (.refl _ w)).2
    refine ⟨Folder.read_eq_of_get? (halike.folder.locate_eq_ok_iff.mpr hplace) ?_,
      Folder.read_eq_of_get? (halike'.folder.locate_eq_ok_iff.mpr hplace) (hsaved _ hplace)⟩
    exact get?_after_labelDirectory hsuffix hnamed hspared hfile hreports halone hplace
      fun other hother hne ↦ hothers other hother hne _ hplace
  · obtain ⟨hname, place, way, -, -, hway, hdirectory⟩ :=
      exists_way_of_mem_contents hnamed (mem_selected_iff.mp hfile).1
    have hplace := (locate_file_iff hname).mpr ⟨_, hway, hdirectory, rfl⟩
    exact halike.folder.read_eq hplace (hspared file hfile _ hplace)

namespace Sample

/-- A session in a folder with one directory. -/
def session (files : List (String × List UInt8)) : Command.Session :=
  { folder := directory files, time := "2024-01-01 00:00:00" }

def quietly : Settings :=
  { quiet := true }

/-- A closing parenthesis, and an empty program. -/
def oneBroken : Command.Session :=
  session [("a.js", [0x29]), ("b.js", [])]

/-- A byte that starts no character, and an empty program. -/
def oneUndecodable : Command.Session :=
  session [("b.js", [0xFF]), ("c.js", [])]

end Sample

open Command Running in
/-- A file that is no program is reported, and its sibling is labelled. -/
theorem labelDirectory_eq_alone_oneBroken :
    Settings.validate [(Settings.quietKey, .boolean true)] = .ok Sample.quietly ∧
    Sample.oneBroken.folder.WellNamed ∧
    SparesInputs Sample.quietly Sample.oneBroken
      (selected Sample.oneBroken.folder Sample.quietly (.ofText "src")) ∧
    ∃ reports, outcome (labelDirectory Sample.quietly (.ofText "src") none) Sample.oneBroken =
      .ok reports ∧ reports.map FileReport.isFailed = [true, false] := by
  have hs : Settings.validate [(Settings.quietKey, .boolean true)] = .ok Sample.quietly := rfl
  have hnamed : Sample.oneBroken.folder.WellNamed := by decide
  have hspared : SparesInputs Sample.quietly Sample.oneBroken
      (selected Sample.oneBroken.folder Sample.quietly (.ofText "src")) :=
    sparesInputs_of_log_eq_none (endsWith_outputSuffix hs) hnamed rfl (by decide)
  have hselected : selected Sample.oneBroken.folder Sample.quietly (.ofText "src") =
      [.ofText "src/a.js", .ofText "src/b.js"] :=
    selected_eq_of_pairwise (by decide +kernel) (by decide +kernel)
  have ha : ((reportOf (.ofText "src/a.js") (outcome (labelFile Sample.quietly
      (.ofText "src/a.js") none) Sample.oneBroken)).toOption.map FileReport.isFailed) =
        some true := by
    decide +kernel
  have hb : ((reportOf (.ofText "src/b.js") (outcome (labelFile Sample.quietly
      (.ofText "src/b.js") none) Sample.oneBroken)).toOption.map FileReport.isFailed) =
        some false := by
    simp only [labelFile, labelText, Attempt.ofText, Attempt.ofSource,
      Labeling.runPasses_eq_runTables, Pass.tables_standard]
    decide +kernel
  obtain ⟨report, hreport, hfailed⟩ := Option.map_eq_some_iff.mp ha
  obtain ⟨report', hreport', hfailed'⟩ := Option.map_eq_some_iff.mp hb
  rw [toOption_eq_some_iff] at hreport hreport'
  obtain ⟨-, -, hends, hreports, -⟩ := labelDirectory_eq_alone hs hnamed hspared
  rw [hselected] at hends hreports
  obtain ⟨reports, hend⟩ := hends.mpr ⟨by decide +kernel, by
    simp only [List.forall_mem_cons, List.not_mem_nil, false_implies, implies_true, and_true]
    exact ⟨⟨report, reportOf_eq_ok_iff.mp hreport⟩, report', reportOf_eq_ok_iff.mp hreport'⟩⟩
  refine ⟨hs, hnamed, hspared, reports, hend, ?_⟩
  obtain _ | ⟨hfirst, _ | ⟨hsecond, _ | _⟩⟩ := hreports reports hend
  rw [← reportOf_eq_ok_iff, hreport, Except.ok.injEq] at hfirst
  rw [← reportOf_eq_ok_iff, hreport', Except.ok.injEq] at hsecond
  rw [← hfirst, ← hsecond, List.map_cons, List.map_cons, hfailed, hfailed', List.map_nil]

open Command Running in
/-- A file that cannot be decoded ends the run: it gets no report, and its sibling, which is
labelled alone, gets no output. -/
theorem sibling_lost_if_undecodable :
    selected Sample.oneUndecodable.folder Sample.quietly (.ofText "src") =
      [.ofText "src/b.js", .ofText "src/c.js"] ∧
    outcome (labelFile Sample.quietly (.ofText "src/b.js") none) Sample.oneUndecodable =
      .error (.escape (.decoding ⟨0xFF, 0, 1, .badStart⟩)) ∧
    (∃ report, outcome (labelFile Sample.quietly (.ofText "src/c.js") none)
      Sample.oneUndecodable = .ok report ∧ report.isFailed = false) ∧
    outcome (labelDirectory Sample.quietly (.ofText "src") none) Sample.oneUndecodable =
      .error (.escape (.decoding ⟨0xFF, 0, 1, .badStart⟩)) ∧
    (after (labelDirectory Sample.quietly (.ofText "src") none) Sample.oneUndecodable).folder =
      Sample.oneUndecodable.folder := by
  have hselected : selected Sample.oneUndecodable.folder Sample.quietly (.ofText "src") =
      [.ofText "src/b.js", .ofText "src/c.js"] :=
    selected_eq_of_pairwise (by decide +kernel) (by decide +kernel)
  have hsibling : (outcome (labelFile Sample.quietly (.ofText "src/c.js") none)
      Sample.oneUndecodable).toOption.map FileReport.isFailed = some false := by
    simp only [labelFile, labelText, Attempt.ofText, Attempt.ofSource,
      Labeling.runPasses_eq_runTables, Pass.tables_standard]
    decide +kernel
  obtain ⟨report, hreport, hfailed⟩ := Option.map_eq_some_iff.mp hsibling
  refine ⟨hselected, by decide +kernel, ⟨report, toOption_eq_some_iff.mp hreport, hfailed⟩, ?_, ?_⟩
  · rw [outcome, run_labelDirectory, hselected]
    decide +kernel
  · rw [after, run_labelDirectory, hselected]
    decide +kernel

end Relabel
