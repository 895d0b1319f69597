import Relabel.Command.Selection
import Relabel.Proofs.Command.Folder

/-!
# Where outputs go

An output stands next to its input. Its name is the stem of the input's name and the ending of
outputs. Outputs are told from inputs by that ending, so in a directory an output can stand at the
place of an input only if the ending goes through a directory; and two inputs can have one output
only if the stem of one of them is its whole name. A single file is not asked for its ending.
-/

namespace Relabel

namespace Command

open Relabel.Path Folder

variable {s : Settings} {f : Folder} {directory file other out out' : Path} {place : Location}

/-- The last name of the path of an output. If the ending goes through a directory, the output has
a path only if the stem of the input is a dot. -/
def outputFileName (s : Settings) (file : Path) : String :=
  if '/' ∈ s.outputSuffix.toList then (Path.ofText s.outputSuffix).name
  else file.stem ++ s.outputSuffix

theorem endsWith_of_checkSuffix {given : Option Json} {suffix : String}
    (h : Settings.checkSuffix given = .ok suffix) : suffix.endsWith ".js" = true := by
  unfold Settings.checkSuffix at h
  split at h
  · obtain rfl := Except.ok.inj h
    decide +kernel
  · obtain rfl := Except.ok.inj h
    unfold Settings.programSuffix
    split
    · assumption
    · exact endsWith_iff.mpr (by simp)
  · cases h

/-- The ending of outputs is the ending of programs. -/
theorem endsWith_outputSuffix {fields : List (String × Json)}
    (h : Settings.validate fields = .ok s) : s.outputSuffix.endsWith ".js" = true := by
  unfold Settings.validate at h
  dsimp only at h
  split at h
  · cases h
  · split at h
    · rename_i hsuffix _ _
      obtain rfl := Except.ok.inj h
      exact endsWith_of_checkSuffix hsuffix
    · cases h

/-- The path with the name of a program in place of its own: single dots may come before it. -/
theorem exists_of_withName? {name : String} (hending : name.endsWith ".js" = true)
    (h : file.withName? name = some out) :
    ∃ dots last, (splitSlashes name.toList).map String.ofList = dots ++ [last] ∧
      IsFileName last ∧ (∀ part ∈ dots, part = "." ∨ part = "") ∧
      out = { file.parent with parts := file.parent.parts ++ (dots ++ [last]) } := by
  obtain ⟨dots, last, hpieces, hlast, -, hparts⟩ := exists_pieces hending
  have hsplit : (ofText name).parts.length = 1 ∧
      out = { file.parent with parts := file.parent.parts ++ (dots ++ [last]) } := by
    unfold withName? at h
    split at h
    · rename_i hsingle
      split at h
      · cases h
      · rw [← hpieces, ← Option.some.inj h, hsingle]
        exact ⟨rfl, rfl⟩
    · cases h
  refine ⟨dots, last, hpieces, hlast, fun part hpart ↦ ?_, hsplit.2⟩
  have hnone : (dots.filter fun piece ↦ piece != "" && piece != ".") = [] := by
    have hlength := hsplit.1
    rw [hparts] at hlength
    simpa using hlength
  have hskipped := List.filter_eq_nil_iff.mp hnone part hpart
  simp only [Bool.and_eq_true, bne_iff_ne, not_and, not_not] at hskipped
  exact or_iff_not_imp_right.mpr hskipped

/-- A stem and an ending that goes through a directory make a single name only if the stem is a
dot. -/
theorem last_eq_of_slash {first : List Char} {rest : List Char} {dots : List String} {last : String}
    (hsuffix : s.outputSuffix.endsWith ".js" = true) (hname : IsFileName file.name)
    (hrest : s.outputSuffix.toList = first ++ '/' :: rest) (hfirst : '/' ∉ first)
    (hpieces : (splitSlashes (outputName s file).toList).map String.ofList = dots ++ [last])
    (hdots : ∀ part ∈ dots, part = "." ∨ part = "") :
    last = (ofText s.outputSuffix).name ∧ file.stem = "." := by
  obtain ⟨dots', last', hpieces', -, hlast', -⟩ := exists_pieces hsuffix
  rw [hrest, splitSlashes_append rest hfirst, List.map_cons] at hpieces'
  rw [outputName, String.toList_append, hrest, ← List.append_assoc,
    splitSlashes_append rest (by simp [slash_not_mem_stem hname, hfirst]), List.map_cons] at hpieces
  have hmore : (splitSlashes rest).map String.ofList ≠ [] := by
    simpa using splitSlashes_ne_nil rest
  cases dots with
  | nil => exact absurd (List.cons.inj hpieces).2 hmore
  | cons part dots =>
    cases dots' with
    | nil => exact absurd (List.cons.inj hpieces').2 hmore
    | cons part' dots' =>
      obtain ⟨hpart, hrest⟩ := List.cons.inj hpieces
      have hsame := (List.append_inj' (hrest.symm.trans (List.cons.inj hpieces').2) rfl).2
      refine ⟨(List.cons.inj hsame).1.trans hlast'.symm, ?_⟩
      have hdot := hdots part List.mem_cons_self
      rw [← hpart, ← String.toList_inj, ← String.toList_inj, String.toList_ofList] at hdot
      have hstem : file.stem.toList ≠ [] := by simpa using stem_ne_empty hname
      rcases hdot with hdot | hnone
      · rcases List.append_eq_singleton_iff.mp hdot with ⟨hnone, -⟩ | ⟨hdot, -⟩
        · exact absurd hnone hstem
        · exact String.toList_inj.mp hdot
      · exact absurd (List.append_eq_nil_iff.mp hnone).1 hstem

/-- What the path of an output is. -/
theorem exists_of_outputPath? (hsuffix : s.outputSuffix.endsWith ".js" = true)
    (hname : IsFileName file.name) (h : outputPath? s file = some out) :
    IsFileName (outputFileName s file) ∧ ('/' ∈ s.outputSuffix.toList → file.stem = ".") ∧
    ∃ dots : List String, (∀ part ∈ dots, part = "." ∨ part = "") ∧
      out = { file.parent with
        parts := file.parent.parts ++ (dots ++ [outputFileName s file]) } := by
  have hending : (outputName s file).endsWith ".js" = true := by
    obtain ⟨start, hstart⟩ := endsWith_iff.mp hsuffix
    refine endsWith_iff.mpr ⟨file.stem.toList ++ start, ?_⟩
    rw [outputName, String.toList_append, List.append_assoc, hstart]
  obtain ⟨dots, last, hpieces, hlast, hdots, hout⟩ := exists_of_withName? hending h
  suffices hnames : last = outputFileName s file ∧
      ('/' ∈ s.outputSuffix.toList → file.stem = ".") by
    obtain ⟨rfl, hstem⟩ := hnames
    exact ⟨hlast, hstem, dots, hdots, hout⟩
  unfold outputFileName
  by_cases hslash : '/' ∈ s.outputSuffix.toList
  · obtain ⟨first, rest, hrest, hfirst⟩ := List.eq_append_cons_of_mem hslash
    rw [if_pos hslash]
    exact (last_eq_of_slash hsuffix hname hrest hfirst hpieces hdots).imp_right fun h _ ↦ h
  · rw [if_neg hslash]
    rw [outputName, splitSlashes_eq_singleton (by simp [slash_not_mem_stem hname, hslash]),
      List.map_singleton, String.ofList_toList, ← List.nil_append [_]] at hpieces
    obtain ⟨-, hlast⟩ := List.append_inj' hpieces rfl
    exact ⟨(List.cons.inj hlast).1.symm, fun h ↦ absurd h hslash⟩

/-- An output stands in the directory of its input. -/
theorem locate_output_iff (hsuffix : s.outputSuffix.endsWith ".js" = true)
    (hname : IsFileName file.name) (h : outputPath? s file = some out) :
    f.locate out = .ok place ↔ ∃ around, f.locate file.parent = .ok around ∧
      f.isDirectory around = true ∧ place = around ++ [outputFileName s file] := by
  obtain ⟨houtput, -, dots, hdots, rfl⟩ := exists_of_outputPath? hsuffix hname h
  exact locate_dots_name_eq_ok_iff hdots houtput

/-- The directory of an output is the directory of its input. -/
theorem locate_output_parent (hsuffix : s.outputSuffix.endsWith ".js" = true)
    (hname : IsFileName file.name) (h : outputPath? s file = some out) {around : Location}
    (haround : f.locate file.parent = .ok around) (hdirectory : f.isDirectory around = true) :
    f.locate out.parent = .ok around := by
  obtain ⟨-, -, dots, hdots, rfl⟩ := exists_of_outputPath? hsuffix hname h
  rw [parent, ← List.append_assoc, List.dropLast_concat]
  exact locate_append_eq_ok_iff.mpr ⟨around, haround, follow_dots hdots hdirectory⟩

theorem locate_file_iff (hname : IsFileName file.name) :
    f.locate file = .ok place ↔ ∃ around, f.locate file.parent = .ok around ∧
      f.isDirectory around = true ∧ place = around ++ [file.name] := by
  conv_lhs => rw [eq_parent_append hname.ne_empty]
  exact locate_name_eq_ok_iff hname

/-- The file that a path leads to has a name. -/
theorem isFileName_of_look? {text : String} {bytes : List UInt8}
    (h : f.look? (.ofText text) = some (.file bytes)) : IsFileName (Path.ofText text).name := by
  unfold look? at h
  split at h
  · rename_i place hplace
    have hfile : f.isDirectory place ≠ true := by
      intro hdirectory
      rw [get?_eq_directory_iff.mpr hdirectory] at h
      cases h
    rw [locate_eq_ok_iff] at hplace
    rcases List.eq_nil_or_concat (Path.ofText text).parts with hnone | ⟨way, last, hparts⟩
    · refine absurd ?_ hfile
      rw [hnone, follow, Except.ok.injEq] at hplace
      rw [← hplace]
      exact isDirectory_start _
    · rw [List.concat_eq_append] at hparts
      rw [name, hparts, List.getLastD_concat]
      refine isFileName_of_mem_parts (hparts ▸ List.mem_append_right _ List.mem_cons_self) ?_
      rintro rfl
      rw [hparts, follow_append_eq_ok_iff] at hplace
      obtain ⟨around, -, hup⟩ := hplace
      rw [follow] at hup
      split at hup
      · rename_i hdirectory
        rw [follow, Except.ok.injEq] at hup
        exact hfile (hup ▸ isDirectory_of_isPrefix (List.dropLast_prefix around) hdirectory)
      · cases hup
  · cases h

theorem mem_contents_iff : file ∈ contents f directory ↔ ∃ place names,
    f.locate directory = .ok place ∧ names ∈ f.below place ∧
      file = { directory with parts := directory.parts ++ names } := by
  unfold contents
  cases hplace : f.locate directory with
  | error fault => simp
  | ok place => simp [eq_comm]

/-- A file of a directory has a name and stands in a directory below it. -/
theorem exists_way_of_mem_contents (hf : f.WellNamed) (h : file ∈ contents f directory) :
    IsFileName file.name ∧ ∃ place way, f.locate directory = .ok place ∧
      file.parent = { directory with parts := directory.parts ++ way } ∧
      f.locate file.parent = .ok (place ++ way) ∧ f.isDirectory (place ++ way) = true := by
  obtain ⟨place, names, hplace, hnames, rfl⟩ := mem_contents_iff.mp h
  have hne := (mem_below_iff.mp hnames).1
  have hdirectory := isDirectory_dropLast_of_mem_below hnames
  have hvalid := isFileName_of_mem_below hf hnames
  have hparent : Path.parent { directory with parts := directory.parts ++ names } =
      { directory with parts := directory.parts ++ names.dropLast } := by
    rw [parent, List.dropLast_append_of_ne_nil hne]
  refine ⟨?_, place, names.dropLast, hplace, hparent, ?_, hdirectory⟩
  · rw [name, List.getLastD_eq_getLast?, List.getLast?_append,
      List.getLast?_eq_some_getLast hne]
    exact hvalid _ (List.getLast_mem hne)
  · rw [hparent, locate_append_eq_ok_iff]
    refine ⟨place, hplace, follow_names ?_ ?_⟩
    · exact fun name hname ↦ hvalid name (List.dropLast_subset _ hname)
    · exact isDirectory_of_isPrefix
        ((List.prefix_append_right_inj _).mpr (List.dropLast_prefix _)) hdirectory

theorem mem_selected_iff :
    file ∈ selected f s directory ↔ file ∈ contents f directory ∧ isSelected s file = true := by
  rw [selected, List.mem_mergeSort, List.mem_filter]

/-- Files that are found in order are selected as they are found. -/
theorem selected_eq_of_pairwise {files : List Path}
    (hfiles : (contents f directory).filter (isSelected s) = files)
    (hordered : files.Pairwise fun a b ↦ Path.le a b = true) : selected f s directory = files := by
  rw [selected, hfiles, List.mergeSort_of_pairwise hordered]

theorem endsWith_of_isSelected (h : isSelected s file = true) :
    file.name.endsWith ".js" = true ∧ file.name.endsWith s.outputSuffix = false := by
  simp only [isSelected, Bool.and_eq_true, Bool.not_eq_true'] at h
  exact h.1

/-- Two files of a directory stand in one place if their paths say so. -/
theorem locate_parent_eq_iff (hf : f.WellNamed) {other : Path}
    (h : file ∈ contents f directory) (hother : other ∈ contents f directory) :
    f.locate file.parent = f.locate other.parent ↔ file.parent = other.parent := by
  obtain ⟨-, place, way, hplace, hparent, hway, -⟩ := exists_way_of_mem_contents hf h
  obtain ⟨-, place', way', hplace', hparent', hway', -⟩ := exists_way_of_mem_contents hf hother
  obtain rfl := Except.ok.inj (hplace.symm.trans hplace')
  refine ⟨fun hsame ↦ ?_, congrArg _⟩
  rw [hway, hway', Except.ok.injEq, List.append_right_inj] at hsame
  rw [hparent, hparent', hsame]

/-- Two paths stand at one place if their directories do and their names are the same. -/
theorem locate_eq_iff_of_around {p q p' q' : Path} {name name' : String}
    (hp : ∀ place, f.locate p = .ok place ↔ ∃ around, f.locate p' = .ok around ∧
      f.isDirectory around = true ∧ place = around ++ [name])
    (hq : ∀ place, f.locate q = .ok place ↔ ∃ around, f.locate q' = .ok around ∧
      f.isDirectory around = true ∧ place = around ++ [name'])
    (h : ∃ around, f.locate p' = .ok around ∧ f.isDirectory around = true)
    (h' : ∃ around, f.locate q' = .ok around ∧ f.isDirectory around = true) :
    f.locate p = f.locate q ↔ f.locate p' = f.locate q' ∧ name = name' := by
  obtain ⟨around, hplace, hdirectory⟩ := h
  obtain ⟨around', hplace', hdirectory'⟩ := h'
  rw [(hp _).mpr ⟨around, hplace, hdirectory, rfl⟩, (hq _).mpr ⟨around', hplace', hdirectory', rfl⟩,
    hplace, hplace', Except.ok.injEq, Except.ok.injEq]
  refine ⟨fun hsame ↦ ?_, fun ⟨haround, hname⟩ ↦ by rw [haround, hname]⟩
  obtain ⟨haround, hname⟩ := List.append_inj' hsame rfl
  exact ⟨haround, (List.cons.inj hname).1⟩

/-! ## Outputs and inputs -/

/-- The output of a single file stands at the place of the file. -/
theorem locate_output_eq_file_iff (hsuffix : s.outputSuffix.endsWith ".js" = true) {text : String}
    {bytes : List UInt8} (h : f.look? (.ofText text) = some (.file bytes))
    (hout : outputPath? s (.ofText text) = some out) :
    f.locate out = f.locate (.ofText text) ↔
      (s.outputSuffix = ".js" ∧ ∃ stem ≠ "", (Path.ofText text).name = stem ++ ".js") ∨
      '/' ∈ s.outputSuffix.toList ∧
        (Path.ofText text).name = (Path.ofText s.outputSuffix).name := by
  have hname := isFileName_of_look? h
  have haround : ∃ around, f.locate (Path.ofText text).parent = .ok around ∧
      f.isDirectory around = true := by
    unfold look? at h
    split at h
    · rename_i place hplace
      obtain ⟨around, hparent, hdirectory, -⟩ := (locate_file_iff hname).mp hplace
      exact ⟨around, hparent, hdirectory⟩
    · cases h
  rw [locate_eq_iff_of_around (fun _ ↦ locate_output_iff hsuffix hname hout)
    (fun _ ↦ locate_file_iff hname) haround haround, outputFileName]
  simp only [true_and]
  by_cases hslash : '/' ∈ s.outputSuffix.toList
  · rw [if_pos hslash]
    have hsuffix : s.outputSuffix ≠ ".js" := by
      intro hjs
      rw [hjs] at hslash
      exact absurd hslash (by decide)
    simp [hslash, hsuffix, eq_comm]
  · rw [if_neg hslash]
    simp only [hslash, false_and, or_false]
    exact stem_append_eq_name_iff hsuffix

section Directory

variable {other : Path} (hsuffix : s.outputSuffix.endsWith ".js" = true) (hf : f.WellNamed)
  (h : file ∈ selected f s directory) (hother : other ∈ selected f s directory)
  (hout : outputPath? s file = some out)

include hsuffix hf h hother hout

/-- An output of a directory stands at the place of a selected file. -/
theorem locate_output_eq_selected_iff : f.locate out = f.locate other ↔
    file.parent = other.parent ∧ '/' ∈ s.outputSuffix.toList ∧
      other.name = (Path.ofText s.outputSuffix).name := by
  obtain ⟨hmem, -⟩ := mem_selected_iff.mp h
  obtain ⟨hmem', hselected⟩ := mem_selected_iff.mp hother
  obtain ⟨hname, place, way, -, -, hway, hdirectory⟩ := exists_way_of_mem_contents hf hmem
  obtain ⟨hname', place', way', -, -, hway', hdirectory'⟩ := exists_way_of_mem_contents hf hmem'
  rw [locate_eq_iff_of_around (fun _ ↦ locate_output_iff hsuffix hname hout)
    (fun _ ↦ locate_file_iff hname') ⟨_, hway, hdirectory⟩ ⟨_, hway', hdirectory'⟩,
    locate_parent_eq_iff hf hmem hmem', outputFileName]
  refine and_congr_right fun _ ↦ ?_
  by_cases hslash : '/' ∈ s.outputSuffix.toList
  · simp [hslash, eq_comm]
  · rw [if_neg hslash]
    refine iff_of_false (fun hsame ↦ ?_) fun ⟨hslash', _⟩ ↦ hslash hslash'
    have hending := (endsWith_of_isSelected hselected).2
    rw [← hsame, Bool.eq_false_iff, ne_eq, endsWith_iff, String.toList_append] at hending
    exact hending (List.suffix_append _ _)

/-- Two files of a directory have outputs at one place. -/
theorem locate_output_eq_output_iff (hne : file ≠ other) (hout' : outputPath? s other = some out') :
    f.locate out = f.locate out' ↔ file.parent = other.parent ∧
      ((file.name = ".js" ∧ other.name = ".js.js") ∨
        (file.name = ".js.js" ∧ other.name = ".js")) := by
  obtain ⟨hmem, hselected⟩ := mem_selected_iff.mp h
  obtain ⟨hmem', hselected'⟩ := mem_selected_iff.mp hother
  obtain ⟨hname, place, way, -, -, hway, hdirectory⟩ := exists_way_of_mem_contents hf hmem
  obtain ⟨hname', place', way', -, -, hway', hdirectory'⟩ := exists_way_of_mem_contents hf hmem'
  obtain ⟨-, hstem, -⟩ := exists_of_outputPath? hsuffix hname hout
  obtain ⟨-, hstem', -⟩ := exists_of_outputPath? hsuffix hname' hout'
  have hstems := stem_eq_stem_iff (endsWith_of_isSelected hselected).1
    (endsWith_of_isSelected hselected').1
  rw [locate_eq_iff_of_around (fun _ ↦ locate_output_iff hsuffix hname hout)
    (fun _ ↦ locate_output_iff hsuffix hname' hout') ⟨_, hway, hdirectory⟩
    ⟨_, hway', hdirectory'⟩, locate_parent_eq_iff hf hmem hmem', outputFileName, outputFileName]
  refine and_congr_right fun hparent ↦ ?_
  have hnames : file.name ≠ other.name := by
    intro hsame
    refine hne ?_
    rw [eq_parent_append hname.ne_empty, eq_parent_append hname'.ne_empty, hparent, hsame]
  by_cases hslash : '/' ∈ s.outputSuffix.toList
  · rw [if_pos hslash, if_pos hslash]
    exact iff_of_true rfl
      ((hstems.mp ((hstem hslash).trans (hstem' hslash).symm)).resolve_left hnames)
  · rw [if_neg hslash, if_neg hslash, String.append_left_inj, hstems]
    simp [hnames]

end Directory

end Command

open Command in
/-- Which outputs stand at the place of an input or of another output. A single file is its own
output if the ending of outputs is that of programs. In a directory no output stands at the place
of a selected file, unless the ending of outputs leads through a directory to a name that is
selected; and of two files only those called by the ending of programs, and by that ending twice,
have one output. -/
theorem output_apart_iff {fields : List (String × Json)} {s : Settings} {f : Folder}
    (hs : Settings.validate fields = .ok s) (hf : f.WellNamed) :
    (∀ (text : String) (bytes : List UInt8) (out : Path),
      f.look? (.ofText text) = some (.file bytes) → outputPath? s (.ofText text) = some out →
      (f.locate out = f.locate (.ofText text) ↔
        (s.outputSuffix = ".js" ∧ ∃ stem ≠ "", (Path.ofText text).name = stem ++ ".js") ∨
        '/' ∈ s.outputSuffix.toList ∧
          (Path.ofText text).name = (Path.ofText s.outputSuffix).name)) ∧
    (∀ (directory file other out : Path), file ∈ selected f s directory →
      other ∈ selected f s directory → outputPath? s file = some out →
      (f.locate out = f.locate other ↔ file.parent = other.parent ∧
        '/' ∈ s.outputSuffix.toList ∧ other.name = (Path.ofText s.outputSuffix).name)) ∧
    ∀ (directory file other out out' : Path), file ∈ selected f s directory →
      other ∈ selected f s directory → file ≠ other → outputPath? s file = some out →
      outputPath? s other = some out' →
      (f.locate out = f.locate out' ↔ file.parent = other.parent ∧
        ((file.name = ".js" ∧ other.name = ".js.js") ∨
          (file.name = ".js.js" ∧ other.name = ".js"))) := by
  have hsuffix := endsWith_outputSuffix hs
  refine ⟨fun text bytes out hfile hout ↦ ?_, fun directory file other out h hother hout ↦ ?_,
    fun directory file other out out' h hother hne hout hout' ↦ ?_⟩
  · exact locate_output_eq_file_iff hsuffix hfile hout
  · exact locate_output_eq_selected_iff hsuffix hf h hother hout
  · exact locate_output_eq_output_iff hsuffix hf h hother hout hne hout'

namespace Sample

/-- A folder with files in one directory. -/
def directory (files : List (String × List UInt8)) : Folder :=
  { entries := ⟨files.map fun (name, bytes) ↦ (["src", name], .file bytes)⟩ }

def twoPrograms : Folder :=
  directory [("a.js", []), ("b.js", [])]

/-- Programs that are called by nothing but endings. -/
def hiddenPrograms : Folder :=
  directory [(".js", []), (".js.js", [])]

def dottedPrograms : Folder :=
  directory [("..js", []), ("x.js", [])]

/-- Settings with an ending of outputs. -/
def endingIn (suffix : String) : Settings :=
  { outputSuffix := suffix }

theorem validate_endingIn {suffix : String} (h : suffix.endsWith ".js" = true) :
    Settings.validate [(Settings.suffixKey, .text suffix)] = .ok (endingIn suffix) := by
  have hread : Settings.validate [(Settings.suffixKey, .text suffix)] =
      .ok (endingIn (Settings.programSuffix suffix)) := rfl
  rw [hread, Settings.programSuffix, if_pos h]

end Sample

open Command in
/-- The outputs of two programs stand apart from the programs and from each other. -/
theorem output_apart_iff_twoPrograms :
    Settings.validate [] = .ok {} ∧ Sample.twoPrograms.WellNamed ∧
      ∃ out out', outputPath? {} (.ofText "src/a.js") = some out ∧
        outputPath? {} (.ofText "src/b.js") = some out' ∧
        Sample.twoPrograms.locate out ≠ Sample.twoPrograms.locate (.ofText "src/a.js") ∧
        Sample.twoPrograms.locate out ≠ Sample.twoPrograms.locate (.ofText "src/b.js") ∧
        Sample.twoPrograms.locate out ≠ Sample.twoPrograms.locate out' := by
  have hs : Settings.validate [] = .ok {} := rfl
  have hf : Sample.twoPrograms.WellNamed := by decide
  have hselected (name : String) (h : name = "src/a.js" ∨ name = "src/b.js") :
      Path.ofText name ∈ selected Sample.twoPrograms {} (.ofText "src") := by
    rw [mem_selected_iff]
    rcases h with rfl | rfl <;> decide +kernel
  have ha : outputPath? {} (.ofText "src/a.js") = some (.ofText "src/a.labeled.js") := by
    decide +kernel
  have hb : outputPath? {} (.ofText "src/b.js") = some (.ofText "src/b.labeled.js") := by
    decide +kernel
  obtain ⟨hfile, hinput, houtput⟩ := output_apart_iff hs hf
  refine ⟨hs, hf, _, _, ha, hb, fun hsame ↦ ?_, fun hsame ↦ ?_, fun hsame ↦ ?_⟩
  · rcases (hfile "src/a.js" [] _ (by decide +kernel) ha).mp hsame with ⟨hjs, -⟩ | ⟨hslash, -⟩
    · exact absurd hjs (by decide)
    · exact absurd hslash (by decide)
  · exact absurd ((hinput _ _ _ _ (hselected _ (.inl rfl)) (hselected _ (.inr rfl)) ha).mp hsame)
      (by decide +kernel)
  · exact absurd ((houtput _ _ _ _ _ (hselected _ (.inl rfl)) (hselected _ (.inr rfl))
      (by decide +kernel) ha hb).mp hsame) (by decide +kernel)

open Command in
/-- With the ending of programs a file is its own output; two hidden files have one output; and an
output goes through a directory to the place of another file. -/
theorem output_meets_input :
    (Settings.validate [(Settings.suffixKey, .text ".js")] = .ok (Sample.endingIn ".js") ∧
      outputPath? (Sample.endingIn ".js") (.ofText "a.js") = some (.ofText "a.js")) ∧
    (∀ name ∈ ["src/.js", "src/.js.js"],
      Path.ofText name ∈ selected Sample.hiddenPrograms {} (.ofText "src") ∧
      outputPath? {} (.ofText name) = some (.ofText "src/.js.labeled.js")) ∧
    Settings.validate [(Settings.suffixKey, .text "/x.js")] = .ok (Sample.endingIn "/x.js") ∧
      (∀ name ∈ ["src/..js", "src/x.js"],
        Path.ofText name ∈
          selected Sample.dottedPrograms (Sample.endingIn "/x.js") (.ofText "src")) ∧
      ∃ out, outputPath? (Sample.endingIn "/x.js") (.ofText "src/..js") = some out ∧
        Sample.dottedPrograms.locate out = Sample.dottedPrograms.locate (.ofText "src/x.js") := by
  simp only [mem_selected_iff]
  refine ⟨⟨Sample.validate_endingIn (by decide +kernel), by decide +kernel⟩, by decide +kernel,
    Sample.validate_endingIn (by decide +kernel), by decide +kernel, ?_⟩
  exact ⟨{ parts := ["src", ".", "x.js"] }, by decide +kernel, by decide +kernel⟩

end Relabel
