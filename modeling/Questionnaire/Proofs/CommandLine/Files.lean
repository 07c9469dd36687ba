import Mathlib.Data.List.Basic
import Questionnaire.CommandLine.Run

/-!
# The files of a command

Which files a command reads is up to its arguments alone, and `fileNames` names them before anything
is read. So it makes no difference whether files are looked up while a command runs or read one by
one before. In a file system, a path of plain names leads to the file with these names, unless
another file is in the way; this is shown by going from name to name. Files that are put into a
directory can therefore be read there, each by the path that was given for it.
-/

namespace Questionnaire.CommandLine

variable {files files' : Files}

/-! ## The files that are named -/

theorem settings_congr {config : Option String}
    (h : files (config.getD defaultConfig) = files' (config.getD defaultConfig)) :
    settings files config = settings files' config := by
  cases config with
  | none =>
    rw [Option.getD_none] at h
    simp only [settings, h]
  | some path =>
    rw [Option.getD_some] at h
    simp only [settings, h]

theorem load_congr {α : Type} {r : Reader α} {failure : Failure} {path : String}
    (h : files path = files' path) : load files r failure path = load files' r failure path := by
  simp only [load, h]

theorem loadAnswers_congr {responses : Option String}
    (h : ∀ path ∈ responses, files path = files' path) :
    loadAnswers files responses = loadAnswers files' responses := by
  cases responses with
  | none => rfl
  | some path => exact load_congr (h path rfl)

/-- **A run depends on the files that are named**, and on no others. -/
theorem run_congr {args : List String} (h : ∀ name ∈ fileNames args, files name = files' name) :
    run args files = run args files' := by
  unfold run
  unfold fileNames at h
  cases hrequest : parse args with
  | none => rfl
  | some request =>
    cases request with
    | version => rfl
    | run i =>
      simp only [hrequest, List.mem_cons, Option.mem_toList] at h
      have hsettings : settings files i.config = settings files' i.config :=
        settings_congr (h _ (.inl rfl))
      have hsurvey : files i.survey = files' i.survey := h _ (.inr (.inl rfl))
      have hanswers : loadAnswers files i.responses = loadAnswers files' i.responses :=
        loadAnswers_congr fun path hpath => h path (.inr (.inr hpath))
      simp only [Invocation.run, hsettings, load_congr hsurvey, hanswers]

/-- **It is enough to read the named files beforehand.** -/
theorem run_ofTexts (args : List String) (files : Files) :
    run args (.ofTexts ((fileNames args).map fun name => (name, files name))) = run args files := by
  refine run_congr fun name hname => ?_
  rw [Files.ofTexts, List.lookup_graph files hname, Option.join_some]

/-! ## The way to a file -/

namespace FileTree

variable {t : FileTree} {directory names rest : List String} {name path text text' : String}

/-- A name that leads down from a directory. -/
structure IsPlain (name : String) : Prop where
  not_empty : name ≠ ""
  not_same : name ≠ "."
  not_parent : name ≠ ".."

/-- From a directory, the names lead to the file with this text, and on the way there is no file. -/
structure LeadsTo (t : FileTree) (directory names : List String) (text : String) : Prop where
  ne_nil : names ≠ []
  file : t.lookup (directory ++ names) = some text
  clear : ∀ k, 0 < k → k < names.length → t.lookup (directory ++ names.take k) = none

theorem leadsTo_cons_of_some (h : t.lookup (directory ++ [name]) = some text') :
    t.LeadsTo directory (name :: rest) text ↔ rest = [] ∧ text' = text := by
  constructor
  · intro hleads
    have hrest : rest = [] := by
      by_contra hne
      have hlength := List.length_pos_of_ne_nil hne
      have hclear := hleads.clear 1 Nat.one_pos (Nat.succ_lt_succ hlength)
      rw [List.take_succ_cons, List.take_zero, h] at hclear
      cases hclear
    subst hrest
    exact ⟨rfl, Option.some.inj (h.symm.trans hleads.file)⟩
  · rintro ⟨rfl, rfl⟩
    exact ⟨List.cons_ne_nil _ _, h, fun k hpos hlt => absurd (Nat.lt_one_iff.mp hlt) (by omega)⟩

theorem leadsTo_cons_of_none (h : t.lookup (directory ++ [name]) = none) :
    t.LeadsTo directory (name :: rest) text ↔ t.LeadsTo (directory ++ [name]) rest text := by
  have happend (more : List String) : directory ++ name :: more = directory ++ [name] ++ more := by
    simp
  constructor
  · intro hleads
    refine ⟨?_, happend rest ▸ hleads.file, fun k hpos hlt => ?_⟩
    · rintro rfl
      rw [hleads.file] at h
      cases h
    · have hclear := hleads.clear (k + 1) (Nat.succ_pos k) (Nat.succ_lt_succ hlt)
      rwa [List.take_succ_cons, happend] at hclear
  · intro hleads
    refine ⟨List.cons_ne_nil _ _, (happend rest).symm ▸ hleads.file, fun k hpos hlt => ?_⟩
    cases k with
    | zero => cases hpos
    | succ k =>
      rw [List.take_succ_cons, happend]
      rcases Nat.eq_zero_or_pos k with rfl | hk
      · rwa [List.take_zero, List.append_nil]
      · exact hleads.clear k hk (Nat.lt_of_succ_lt_succ hlt)

/-- From a directory, a plain name leads to the file there, to the directory there, or nowhere. -/
theorem step_of_isPlain (t : FileTree) (directory : List String) (hplain : IsPlain name) :
    (∃ text, t.lookup (directory ++ [name]) = some text ∧
      t.step (.directory directory) name = some (.file text)) ∨
    (t.lookup (directory ++ [name]) = none ∧
      t.step (.directory directory) name = some (.directory (directory ++ [name]))) ∨
    ((∀ file ∈ t.files, ¬ directory ++ [name] <+: file.1) ∧
      t.lookup (directory ++ [name]) = none ∧ t.step (.directory directory) name = none) := by
  have hnames : ¬ (name = "" ∨ name = ".") := by simp [hplain.not_empty, hplain.not_same]
  simp only [step, if_neg hnames, if_neg hplain.not_parent]
  cases hfile : t.lookup (directory ++ [name]) with
  | some text => exact .inl ⟨text, rfl, rfl⟩
  | none =>
    by_cases hany : (t.files.any fun file => (directory ++ [name]).isPrefixOf file.1) = true
    · exact .inr (.inl ⟨rfl, if_pos hany⟩)
    · refine .inr (.inr ⟨?_, rfl, if_neg hany⟩)
      simpa using hany

theorem not_leadsTo_of_nothing_below (h : ∀ file ∈ t.files, ¬ directory <+: file.1) :
    ¬ t.LeadsTo directory names text := by
  intro hleads
  obtain ⟨before, after, hfiles, -⟩ := List.lookup_eq_some_iff.mp hleads.file
  refine h (directory ++ names, text) ?_ (List.prefix_append _ _)
  rw [hfiles]
  simp

/-- Going from name to name comes to the file that the names lead to. The directory moves along, so
the induction is for every directory. -/
theorem foldlM_step_eq_file_iff (hplain : ∀ name ∈ names, IsPlain name) :
    names.foldlM t.step (.directory directory) = some (.file text) ↔
      t.LeadsTo directory names text := by
  induction names generalizing directory with
  | nil =>
    refine iff_of_false ?_ fun h => h.ne_nil rfl
    simp
  | cons name rest ih =>
    obtain ⟨hname, hrest⟩ := List.forall_mem_cons.mp hplain
    rw [List.foldlM_cons]
    rcases step_of_isPlain t directory hname with
      ⟨found, hfile, hstep⟩ | ⟨hfile, hstep⟩ | ⟨hbelow, hfile, hstep⟩
    · rw [hstep, leadsTo_cons_of_some hfile]
      cases rest with
      | nil => simp
      | cons next rest => simp [step]
    · rw [hstep, leadsTo_cons_of_none hfile, ← ih hrest]
      rfl
    · rw [hstep, leadsTo_cons_of_none hfile]
      exact iff_of_false (by simp) (not_leadsTo_of_nothing_below hbelow)

theorem read?_eq_some_iff_of_start? (h : t.start? (pathNames path) = some (.directory directory)) :
    t.read? path = some text ↔
      (pathNames path).foldlM t.step (.directory directory) = some (.file text) := by
  simp only [read?, h, Option.bind_eq_bind, Option.bind_some, Option.bind_eq_some_iff]
  constructor
  · rintro ⟨place, hplace, htext⟩
    cases place with
    | directory names => cases htext
    | file found => exact Option.some.inj htext ▸ hplace
  · intro hplace
    exact ⟨_, hplace, rfl⟩

/-- **A path leads to the file with its names**, if these are plain: from the directory that the
command works in. -/
theorem read?_eq_some_iff (hplain : ∀ name ∈ pathNames path, IsPlain name) :
    t.read? path = some text ↔ t.LeadsTo t.workingDirectory (pathNames path) text := by
  have hstart : t.start? (pathNames path) = some (.directory t.workingDirectory) := by
    unfold start?
    split
    · rename_i hnames
      exact absurd rfl (hplain "" (by simp [hnames])).not_empty
    · rename_i hnames
      exact absurd rfl (hplain "" (by simp [hnames])).not_empty
    · rfl
  rw [read?_eq_some_iff_of_start? hstart, foldlM_step_eq_file_iff hplain]

/-- A path that starts with a slash leads there from the root. -/
theorem read?_eq_some_iff_of_root (hpath : pathNames path = "" :: names)
    (hplain : ∀ name ∈ names, IsPlain name) :
    t.read? path = some text ↔ t.LeadsTo [] names text := by
  cases names with
  | nil =>
    refine iff_of_false ?_ fun h => h.ne_nil rfl
    simp [read?, hpath, start?]
  | cons name rest =>
    have hstart : t.start? (pathNames path) = some (.directory []) := by rw [hpath]; rfl
    have hstay : t.step (.directory []) "" = some (.directory []) := by simp [step]
    rw [read?_eq_some_iff_of_start? hstart, hpath, List.foldlM_cons, hstay]
    exact foldlM_step_eq_file_iff hplain

/-! ## Files in a directory -/

theorem pathNames_ne_nil (path : String) : pathNames path ≠ [] := by
  unfold pathNames
  rw [Text.parts_eq_splitOn]
  simp [List.splitOn_ne_nil]

/-- Paths with the same names are the same. -/
theorem pathNames_inj {path path' : String} : pathNames path = pathNames path' ↔ path = path' := by
  constructor
  · intro h
    have hparts : path.toList.splitOn '/' = path'.toList.splitOn '/' := by
      unfold pathNames at h
      rw [Text.parts_eq_splitOn, Text.parts_eq_splitOn] at h
      exact List.map_injective_iff.mpr (fun _ _ => String.ofList_injective) h
    -- the slashes between the parts give the path back
    rw [← String.toList_inj]
    calc path.toList
        = ['/'].intercalate (path.toList.splitOn '/') := (List.intercalate_splitOn '/').symm
      _ = ['/'].intercalate (path'.toList.splitOn '/') := by rw [hparts]
      _ = path'.toList := List.intercalate_splitOn '/'
  · rintro rfl
    rfl

variable {files : List (String × String)}

theorem lookup_map_pathNames (directory : List String) :
    (files.map fun file => (directory ++ pathNames file.1, file.2)).lookup
      (directory ++ pathNames path) = files.lookup path := by
  induction files with
  | nil => rfl
  | cons file rest ih =>
    have hsame : (directory ++ pathNames path == directory ++ pathNames file.1) =
        (path == file.1) := by
      rw [Bool.eq_iff_iff, beq_iff_eq, beq_iff_eq, List.append_cancel_left_eq, pathNames_inj]
    rw [List.map_cons, List.lookup_cons, List.lookup_cons, ih, hsame]

theorem lookup_devices_eq_none (hdevices : ∀ device ∈ devices, ¬ directory <+: device.1) :
    devices.lookup (directory ++ names) = none := by
  rw [List.lookup_eq_none_iff]
  intro device hdevice
  have hne : directory ++ names ≠ device.1 := by
    intro heq
    exact hdevices device hdevice (heq ▸ List.prefix_append _ _)
  simpa using hne

/-- **The files of a directory can be read there.** In a directory without devices, a path of plain
names leads to the file that was given for it, unless another one was given on the way. -/
theorem read?_within (hdevices : ∀ device ∈ devices, ¬ directory <+: device.1)
    (hplain : ∀ name ∈ pathNames path, IsPlain name) :
    (within directory files).read? path = some text ↔
      files.lookup path = some text ∧
        ∀ k, 0 < k → k < (pathNames path).length →
          ∀ file ∈ files, pathNames file.1 ≠ (pathNames path).take k := by
  have hlookup (names : List String) : (within directory files).lookup (directory ++ names) =
      (files.map fun file => (directory ++ pathNames file.1, file.2)).lookup
        (directory ++ names) := by
    rw [lookup, within, List.lookup_append, lookup_devices_eq_none hdevices, Option.none_or]
  have hnone (names : List String) : (within directory files).lookup (directory ++ names) = none ↔
      ∀ file ∈ files, pathNames file.1 ≠ names := by
    rw [hlookup, List.lookup_eq_none_iff]
    simp only [List.forall_mem_map, bne_iff_ne, ne_eq, List.append_cancel_left_eq]
    exact forall₂_congr fun _ _ => not_congr eq_comm
  have hread : (within directory files).read? path = some text ↔
      (within directory files).LeadsTo directory (pathNames path) text := read?_eq_some_iff hplain
  rw [hread]
  constructor
  · rintro ⟨-, hfile, hclear⟩
    rw [hlookup, lookup_map_pathNames] at hfile
    exact ⟨hfile, fun k hpos hlt => (hnone _).mp (hclear k hpos hlt)⟩
  · rintro ⟨hfile, hclear⟩
    rw [← lookup_map_pathNames directory, ← hlookup] at hfile
    exact ⟨pathNames_ne_nil path, hfile, fun k hpos hlt => (hnone _).mpr (hclear k hpos hlt)⟩

theorem read?_ofFiles (hplain : ∀ name ∈ pathNames path, IsPlain name) :
    (ofFiles files).read? path = some text ↔
      files.lookup path = some text ∧
        ∀ k, 0 < k → k < (pathNames path).length →
          ∀ file ∈ files, pathNames file.1 ≠ (pathNames path).take k :=
  read?_within (by decide) hplain

end FileTree

end Questionnaire.CommandLine
