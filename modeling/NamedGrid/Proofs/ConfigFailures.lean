import NamedGrid.Proofs.ConfigSearch
import NamedGrid.Proofs.Precedence

/-!
# Failures of a configuration

A run without variables of this program finds its configuration file, reads it and checks what it
says. A file that is no document and settings of the wrong shape are refused as such. Every other
failure has its cause in the bytes of a file, in a value where a table should be, or in a path, and
these causes are listed here one by one (`configuration_failures`).
-/

namespace NamedGrid

namespace Environment

/-- Variables whose names do not begin with the lead, in any case, give no settings. -/
theorem settings_of_forall_not_prefix {environment : Table Text Text}
    (h : ∀ name ∈ environment.keys, ¬variableLead <+: Text.lowered name) :
    settings environment = .ok [] := by
  have hentries : ∀ v ∈ (lowered environment).entries, ∀ rest, v.1 ≠ variableLead ++ rest := by
    intro v hv rest heq
    obtain ⟨old, hold, rfl⟩ := List.mem_map.mp (Table.mem_of_mem_entries_ofList hv)
    exact h old.1 (List.mem_map_of_mem hold) ⟨rest, heq.symm⟩
  have hget : ∀ rest, (lowered environment).get? (variableLead ++ rest) = none := by
    intro rest
    rw [Table.get?_eq_none_iff]
    intro hkey
    obtain ⟨v, hv, heq⟩ := List.mem_map.mp hkey
    exact hentries v hv rest heq
  have hfields : ∀ whole setting, nestedFields whole setting (lowered environment) = .ok [] := by
    intro whole setting
    rw [nestedFields, List.filterMap_eq_nil_iff.mpr]
    · rfl
    · intro v hv
      rw [Option.map_eq_none_iff, Option.eq_none_iff_forall_ne_some]
      intro rest hrest
      refine hentries v hv (setting ++ "__".toList ++ rest) ?_
      simpa only [List.append_assoc] using Text.eq_append_of_after? hrest
  have hstructured : ∀ whole setting,
      structured? whole setting (lowered environment) = .ok none := by
    intro whole setting
    rw [structured?, hget, hfields]
    rfl
  have hswitches : (switchNames.filterMap fun name =>
      ((lowered environment).get? (variableLead ++ name)).map fun content =>
        (name, Value.text content)) = [] := by
    simp only [hget, Option.map_none, List.filterMap_none]
  simp only [settings, hstructured, hswitches]
  rfl

end Environment

namespace Surroundings

variable {around : Surroundings} {file : Path}

/-! ## Reading the file -/

/-- Why the configuration in a file is not read. -/
inductive ReadFault (around : Surroundings) (file : Path) : ConfigError → Prop
  | malformed (h : around.contents file = .malformed) :
      ReadFault around file (.invalidDocument file)
  | unreadable {error : ConfigError} (h : around.contents file = .unreadable error) :
      ReadFault around file error
  | notRecord {fields : List (Text × Value)} {tool : Value} (hname : file.name = projectFileName)
      (hdocument : around.contents file = .document fields)
      (htool : Value.field? fields toolField = some tool) (h : ∀ tools, tool ≠ .record tools) :
      ReadFault around file .notRecord

/-- In the description of a project something other than a table stands for this program, and the
parts of a configuration are mentioned in it or cannot be searched for. -/
structure HidesParts (around : Surroundings) (file : Path) (fields tools : List (Text × Value))
    (value : Value) : Prop where
  isProject : file.name = projectFileName
  isDocument : around.contents file = .document fields
  hasTools : Value.field? fields toolField = some (.record tools)
  hasValue : Value.field? tools toolName = some value
  notTable : ∀ table, value ≠ .record table
  mentions : ∃ name ∈ sectionNames, value.mentions? name ≠ some false

theorem readConfig_eq (around : Surroundings) (file : Path) :
    around.readConfig file =
      match around.contents file with
      | .document fields =>
        if file.name = projectFileName then
          match toolEntry fields with
          | .record tools => .ok ((Value.field? tools toolName).getD (.record []))
          | _ => .error .notRecord
        else .ok (.record fields)
      | .malformed => .error (.invalidDocument file)
      | .unreadable error => .error error := by
  rw [readConfig, readDocument_eq]
  cases around.contents file <;> rfl

theorem readConfig_eq_error_iff {error : ConfigError} :
    around.readConfig file = .error error ↔ around.ReadFault file error := by
  rw [readConfig_eq]
  constructor
  · intro h
    cases hcontents : around.contents file with
    | document fields =>
      rw [hcontents] at h
      dsimp only at h
      split at h
      · rename_i hname
        cases htool : Value.field? fields toolField with
        | none =>
          rw [toolEntry, htool] at h
          cases h
        | some tool =>
          rw [toolEntry, htool, Option.getD_some] at h
          cases tool <;> cases h <;> exact .notRecord hname hcontents htool (by simp)
      · cases h
    | malformed =>
      rw [hcontents] at h
      cases h
      exact .malformed hcontents
    | unreadable other =>
      rw [hcontents] at h
      cases h
      exact .unreadable hcontents
  · intro h
    cases h with
    | malformed hcontents => rw [hcontents]
    | unreadable hcontents => rw [hcontents]
    | @notRecord fields tool hname hcontents htool hother =>
      have hentry : toolEntry fields = tool := by rw [toolEntry, htool, Option.getD_some]
      rw [hcontents]
      dsimp only
      rw [if_pos hname, hentry]
      cases tool with
      | record tools => exact absurd rfl (hother tools)
      | _ => rfl

theorem configData_eq_error_iff {file : Option Path} {error : ConfigError} :
    around.configData file = .error error ↔
      ∃ path, file = some path ∧ around.ReadFault path error := by
  cases file with
  | none => simp [configData]
  | some path => simpa [configData] using readConfig_eq_error_iff

/-- What is read is a table, unless a description has something else for this program. -/
theorem readConfig_eq_ok_iff {value : Value} (hother : ∀ table, value ≠ .record table) :
    around.readConfig file = .ok value ↔
      file.name = projectFileName ∧ ∃ fields tools, around.contents file = .document fields ∧
        Value.field? fields toolField = some (.record tools) ∧
        Value.field? tools toolName = some value := by
  have hempty : ¬Value.record [] = value := fun h => hother [] h.symm
  rw [readConfig_eq]
  cases around.contents file with
  | document fields =>
    by_cases hname : file.name = projectFileName
    · cases htool : Value.field? fields toolField with
      | none =>
        have hentry : toolEntry fields = .record [] := by rw [toolEntry, htool, Option.getD_none]
        have hnone : Value.field? [] toolName = none := rfl
        simp [hname, hentry, hnone, hempty, htool]
      | some tool =>
        have hentry : toolEntry fields = tool := by rw [toolEntry, htool, Option.getD_some]
        cases tool with
        | record tools =>
          cases hvalue : Value.field? tools toolName <;>
            simp [hname, hentry, htool, hvalue, hempty]
        | _ => simp [hname, hentry, htool]
    · simpa [hname] using (hother fields).symm
  | malformed => simp
  | unreadable => simp

theorem configSections_eq_error_iff {value : Value} {error : ConfigError} :
    configSections value = .error error ↔ error = .notSearchable ∧
      (∀ table, value ≠ .record table) ∧
        ∃ name ∈ sectionNames, value.mentions? name ≠ some false := by
  unfold configSections
  split
  · simp
  · rename_i hother
    split
    · rename_i hall
      simp only [List.all_eq_true, decide_eq_true_eq] at hall
      simpa using fun _ _ => hall
    · rename_i hall
      simp only [List.all_eq_true, decide_eq_true_eq, not_forall] at hall
      obtain ⟨name, hname, hmention⟩ := hall
      constructor
      · rintro ⟨⟩
        exact ⟨rfl, hother, name, hname, hmention⟩
      · rintro ⟨rfl, -⟩
        rfl

/-- The parts of a configuration that was read are not found exactly if a description hides them. -/
theorem exists_configSections_eq_error_iff {file : Option Path} {error : ConfigError} :
    (∃ data, around.configData file = .ok data ∧ configSections data = .error error) ↔
      error = .notSearchable ∧ ∃ path fields tools value, file = some path ∧
        around.HidesParts path fields tools value := by
  simp only [configSections_eq_error_iff]
  constructor
  · rintro ⟨data, hdata, rfl, hother, hmentions⟩
    cases file with
    | none =>
      cases hdata
      exact absurd rfl (hother [])
    | some path =>
      obtain ⟨hname, fields, tools, hdocument, htools, hvalue⟩ :=
        (readConfig_eq_ok_iff hother).mp hdata
      exact ⟨rfl, path, fields, tools, data, rfl, hname, hdocument, htools, hvalue, hother,
        hmentions⟩
  · rintro ⟨rfl, path, fields, tools, value, rfl, h⟩
    exact ⟨value, (readConfig_eq_ok_iff h.notTable).mpr
      ⟨h.isProject, fields, tools, h.isDocument, h.hasTools, h.hasValue⟩, rfl, h.notTable,
      h.mentions⟩

/-! ## Runs -/

/-- Why no configuration file is chosen. -/
inductive ChoiceFault (around : Surroundings) (configPath : Option Text) (start : Option Path) :
    ConfigError → Prop
  | named {path : Text} (hpath : configPath = some path) (hne : path ≠ [])
      (h : around.IsTooLong (Path.ofText path)) :
      ChoiceFault around configPath start .nameTooLong
  | searched {error : ConfigError} (hpath : configPath.getD [] = [])
      (h : around.SearchFault start error) : ChoiceFault around configPath start error

end Surroundings

namespace Settings

variable {around : Surroundings} {configPath : Option Text} {start : Option Path}
  {given : List (Text × Value)}

theorem chosenFile_eq_error_iff (hvariable : around.environment.get? configVariable = none)
    {error : ConfigError} :
    chosenFile around configPath start = .error error ↔
      around.ChoiceFault configPath start error := by
  have hsearched : configPath.getD [] = [] →
      (around.findConfig start = .error error ↔
        around.ChoiceFault configPath start error) := by
    intro hpath
    rw [Surroundings.findConfig_eq_error_iff hvariable]
    refine ⟨.searched hpath, fun h => ?_⟩
    cases h with
    | named hsome hne => exact absurd (by simpa [hsome] using hpath) hne
    | searched _ h => exact h
  rcases configPath with _ | _ | ⟨c, rest⟩
  · exact hsearched rfl
  · exact hsearched rfl
  · rw [chosenFile, Surroundings.file?, map_eq_error_iff, Surroundings.isFile_eq_error_iff]
    constructor
    · rintro ⟨hlong, rfl⟩
      exact .named rfl (List.cons_ne_nil c rest) hlong
    · rintro (⟨hsome, -, hlong⟩ | ⟨hpath, -⟩)
      · cases hsome
        exact ⟨hlong, rfl⟩
      · cases hpath

/-- Why a run has no settings, other than that the settings are of the wrong shape. -/
inductive RunFault (around : Surroundings) (configPath : Option Text) (start : Option Path)
    (given : List (Text × Value)) : SettingsError → Prop
  | taken (h : ∃ field ∈ given, field.1 ∈ takenNames) :
      RunFault around configPath start given .taken
  | choice {error : ConfigError} (hgiven : ∀ field ∈ given, field.1 ∉ takenNames)
      (h : around.ChoiceFault configPath start error) :
      RunFault around configPath start given (.config error)
  | file {file : Path} {error : ConfigError} (hgiven : ∀ field ∈ given, field.1 ∉ takenNames)
      (hfile : chosenFile around configPath start = .ok (some file))
      (h : around.ReadFault file error) : RunFault around configPath start given (.config error)
  | environment {file : Option Path} {data : Value} {error : UnreadableVariable}
      (hgiven : ∀ field ∈ given, field.1 ∉ takenNames)
      (hfile : chosenFile around configPath start = .ok file)
      (hdata : around.configData file = .ok data)
      (h : Environment.settings around.environment = .error error) :
      RunFault around configPath start given (.variable error)
  | parts {file : Path} {fields tools : List (Text × Value)} {value : Value}
      {environment : List (Text × Value)} (hgiven : ∀ field ∈ given, field.1 ∉ takenNames)
      (hfile : chosenFile around configPath start = .ok (some file))
      (henvironment : Environment.settings around.environment = .ok environment)
      (h : around.HidesParts file fields tools value) :
      RunFault around configPath start given (.config .notSearchable)

/-- A run is loaded in three steps before its settings are checked, and each of them can fail. -/
theorem load_eq_error_iff {file : Option Path} {root : Path} {error : SettingsError}
    (hshape : ∀ faults, error ≠ .invalid faults) :
    load around file root given = .error error ↔
      (∃ e, around.configData file = .error e ∧ error = .config e) ∨
      (∃ data e, around.configData file = .ok data ∧
        Environment.settings around.environment = .error e ∧ error = .variable e) ∨
      ∃ environment e, Environment.settings around.environment = .ok environment ∧
        (∃ data, around.configData file = .ok data ∧ configSections data = .error e) ∧
          error = .config e := by
  unfold load
  simp only [bind_eq_error_iff, mapError_eq_error_iff, mapError_eq_ok_iff]
  constructor
  · rintro (⟨e, h, rfl⟩ | ⟨data, hdata, ⟨e, h, rfl⟩ | ⟨environment, henvironment, ⟨e, h, rfl⟩ |
      ⟨sections, -, faults, -, rfl⟩⟩⟩)
    · exact .inl ⟨e, h, rfl⟩
    · exact .inr (.inl ⟨data, e, hdata, h, rfl⟩)
    · exact .inr (.inr ⟨environment, e, henvironment, ⟨data, hdata, h⟩, rfl⟩)
    · -- What fails behind the three steps is the check of the shape.
      exact absurd rfl (hshape faults)
  · rintro (⟨e, h, rfl⟩ | ⟨data, e, hdata, h, rfl⟩ | ⟨environment, e, henvironment,
      ⟨data, hdata, h⟩, rfl⟩)
    · exact .inl ⟨e, h, rfl⟩
    · exact .inr ⟨data, hdata, .inl ⟨e, h, rfl⟩⟩
    · exact .inr ⟨data, hdata, .inr ⟨environment, henvironment, .inl ⟨e, h, rfl⟩⟩⟩

theorem ofRun_eq_error_iff (hvariable : around.environment.get? configVariable = none)
    {error : SettingsError} (hshape : ∀ faults, error ≠ .invalid faults) :
    ofRun around configPath start given = .error error ↔
      RunFault around configPath start given error := by
  rw [ofRun_eq]
  by_cases htaken : ∃ field ∈ given, field.1 ∈ takenNames
  · have hany : (given.any fun field => takenNames.contains field.1) = true := by
      simpa using htaken
    rw [if_pos hany]
    constructor
    · rintro ⟨⟩
      exact .taken htaken
    · intro h
      have hno : ¬∀ field ∈ given, field.1 ∉ takenNames := by simpa using htaken
      cases h with
      | taken => rfl
      | choice hgiven | file hgiven | environment hgiven | parts hgiven => exact absurd hgiven hno
  · have hgiven : ∀ field ∈ given, field.1 ∉ takenNames := by simpa using htaken
    have hany : ¬(given.any fun field => takenNames.contains field.1) = true := by
      simpa using htaken
    simp only [if_neg hany, bind_eq_error_iff, mapError_eq_error_iff, mapError_eq_ok_iff,
      load_eq_error_iff hshape, chosenFile_eq_error_iff hvariable,
      Surroundings.configData_eq_error_iff, Surroundings.exists_configSections_eq_error_iff]
    constructor
    · rintro (⟨e, h, rfl⟩ | ⟨file, hfile, ⟨e, ⟨path, rfl, h⟩, rfl⟩ | ⟨data, e, hdata, h, rfl⟩ |
        ⟨environment, e, henvironment, ⟨rfl, path, fields, tools, value, rfl, h⟩, rfl⟩⟩)
      · exact .choice hgiven h
      · exact .file hgiven hfile h
      · exact .environment hgiven hfile hdata h
      · exact .parts hgiven hfile henvironment h
    · rintro (h | ⟨-, h⟩ | ⟨-, hfile, h⟩ | ⟨-, hfile, hdata, h⟩ | ⟨-, hfile, henvironment, h⟩)
      · exact absurd h htaken
      · exact .inl ⟨_, h, rfl⟩
      · exact .inr ⟨_, hfile, .inl ⟨_, ⟨_, rfl, h⟩, rfl⟩⟩
      · exact .inr ⟨_, hfile, .inr (.inl ⟨_, _, hdata, h, rfl⟩)⟩
      · exact .inr ⟨_, hfile, .inr (.inr ⟨_, _, henvironment,
          ⟨rfl, _, _, _, _, rfl, h⟩, rfl⟩)⟩

end Settings

/-- **Why there is no configuration.** Unless a variable names the configuration file, the search
for it fails exactly for one of the causes of `SearchFault`, and a run that has no settings, though
not because they are of the wrong shape, has none exactly for one of the causes of `RunFault`: that
a file is no document is one of them, and a file that is no text, a value where a table should be
and a path that is too long are others. A variable is a cause only if its name has the lead of this
program. A description of a project that has no table for this program stops the search exactly if
it cannot be read or has something else where the table is looked for. -/
theorem configuration_failures {around : Surroundings}
    (hvariable : configVariable ∉ around.environment.keys) (configPath : Option Text)
    (start : Option Path) (given : List (Text × Value)) :
    (∀ error, around.findConfig start = .error error ↔ around.SearchFault start error) ∧
    (∀ error, (∀ faults, error ≠ .invalid faults) →
      (Settings.ofRun around configPath start given = .error error ↔
        Settings.RunFault around configPath start given error)) ∧
    (∀ error, Settings.ofRun around configPath start given = .error (.variable error) →
      ∃ name ∈ around.environment.keys, variableLead <+: Text.lowered name) ∧
    ∀ directory, around.IsDescribed directory →
      ((around.configIn directory ≠ .ok none ∧ ∀ fields,
          around.contents (Surroundings.projectFile directory) = .document fields →
            ¬Surroundings.HasToolTable fields) ↔
        (∃ error, around.contents (Surroundings.projectFile directory) = .unreadable error) ∨
          ∃ fields, around.contents (Surroundings.projectFile directory) = .document fields ∧
            Surroundings.IsMisleading fields) := by
  have hnone : around.environment.get? configVariable = none := Table.get?_eq_none_iff.mpr hvariable
  refine ⟨fun error => Surroundings.findConfig_eq_error_iff hnone,
    fun error hshape => Settings.ofRun_eq_error_iff hnone hshape, fun error herror => ?_,
    fun directory hdescribed => hdescribed.stops_iff⟩
  have hshape : ∀ faults, SettingsError.variable error ≠ .invalid faults := nofun
  have hfault := (Settings.ofRun_eq_error_iff hnone hshape).mp herror
  by_contra hlead
  have hsettings : Environment.settings around.environment = .ok [] :=
    Environment.settings_of_forall_not_prefix fun name hname hprefix =>
      hlead ⟨name, hname, hprefix⟩
  cases hfault with
  | environment hgiven hfile hdata h =>
    rw [hsettings] at h
    cases h

/-- A working directory at the root with one file, and no variables. -/
def filedSurroundings (name : Text) (bytes : Utf8.Bytes) : Surroundings where
  tree := ⟨Table.ofList [([name], .file bytes)]⟩
  cwd := []
  environment := .empty

/-- A description in which a number stands for all tools. -/
def countedTools : Surroundings :=
  filedSurroundings projectFileName (Utf8.encode "tool = 3\n".toList)

/-- A description in which a text stands for all tools. -/
def namedTools : Surroundings :=
  filedSurroundings projectFileName (Utf8.encode "tool = \"gridareas\"\n".toList)

/-- A configuration file that is no text. -/
def undecodableConfig : Surroundings := filedSurroundings configFileName [0xFF]

theorem findConfig_countedTools : countedTools.findConfig none = .error .notSearchable := by
  decide +kernel

theorem exists_contents_namedTools :
    ∃ fields, namedTools.contents (Surroundings.projectFile []) = .document fields ∧
      Value.field? fields toolField = some (.text toolName) := by
  obtain ⟨fields, hread, htext⟩ := @exists_of_any _ _
    (namedTools.readDocument (Surroundings.projectFile []))
    (fun fields => (Value.field? fields toolField).bind Value.text? = some toolName) _
    (by decide +kernel)
  obtain ⟨tool, htool, hname⟩ := Option.bind_eq_some_iff.mp htext
  refine ⟨fields, Surroundings.readDocument_eq_ok_iff.mp hread, ?_⟩
  cases tool with
  | text content => rw [htool, Option.some.inj hname]
  | _ => cases hname

theorem runFault_undecodableConfig :
    Settings.RunFault undecodableConfig none none [] (.config .notText) :=
  .file (List.forall_mem_nil _)
    (by decide +kernel : Settings.chosenFile undecodableConfig none none =
      .ok (some (Surroundings.ownFile [])))
    (.unreadable rfl)

/-- The search fails at the number, a run fails in the file that is no text, and the text stops the
search though it is no table. -/
theorem configuration_failures_mislaid :
    configVariable ∉ countedTools.environment.keys ∧
      countedTools.SearchFault none .notSearchable ∧
      configVariable ∉ undecodableConfig.environment.keys ∧
      Settings.ofRun undecodableConfig none none [] = .error (.config .notText) ∧
      configVariable ∉ namedTools.environment.keys ∧ namedTools.IsDescribed [] ∧
      namedTools.configIn [] ≠ .ok none ∧
      ∀ fields, namedTools.contents (Surroundings.projectFile []) = .document fields →
        ¬Surroundings.HasToolTable fields := by
  have hcounted : configVariable ∉ countedTools.environment.keys := List.not_mem_nil
  have hundecodable : configVariable ∉ undecodableConfig.environment.keys := List.not_mem_nil
  have hnamed : configVariable ∉ namedTools.environment.keys := List.not_mem_nil
  have hdescribed : namedTools.IsDescribed [] := ⟨by decide +kernel, by decide +kernel⟩
  have hsearch := (configuration_failures hcounted none none []).1 .notSearchable
  have hrun := (configuration_failures hundecodable none none []).2.1 (.config .notText) (by simp)
  have hstop := (configuration_failures hnamed none none []).2.2.2 [] hdescribed
  obtain ⟨fields, hdocument, htool⟩ := exists_contents_namedTools
  have hmisleading : Surroundings.IsMisleading fields :=
    ⟨.text toolName, htool, .inl ⟨by simp, by decide⟩⟩
  obtain ⟨hstopped, hnotable⟩ := hstop.mpr (.inr ⟨fields, hdocument, hmisleading⟩)
  exact ⟨hcounted, hsearch.mp findConfig_countedTools, hundecodable,
    hrun.mpr runFault_undecodableConfig, hnamed, hdescribed, hstopped, hnotable⟩

/-- Without any variable the search fails at a number where the table of tools should be, a run
fails in a file that is no text, and a description that has a text for that table, and so no table
for the program, ends the search and makes the run fail. -/
theorem configuration_fails_otherwise :
    countedTools.findConfig none = .error .notSearchable ∧
      Settings.ofRun undecodableConfig none none [] = .error (.config .notText) ∧
      (∃ fields, namedTools.contents (Surroundings.projectFile []) = .document fields ∧
        ¬Surroundings.HasToolTable fields) ∧
      namedTools.findConfig none = .ok (some (Surroundings.projectFile [])) ∧
      Settings.ofRun namedTools none none [] = .error (.config .notRecord) := by
  obtain ⟨fields, hdocument, htool⟩ := exists_contents_namedTools
  have hfound : namedTools.findConfig none = .ok (some (Surroundings.projectFile [])) := by
    decide +kernel
  have hnotable : ¬Surroundings.HasToolTable fields := by
    rintro ⟨tools, -, htools, -⟩
    rw [htool] at htools
    cases htools
  have hfault : Settings.RunFault namedTools none none [] (.config .notRecord) :=
    .file (List.forall_mem_nil _) hfound (.notRecord (by decide) hdocument htool (by simp))
  exact ⟨findConfig_countedTools,
    (Settings.ofRun_eq_error_iff rfl (by simp)).mpr runFault_undecodableConfig,
    ⟨fields, hdocument, hnotable⟩, hfound,
    (Settings.ofRun_eq_error_iff rfl (by simp)).mpr hfault⟩

end NamedGrid
