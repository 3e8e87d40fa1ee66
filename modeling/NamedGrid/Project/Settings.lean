import NamedGrid.Project.Discovery
import NamedGrid.Project.Environment

/-!
# Settings

The settings of a run come from the command line, the environment and the configuration
file, in this order of precedence. They are merged first and checked as a whole, so one
report names all faults. Case does not matter in the names of settings that are given.
-/

namespace NamedGrid

/-- The switches of a run. -/
structure Switches where
  jsonOutput : Bool
  quiet : Bool
  verbose : Bool
  logJson : Bool
  deriving DecidableEq, Repr

/-- Everything that a run is configured by. -/
structure Settings where
  /-- The directory to which paths in the configuration are relative. -/
  root : Path
  /-- The configuration file, if there is one. -/
  configFile : Option Path
  switches : Switches
  layouts : Table Text LayoutEntry
  build : BuildSettings

/-- Why there are no settings. -/
inductive SettingsError
  /-- The configuration file cannot be used. -/
  | config (error : ConfigError)
  /-- A variable cannot be read. -/
  | variable (error : UnreadableVariable)
  /-- Merged settings are of the wrong shape. -/
  | invalid (faults : List ShapeFault)
  /-- Settings on the command line name what a run is told apart from them. -/
  | taken
  deriving DecidableEq, Repr

namespace Settings

/-- The names of the settings that are merged from several sources. -/
def names : List Text := Environment.switchNames ++ sectionNames

/-- Check merged settings. -/
def check (root : Path) (configFile : Option Path) (fields : List (Text × Value)) :
    Checked Settings :=
  let switch := fun name : String => Schema.defaulted Schema.truth false fields name.toList
  (Checked.both (switch "json_output") <| Checked.both (switch "quiet") <|
    Checked.both (switch "verbose") <| Checked.both (switch "log_json") <|
    Checked.both (Schema.defaulted Schema.layouts .empty fields "layouts".toList) <|
    Checked.both (Schema.defaulted BuildSettings.ofValue .default fields "build".toList)
      (Schema.noneBut names fields)).map
    fun (jsonOutput, quiet, verbose, logJson, layouts, build, _) =>
      { root, configFile, switches := ⟨jsonOutput, quiet, verbose, logJson⟩, layouts, build }

/-- The sources of all configured layouts. -/
def sources (settings : Settings) : LayoutSources :=
  settings.layouts.mapValues fun _ entry => .raw entry.toValue

/-- A path of the configuration, seen from the root. -/
def resolvePath (settings : Settings) (path : Text) : Path :=
  settings.root.join (Path.ofText path)

/-- Settings of several sources in one, every source below the ones before it. -/
def merged (sources : List (List (Text × Value))) : List (Text × Value) :=
  sources.foldl (fun upper source => Value.overlayFields source upper) []

/-- The settings of a run with the given file, root and command line settings. -/
def load (around : Surroundings) (file : Option Path) (root : Path)
    (given : List (Text × Value)) : Except SettingsError Settings := do
  let data ← (around.configData file).mapError .config
  let environment ← (Environment.settings around.environment).mapError .variable
  let sections ← (configSections data).mapError .config
  (check root file (merged [given, environment, sections])).mapError .invalid

/-- The names under which a run is told its root and its file. -/
def placeNames : List Text := ["project_root".toList, "config_path".toList]

/-- No setting that is given can have one of these names. -/
def takenNames : List Text := "cls".toList :: placeNames

/-- The value that is given for a setting. Its own name counts before one that differs from
it in case, and of those the first counts. -/
def given? (given : List (Text × Value)) (name : Text) : Option Value :=
  Value.field? given name <|>
    (given.find? fun field => Text.lowered field.1 = name).map Prod.snd

/-- Settings that are given, each under its own name, and behind them whatever is no setting.
What is given for the root or the file under a name in other case is dropped: a run is told
both already. -/
def spelled (given : List (Text × Value)) : List (Text × Value) :=
  (names.filterMap fun name => (given? given name).map fun value => (name, value)) ++
    given.filter fun field => !(placeNames ++ names).contains (Text.lowered field.1)

/-- The settings of a run. A file that is named replaces the search for one; without a
start directory the root is where the file is. -/
def ofRun (around : Surroundings) (configPath : Option Text) (start : Option Path)
    (given : List (Text × Value)) : Except SettingsError Settings := do
  if given.any fun field => takenNames.contains field.1 then throw .taken
  let file ←
    match configPath with
    | some (c :: rest) => (around.file? (Path.ofText (c :: rest))).mapError .config
    | _ => (around.findConfig start).mapError .config
  let root := (start <|> file.map Path.parent).getD (Path.ofLocation around.cwd)
  load around file root (spelled given)

/-- Of values found by name, the one under a name is the one that is found for it. -/
theorem find?_named {f : Text → Option Value} {name : Text} (keys : List Text) :
    (keys.filterMap fun key => (f key).map fun value => (key, value)).find?
        (fun field => field.1 = name) =
      if name ∈ keys then (f name).map fun value => (name, value) else none := by
  induction keys with
  | nil => rfl
  | cons key keys ih =>
    by_cases hk : key = name
    · subst hk
      cases hf : f key <;> simp [hf, ih]
    · have hn : name ≠ key := fun h => hk h.symm
      cases hf : f key <;> simp [hf, ih, hk, hn]

/-- A setting has the value that is given for it. -/
theorem field?_spelled {given : List (Text × Value)} {name : Text} (h : name ∈ names) :
    Value.field? (spelled given) name = given? given name := by
  unfold spelled
  rw [Value.field?, List.find?_append, find?_named, if_pos h]
  cases hg : given? given name with
  | some value => simp
  | none =>
    have hf : Value.field? given name = none := by
      simp only [given?, Option.orElse_eq_orElse, Option.orElse_eq_or,
        Option.or_eq_none_iff] at hg
      exact hg.1
    simp only [Value.field?, Option.map_eq_none_iff, List.find?_eq_none] at hf
    simp only [Option.map_none, Option.none_or, Option.map_eq_none_iff, List.find?_eq_none]
    exact fun field hm => hf field (List.mem_filter.1 hm).1

end Settings

end NamedGrid
