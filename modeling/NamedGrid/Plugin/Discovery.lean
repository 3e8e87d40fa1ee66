import NamedGrid.Plugin.Registry

/-!
# Discovery

Discovery enters the plugins that are installed, replaces registered blueprints by instances
and loads the plugin files of a directory. A file that cannot be loaded and a kind of plugin
that cannot be made are reported and left out. Only a file that ends the program ends
discovery as well.
-/

namespace NamedGrid

/-- How the code of a plugin file ends. -/
inductive Loading
  | succeeds
  /-- An error ends it, and can be reported. -/
  | fails
  /-- It ends the program, with an exit code. -/
  | exits (code : Nat)
  deriving DecidableEq, Repr

/-- A plugin file and the kinds of plugins that it defines. -/
structure PluginFile where
  fileName : Text
  /-- The kinds of plugins by the names that they are assigned to. -/
  members : List (Text × Blueprint)
  loading : Loading

namespace PluginFile

/-- The kinds of plugins in a file. -/
def blueprints (file : PluginFile) : List Blueprint := file.members.map Prod.snd

/-- Does loading the file fail? -/
def isBroken (file : PluginFile) : Bool := file.loading = .fails

/-- The exit code of the file, if it ends the program. -/
def exitCode? (file : PluginFile) : Option Nat :=
  match file.loading with
  | .exits code => some code
  | _ => none

/-- The ending of plugin files. -/
def ending : Text := ".py".toList

/-- Does the name make a file one of plugins? Private names are left out. -/
def isEligible (file : PluginFile) : Bool :=
  ending.isSuffixOf file.fileName && !(['_'] : Text).isPrefixOf file.fileName

/-- The name of a file without its ending; a name that is nothing but the ending stays. -/
def stem (file : PluginFile) : Text :=
  if file.fileName = ending then file.fileName
  else file.fileName.take (file.fileName.length - ending.length)

/-- The module name of a file. -/
def moduleName (file : PluginFile) : Text := "gridareas_local_plugin_".toList ++ file.stem

/-- The kinds of plugins in the order of the names that they are assigned to. What is assigned
again replaces what was there. -/
def sortedBlueprints (file : PluginFile) : List Blueprint :=
  ((Table.ofList file.members).entries.mergeSort fun a b => !Text.before b.1 a.1).map Prod.snd

/-- The files to load, in the order of their names. -/
def eligible (files : List PluginFile) : List PluginFile :=
  (files.filter isEligible).mergeSort fun a b => !Text.before b.fileName a.fileName

end PluginFile

namespace Registry

/-- A new object made of a blueprint. -/
def instantiate (registry : Registry) (blueprint : Blueprint) : Plugin × Registry :=
  (⟨.made registry.made, blueprint, .object⟩, { registry with made := registry.made + 1 })

/-- Replace the registered blueprint of a name by an instance, which is then the latest. -/
def replaceBlueprint (registry : Registry) (name : Text) (plugin : Plugin) : Step :=
  let registry := registry.remove name plugin.identity
  if plugin.blueprint.fails then ⟨registry, [.entryFailed name], none⟩
  else
    let (made, registry) := registry.instantiate plugin.blueprint
    let (registry, error) := registry.enter made name
    ⟨registry, [], error⟩

/-- Run steps for the members of a list, up to the first that fails. -/
def runAll {α : Type} (step : Registry → α → Step) : List α → Registry → Step
  | [], registry => ⟨registry, [], none⟩
  | a :: rest, registry =>
    let first := step registry a
    match first.error with
    | some _ => first
    | none =>
      let later := runAll step rest first.registry
      { later with notices := first.notices ++ later.notices }

/-- Is the plugin a blueprint that listens to hooks by a public method? -/
def awaitsInstance (plugin : Plugin) : Bool :=
  plugin.form = .blueprint && plugin.blueprint.hasPublicMethod

/-- Replace every registered blueprint that listens to hooks. -/
def replaceBlueprints (registry : Registry) : Step :=
  runAll (fun registry e => registry.replaceBlueprint e.1 e.2)
    (registry.plugins.entries.filter fun e => awaitsInstance e.2) registry

/-- Check the hooks of all registered plugins. -/
def checkAll (registry : Registry) : Step :=
  runAll (fun registry e => ⟨(registry.check e.1 e.2).1, (registry.check e.1 e.2).2, none⟩)
    registry.plugins.entries registry

/-- Make and register one kind of plugin from a file, and report if that fails. -/
def loadBlueprint (file : PluginFile) (registry : Registry) (blueprint : Blueprint) : Step :=
  if !blueprint.hasPublicMethod then ⟨registry, [], none⟩
  else if blueprint.fails then
    ⟨registry, [.classFailed blueprint.className file.fileName], none⟩
  else
    let (made, registry) := registry.instantiate blueprint
    let step := registry.register made (some (file.moduleName ++ '.' :: blueprint.className))
    match step.error with
    | none => step
    | some _ => ⟨step.registry, [.classFailed blueprint.className file.fileName], none⟩

/-- Load one plugin file. -/
def loadFile (registry : Registry) (file : PluginFile) : Step :=
  match file.loading with
  | .succeeds => runAll (loadBlueprint file) file.sortedBlueprints registry
  | .fails => ⟨registry, [.fileFailed file.fileName], none⟩
  | .exits code => ⟨registry, [], some (.exited code)⟩

/-- Load the plugin files of a directory, if there is one, up to the first that ends the
program. -/
def loadDirectory (registry : Registry) (directory : Option (List PluginFile)) : Step :=
  runAll loadFile (PluginFile.eligible (directory.getD [])) registry

/-- Enter the plugins that are installed under free names, up to the first that cannot be
entered. -/
def enterInstalled (registry : Registry) (installed : List (Text × Plugin)) : Step :=
  runAll
    (fun registry e =>
      if registry.plugins.contains e.1 then ⟨registry, [], none⟩
      else ⟨(registry.enter e.2 e.1).1, [], (registry.enter e.2 e.1).2⟩)
    installed registry

/-- Discover plugins: enter those that are installed, replace blueprints, check all hooks, and
load the files. -/
def discover (registry : Registry) (directory : Option (List PluginFile))
    (installed : List (Text × Plugin) := []) : Step :=
  let step :=
    runAll (fun registry (stage : Registry → Step) => stage registry)
      [fun registry => registry.enterInstalled installed, replaceBlueprints, checkAll,
        fun registry => registry.loadDirectory directory] registry
  match step.error with
  | some _ => step
  | none => { step with registry := { step.registry with isLoaded := true } }

end Registry

end NamedGrid
