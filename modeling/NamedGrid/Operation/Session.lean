import NamedGrid.Plugin.Discovery
import NamedGrid.Project.FileTree
import NamedGrid.Project.Settings

/-!
# Sessions

A session holds the settings of a project, its plugins and its files. Every operation
starts with a generation pass of its own over the layouts of plugins and configuration,
of which the configured ones win. Plugins are discovered before the first pass.
-/

namespace NamedGrid

/-- What happens during an operation and may be logged. -/
inductive Event
  /-- The plugin registry reports something. -/
  | notice (notice : Notice)
  /-- A generation pass is over. -/
  | generated (layouts areas static : Nat)
  /-- A stylesheet is complete. -/
  | built (rules bracketed : Nat)
  deriving DecidableEq, Repr

/-- What operations work on. -/
structure Session where
  settings : Settings
  registry : Registry
  /-- The files in the plugin directory of the project, if it has one. -/
  pluginFiles : Option (List PluginFile)
  tree : FileTree
  cwd : Location

/-- Why an operation ends without an answer. -/
inductive OperationError
  /-- The plugin registry refuses a step. -/
  | plugin (error : PluginError)
  /-- The stylesheet cannot be written. -/
  | file (error : FileError)
  deriving DecidableEq, Repr

/-- The answer of an operation. -/
inductive Answer (α : Type)
  /-- A report, and warnings to the user. -/
  | report (report : α) (warnings : List Text)
  /-- The layouts have no utilities. -/
  | malformed (fault : LayoutFault)

/-- An operation that is over: its answer, the session that it leaves, and on the way what
plugins received and what happened. -/
structure Done (α : Type) where
  result : Except OperationError α
  session : Session
  receipts : List Receipt
  events : List Event

/-- The result of a generation pass. -/
structure Generation where
  set : UtilitySet
  /-- The warnings about plugins and then those about names. -/
  warnings : List Text

/-- The directory of a project that holds its plugin files. -/
def pluginDirectory : Text := ".gridareas/plugins".toList

/-- How the code of a plugin file is read: the name and the bytes of the file tell which kinds of
plugins it defines and how loading it ends. -/
abbrev CodeReader := Text → Utf8.Bytes → List (Text × Blueprint) × Loading

/-- What stands in the plugin directory as a plugin file. A directory cannot be loaded. -/
def PluginFile.ofEntry (read : CodeReader) (name : Text) : Entry → PluginFile
  | .directory => ⟨name, [], .fails⟩
  | .file content => ⟨name, (read name content).1, (read name content).2⟩

/-- The plugin files of a project, if it has a directory for them. -/
def Settings.pluginFiles (settings : Settings) (read : CodeReader) (tree : FileTree)
    (cwd : Location) : Option (List PluginFile) :=
  match tree.locate cwd (settings.resolvePath pluginDirectory) with
  | none => none
  | some location =>
    if tree.isDirectoryAt location then
      some ((tree.namesIn location).filterMap fun name =>
        (tree.entry? (location ++ [name])).map (PluginFile.ofEntry read name))
    else none

namespace Session

/-- The session of settings with no plugins registered yet. -/
def start (settings : Settings) (read : CodeReader) (tree : FileTree) (cwd : Location) : Session :=
  { settings, registry := .empty, pluginFiles := settings.pluginFiles read tree cwd, tree, cwd }

/-- Discover plugins unless this has been done. -/
def discovered (session : Session) : Step :=
  if session.registry.isLoaded then ⟨session.registry, [], none⟩
  else session.registry.discover session.pluginFiles

/-- One generation pass over the layouts of plugins and settings. -/
def generate (session : Session) : Done (Except LayoutFault Generation) :=
  let step := session.discovered
  let session := { session with registry := step.registry }
  let events := step.notices.map Event.notice
  match step.error with
  | some error => ⟨.error (.plugin error), session, [], events⟩
  | none =>
    match session.registry.collect with
    | .error error => ⟨.error (.plugin error), session, [], events⟩
    | .ok collected =>
      let events := events ++ collected.notices.map Event.notice
      match UtilitySet.generate (collected.sources.update session.settings.sources) with
      | .error fault => ⟨.ok (.error fault), session, [], events⟩
      | .ok set =>
        ⟨.ok (.ok ⟨set, collected.warnings ++ set.warnings⟩), session, [],
          events ++ [.generated set.layouts.length set.areaNames.length
            set.staticUtilities.length]⟩

/-- An operation that reports on a generation pass and changes nothing. -/
def reporting {α : Type} (session : Session) (report : Generation → α × List Text) :
    Done (Answer α) :=
  let pass := session.generate
  { session := pass.session
    receipts := pass.receipts
    events := pass.events
    result := pass.result.map fun
      | .error fault => .malformed fault
      | .ok generation =>
        let (found, warnings) := report generation
        .report found (generation.warnings ++ warnings) }

/-- A generation pass calls no sink. -/
theorem receipts_generate (session : Session) : session.generate.receipts = [] := by
  unfold generate
  dsimp only
  split
  · rfl
  · split
    · rfl
    · split <;> rfl

/-- A generation pass leaves the files as they are. -/
theorem tree_generate (session : Session) : session.generate.session.tree = session.tree := by
  unfold generate
  dsimp only
  split
  · rfl
  · split
    · rfl
    · split <;> rfl

end Session

end NamedGrid
