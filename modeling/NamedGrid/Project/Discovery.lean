import NamedGrid.Project.FileTree
import NamedGrid.Project.Schema
import NamedGrid.Toml.Reader

/-!
# Finding the configuration

The configuration of a directory is the nearest one on the way up to the root. A
directory configures a project by a file of its own, or by a table in the description of
a project. An environment variable names a file directly.
-/

namespace NamedGrid

/-- What a run sees of the system that it runs on. -/
structure Surroundings where
  tree : FileTree
  /-- The working directory. -/
  cwd : Location
  /-- The environment variables by name. -/
  environment : Table Text Text

/-- Why a configuration cannot be read. -/
inductive ConfigError
  /-- The bytes of a file are no text. -/
  | notText
  /-- The text of a file is no configuration document. -/
  | invalidDocument (file : Path)
  /-- A value of a kind that has no fields or items stands where names are searched. -/
  | notSearchable
  /-- A value other than a record stands where the table of this program is read. -/
  | notRecord
  /-- A whole number in a file has too many digits. -/
  | numberTooLong
  /-- The values in a file are nested too deeply. -/
  | tooDeep
  /-- A name on the way to a file is too long. -/
  | nameTooLong
  /-- The name of the start directory holds the null character. -/
  | unusableName
  deriving DecidableEq, Repr

namespace ConfigError

/-- The message for a file that is no configuration document. -/
def message? : ConfigError → Option Text
  | invalidDocument file => some ("Invalid TOML in ".toList ++ file.toText)
  | _ => none

end ConfigError

/-- The file that configures a directory and what is below it. -/
def configFileName : Text := "gridareas.toml".toList

/-- The file that describes a project. -/
def projectFileName : Text := "pyproject.toml".toList

/-- The variable that names the configuration file. -/
def configVariable : Text := "GRIDAREAS_CONFIG".toList

/-- The table of a project description in which tools are configured. -/
def toolField : Text := "tool".toList

/-- The table of this program among those of the tools. -/
def toolName : Text := "gridareas".toList

/-- The parts of a configuration that are read from a file. -/
def sectionNames : List Text := ["layouts".toList, "build".toList]

/-- Is a text part of another? -/
def Text.holds (part : Text) : Text → Bool
  | [] => part.isEmpty
  | c :: s => part.isPrefixOf (c :: s) || holds part s

/-- Does a value mention a name: a record as a field, a list as an item, a text as a part?
Other values cannot be searched. -/
def Value.mentions? (name : Text) : Value → Option Bool
  | record fields => some (Value.field? fields name).isSome
  | list items => some (items.any fun item => item.text? = some name)
  | text s => some (Text.holds name s)
  | _ => none

/-- A location and all above it, from the deepest to the root. -/
def ancestors (location : Location) : List Location :=
  (List.range (location.length + 1)).reverse.map location.take

namespace Surroundings

/-- Does a path lead to a file? No path does that holds the null character. -/
def isFile (around : Surroundings) (path : Path) : Except ConfigError Bool :=
  if FileTree.isUnusable path then .ok false
  else if around.tree.isOverlong around.cwd path then .error .nameTooLong
  else .ok (around.tree.isFile around.cwd path)

/-- The path if it leads to a file. -/
def file? (around : Surroundings) (path : Path) : Except ConfigError (Option Path) :=
  (around.isFile path).map fun found => if found then some path else none

/-- The text of a file, every line of which ends with a line feed. -/
def readText (around : Surroundings) (file : Path) : Except ConfigError Text :=
  match Utf8.decodeStrict? ((around.tree.bytes? around.cwd file).getD []) with
  | some text => .ok (Utf8.unifyLines text)
  | none => .error .notText

/-- The fields of a configuration document. -/
def readDocument (around : Surroundings) (file : Path) :
    Except ConfigError (List (Text × Value)) := do
  (Toml.read (← around.readText file)).mapError fun
    | .malformed => .invalidDocument file
    | .numberTooLong => .numberTooLong
    | .tooDeep => .tooDeep

/-- Does the description of a project have a table for this program? One that is not
valid has none. -/
def hasToolTable (around : Surroundings) (file : Path) : Except ConfigError Bool :=
  match around.readDocument file with
  | .error (.invalidDocument _) => .ok false
  | .error error => .error error
  | .ok fields =>
    match ((Value.field? fields toolField).getD (.record [])).mentions? toolName with
    | some found => .ok found
    | none => .error .notSearchable

/-- The configuration file of one directory; its own file comes before the description. -/
def configIn (around : Surroundings) (directory : Location) :
    Except ConfigError (Option Path) := do
  let own := Path.ofLocation (directory ++ [configFileName])
  let project := Path.ofLocation (directory ++ [projectFileName])
  if ← around.isFile own then return some own
  else if ← around.isFile project then
    return if ← around.hasToolTable project then some project else none
  else return none

/-- The first configuration file of directories. -/
def firstConfig (around : Surroundings) : List Location → Except ConfigError (Option Path)
  | [] => .ok none
  | directory :: rest =>
    match around.configIn directory with
    | .ok none => firstConfig around rest
    | found => found

/-- The location of a path whether or not there is anything. -/
def locationOf (around : Surroundings) (path : Path) : Location :=
  FileTree.collapse (if path.isAbsolute then [] else around.cwd) path.names

/-- The configuration file for a directory, the working directory if none is given. -/
def findConfig (around : Surroundings) (start : Option Path) :
    Except ConfigError (Option Path) :=
  match around.environment.get? configVariable with
  | some (c :: rest) => around.file? (Path.ofText (c :: rest))
  | _ =>
    if start.any FileTree.isUnusable then .error .unusableName
    else around.firstConfig (ancestors (start.elim around.cwd around.locationOf))

/-- The configuration in a file: all of it, or the table of this program in the
description of a project. -/
def readConfig (around : Surroundings) (file : Path) : Except ConfigError Value := do
  let fields ← around.readDocument file
  if file.name = projectFileName then
    match (Value.field? fields toolField).getD (.record []) with
    | .record tools => .ok ((Value.field? tools toolName).getD (.record []))
    | _ => .error .notRecord
  else .ok (.record fields)

/-- The configuration in a file; none where there is no file. -/
def configData (around : Surroundings) : Option Path → Except ConfigError Value
  | none => .ok (.record [])
  | some file => around.readConfig file

end Surroundings

/-- The parts of a configuration that a value holds. A value without fields may hold none. -/
def configSections : Value → Except ConfigError (List (Text × Value))
  | .record fields =>
    .ok (sectionNames.filterMap fun name => (Value.field? fields name).map (name, ·))
  | value =>
    if sectionNames.all fun name => value.mentions? name = some false then .ok []
    else .error .notSearchable

/-- The search ends at the first directory that has a configuration. -/
theorem Surroundings.firstConfig_append {around : Surroundings} {skipped rest : List Location}
    (h : ∀ directory ∈ skipped, around.configIn directory = .ok none) :
    around.firstConfig (skipped ++ rest) = around.firstConfig rest := by
  induction skipped with
  | nil => rfl
  | cons directory skipped ih =>
    simp only [List.cons_append, firstConfig, h directory List.mem_cons_self]
    exact ih fun d hd => h d (List.mem_cons_of_mem _ hd)

end NamedGrid
