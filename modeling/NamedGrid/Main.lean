import NamedGrid.CommandLine.Program
import NamedGrid.Json.Writer

/-!
# Running the program

The files that a run can see are read into a tree, the run itself is a function of that
tree, and the files that it changed are written back.
-/

namespace NamedGrid.Host

/-- The depth to which directories are read. -/
def depthLimit : Nat := 64

/-- The name of a location in the file system. -/
def nameOf (location : Location) : String :=
  String.ofList (Path.ofLocation location).toText

/-- The location of an absolute name. -/
def locationOf (name : String) : Location := Path.components name.toList

/-- Read a file into a tree. -/
def addFile (tree : FileTree) (location : Location) : IO FileTree := do
  let content ← IO.FS.readBinFile (nameOf location)
  return tree.put location (.file content.toList)

/-- Read a directory with what is below it into a tree. -/
def addBelow : Nat → Location → FileTree → IO FileTree
  | 0, _, tree => return tree
  | depth + 1, location, tree => do
    let directory ← IO.FS.realPath (nameOf location)
    (← directory.readDir).foldlM
      (fun tree found => do
        let here := location ++ [found.fileName.toList]
        if ← found.path.isDir then addBelow depth here tree else addFile tree here)
      (tree.put location .directory)

/-- Enter the directories above a location into a tree, with their configuration files. -/
def addAbove (tree : FileTree) (location : Location) : IO FileTree :=
  (ancestors location).foldlM
    (fun tree directory =>
      [configFileName, projectFileName].foldlM
        (fun tree file => do
          let found := (← IO.currentDir) / nameOf (directory ++ [file])
          if ← found.pathExists then
            if ← found.isDir then return tree else addFile tree (directory ++ [file])
          else return tree)
        (if directory.isEmpty then tree else tree.put directory .directory))
    tree

/-- The file in which the system lists the variables of a process. -/
def variableFile : String := "/proc/self/environ"

/-- The variables that are read by name where the system lists none. -/
def variableNames : List String :=
  ["GRIDAREAS_CONFIG", "GRIDAREAS_LAYOUTS", "GRIDAREAS_BUILD", "GRIDAREAS_BUILD__OUTPUT",
    "GRIDAREAS_BUILD__CONTENT"]

/-- The variables in a listing, each ended by the null character. -/
def listedVariables (listing : Utf8.Bytes) : Table Text Text :=
  Table.ofList (((Utf8.decodeLenient listing).splitOn '\x00').map fun entry =>
    let name := entry.takeWhile (· ≠ '=')
    (name, entry.drop (name.length + 1)))

/-- Read the variables that are set. -/
def readVariables : IO (Table Text Text) := do
  try
    return listedVariables (← IO.FS.readBinFile variableFile).toList
  catch _ =>
    variableNames.foldlM
      (fun environment name => do
        match ← IO.getEnv name with
        | some value => return environment.insert name.toList value.toList
        | none => return environment)
      .empty

/-- The directory whose files a run can see: that of the configuration file. -/
def groundOf (around : Surroundings) (arguments : List Text) : Location :=
  let named :=
    match CommandLine.Argument.read CommandLine.program.options false arguments with
    | .ok reading => reading.valueOf? .config
    | .error _ => none
  let file :=
    match named with
    | some file => some (Path.ofText file)
    | none => (around.findConfig none).toOption.join
  ((file.map fun path => (around.locationOf path).dropLast)).getD around.cwd

/-- Read what a run sees of the system. -/
def readSurroundings (arguments : List Text) : IO Surroundings := do
  let cwd := locationOf (← IO.currentDir).toString
  let environment ← readVariables
  let above ← addAbove .empty cwd
  let tree ← addBelow depthLimit cwd above
  let around : Surroundings := { tree, cwd, environment }
  let ground := groundOf around arguments
  let tree ← if cwd.isPrefixOf ground then pure tree else addBelow depthLimit ground tree
  return { around with tree }

/-- Write the files back that differ from what was read. -/
def writeBack (before after : FileTree) : IO Unit :=
  after.entries.entries.forM fun
    | (location, .file content) => do
      if before.entry? location != some (.file content) then
        IO.FS.createDirAll (nameOf location.dropLast)
        IO.FS.writeBinFile (nameOf location) ⟨content.toArray⟩
    | _ => return

/-- The host runs no code of plugin files; each of them counts as one that cannot be loaded. -/
def readNoCode : CodeReader := fun _ _ => ([], .fails)

/-- The lines of a log. -/
def logLines (log : CommandLine.RunLog) : List Text := log.entries.map Json.compact

end NamedGrid.Host

/-- Run the program on the files of the system. -/
def main (arguments : List String) : IO UInt32 := do
  let arguments := arguments.map String.toList
  let around ← NamedGrid.Host.readSurroundings arguments
  let done := NamedGrid.CommandLine.run NamedGrid.Host.readNoCode around arguments
  (NamedGrid.Host.logLines done.log).forM fun line => IO.eprintln (String.ofList line)
  IO.eprint (String.ofList done.stderr)
  if done.crash.isSome then IO.eprintln "Error: the run could not be completed"
  IO.print (String.ofList done.stdout)
  NamedGrid.Host.writeBack around.tree done.tree
  return UInt32.ofNat done.code
