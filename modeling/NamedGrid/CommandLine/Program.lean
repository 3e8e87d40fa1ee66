import NamedGrid.CommandLine.HelpPage
import NamedGrid.Operation.Log
import NamedGrid.Report.Rendering
import NamedGrid.Report.Terminal

/-!
# The program

The program reads its arguments, loads the settings and runs one command. The options of
the program itself come before the name of the command. Arguments are refused before
anything is loaded if they are those of the program, and after that if they are those of
a command. The code of plugin files is read by whoever runs the program.
-/

namespace NamedGrid.CommandLine

/-- The keys of all options. -/
inductive OptionKey
  | version
  | json
  | quiet
  | verbose
  | logJson
  | config
  | output
  | content
  | stdout
  | examples
  | help
  deriving DecidableEq, Repr

/-- The commands. -/
inductive Command
  | areas
  | build
  | resolve
  deriving DecidableEq, Repr

/-- The option that every command has. -/
def helpOption : OptionSpec OptionKey :=
  ⟨.help, ["--help".toList], none, "Show this message and exit.".toList⟩

/-- The option that shows examples. -/
def examplesOption : OptionSpec OptionKey :=
  ⟨.examples, ["--examples".toList], none, "Show usage examples.".toList⟩

/-- The program itself. -/
def program : CommandSpec OptionKey :=
  { path := "cli".toList
    arguments := "[OPTIONS] [COMMAND] [ARGS]...".toList
    about := "gridareas: CSS Grid named-area utilities from a compact layout language.".toList
    options :=
      [⟨.version, ["--version".toList], none, "Show the version and exit.".toList⟩,
        ⟨.json, ["--json".toList], none, "Structured JSON output.".toList⟩,
        ⟨.quiet, ["-q".toList, "--quiet".toList], none, "Minimal output.".toList⟩,
        ⟨.verbose, ["-v".toList, "--verbose".toList], none,
          "Detailed output with debug logging.".toList⟩,
        ⟨.logJson, ["--log-json".toList], none,
          "Structured JSON log output to stderr.".toList⟩,
        ⟨.config, ["-c".toList, "--config".toList], some "TEXT".toList,
          "Override config file path.".toList⟩,
        helpOption]
    isMixed := false }

/-- The version of the program. -/
def versionText : Text := "gridareas, version 0.3.0".toList

namespace Command

/-- All commands, in the order of their names. -/
def all : List Command := [areas, build, resolve]

/-- The name of a command. -/
def name : Command → Text
  | areas => "areas".toList
  | build => "build".toList
  | resolve => "resolve".toList

/-- The command of a name. -/
def ofName? (name : Text) : Option Command := all.find? fun command => command.name = name

/-- A sentence about a command. -/
def about : Command → Text
  | areas => "List grid areas and the layouts that define them.".toList
  | build => "Generate CSS for configured layouts, areas, and arbitrary classes.".toList
  | resolve => "Resolve utility class names (static or [arbitrary]) to CSS.".toList

/-- The placeholder of the operands of a command that needs some. -/
def operands? : Command → Option Text
  | resolve => some "CLASS_NAMES...".toList
  | _ => none

/-- The names of the option for the output file. -/
def outputNames : List Text := ["-o".toList, "--output".toList]

/-- The options of a command's own. -/
def ownOptions : Command → List (OptionSpec OptionKey)
  | build =>
    [⟨.output, outputNames, some "FILE".toList,
        "CSS file to write (default: [build].output, else stdout).".toList⟩,
      ⟨.content, ["--content".toList], some "TEXT".toList,
        "Glob of files to scan for arbitrary-value classes (repeatable).".toList⟩,
      ⟨.stdout, ["--stdout".toList], none,
        "Print CSS even if an output is configured.".toList⟩]
  | _ => []

/-- What a command reads and what its help page shows. -/
def spec (command : Command) : CommandSpec OptionKey :=
  { path := program.path ++ ' ' :: command.name
    arguments := "[OPTIONS]".toList ++ (command.operands?.map (' ' :: ·)).getD []
    about := command.about
    options := command.ownOptions ++ [examplesOption, helpOption]
    isMixed := true }

/-- The examples of a command, one a line. -/
def exampleLines : Command → List String
  | areas => ["gridareas areas", "gridareas -v areas", "gridareas -q areas",
      "gridareas --json areas"]
  | build => ["gridareas build", "gridareas build --output static/css/grid-areas.css",
      "gridareas build --content \"templates/**/*.html\" --content \"src/**/*.jsx\"",
      "gridareas build --stdout > grid-areas.css", "gridareas --json build"]
  | resolve => ["gridareas resolve grid-areas-page",
      "gridareas resolve \"grid-areas-[header_header,sidebar_main]\"",
      "gridareas --json resolve \"grid-areas-[var(--areas)]\"",
      "gridareas resolve row-span-main col-start-[main-start]"]

/-- The text of the examples of a command. -/
def examplesText (command : Command) : Text :=
  ['\n'].intercalate
    (["Examples for '".toList ++ command.spec.path ++ "':".toList, []] ++
      command.exampleLines.map fun line => HelpPage.margin ++ line.toList)

end Command

/-- The help page of the program. -/
def programHelp : Text :=
  HelpPage.page program (Command.all.map fun command => (command.name, command.about))

/-- Why the program ends without having said so itself. -/
inductive Crash
  /-- The settings cannot be loaded. -/
  | settings (error : SettingsError)
  /-- An operation ends without an answer. -/
  | operation (error : OperationError)
  /-- An outcome cannot be shown. -/
  | rendering (error : RenderError)
  /-- The name of a file holds the null character. -/
  | unusableName
  deriving DecidableEq, Repr

/-- The log of a run. -/
structure RunLog where
  events : List Event
  /-- The directory of the plugin files, as the entries name it. -/
  directory : Text
  /-- Whether the entries are written as JSON. -/
  isJson : Bool

namespace RunLog

/-- The log of a run that logs nothing. -/
def empty : RunLog := ⟨[], [], false⟩

/-- The log of an operation. -/
def ofEvents (settings : Settings) (events : List Event) : RunLog :=
  { events := events.filter (Event.isLogged settings.switches.verbose)
    directory := (settings.resolvePath pluginDirectory).toText
    isJson := settings.switches.logJson }

/-- The entries that are written. -/
def entries (log : RunLog) : List Value :=
  if log.isJson then log.events.map (Event.entry log.directory) else []

end RunLog

/-- How the program ends. -/
structure Exit where
  code : Nat
  stdout : Text
  stderr : Text
  log : RunLog
  crash : Option Crash
  tree : FileTree

namespace Exit

/-- The end after a line on the standard output. -/
def saying (tree : FileTree) (line : Text) : Exit :=
  ⟨0, line ++ ['\n'], [], .empty, none, tree⟩

/-- The end after a line on the error output. -/
def refusing (tree : FileTree) (code : Nat) (line : Text) : Exit :=
  ⟨code, [], line ++ ['\n'], .empty, none, tree⟩

/-- The end because of wrong arguments of a command. -/
def misused (tree : FileTree) (command : CommandSpec OptionKey) (fault : UsageFault) : Exit :=
  refusing tree 2 (HelpPage.faultText command fault)

/-- The end that the code of a plugin file brings about. -/
def forced (tree : FileTree) (log : RunLog) (code : Nat) : Exit :=
  ⟨code, [], [], log, none, tree⟩

/-- The end because of an error that nothing handles. -/
def crashing (tree : FileTree) (log : RunLog) (crash : Crash) : Exit :=
  ⟨1, [], [], log, some crash, tree⟩

/-- The end with output that goes to no terminal. -/
def plain (done : Exit) : Exit :=
  { done with stdout := Terminal.plain done.stdout, stderr := Terminal.plain done.stderr }

end Exit

namespace Reading

/-- Was a switch given? -/
def isGiven (reading : Reading OptionKey) (key : OptionKey) : Bool :=
  reading.given.any fun option => option.1 = key

/-- The values of an option in order. -/
def valuesOf (reading : Reading OptionKey) (key : OptionKey) : List Text :=
  reading.given.filterMap fun option => if option.1 = key then option.2 else none

/-- The value of an option; the last one counts. -/
def valueOf? (reading : Reading OptionKey) (key : OptionKey) : Option Text :=
  (reading.valuesOf key).getLast?

/-- The first of several switches that was given. -/
def firstOf? (reading : Reading OptionKey) (keys : List OptionKey) : Option OptionKey :=
  (reading.given.find? fun option => keys.contains option.1).map Prod.fst

end Reading

/-- The text that an option of the program asks for instead of a run. -/
def programText? (reading : Reading OptionKey) : Option Text :=
  (reading.firstOf? [.version, .help]).map fun key =>
    if key = .version then versionText else programHelp

/-- The text that an option of a command asks for instead of a run. -/
def Command.text? (command : Command) (reading : Reading OptionKey) : Option Text :=
  (reading.firstOf? [.examples, .help]).map fun key =>
    if key = .examples then command.examplesText else HelpPage.page command.spec []

/-- The text for warnings, a line each. -/
def warningLines (warnings : List Text) : Text :=
  warnings.flatMap fun warning => "WARNING: ".toList ++ warning ++ ['\n']

/-- Show an outcome: success on the standard output with warnings beside it, unless they
are part of the JSON, and failure on the error output. -/
def present (switches : Switches) (tree : FileTree) (log : RunLog) (outcome : Outcome) : Exit :=
  match outcome.render switches.form with
  | .error error => .crashing tree log (.rendering error)
  | .ok shown =>
    if outcome.succeeded then
      { code := 0
        stdout := shown ++ ['\n']
        stderr := if switches.jsonOutput then [] else warningLines outcome.warnings
        log, crash := none, tree }
    else { code := 1, stdout := [], stderr := shown ++ ['\n'], log, crash := none, tree }

/-- Show a build: a stylesheet that goes to no file is printed as it is. -/
def presentBuild (switches : Switches) (tree : FileTree) (log : RunLog)
    (answer : Answer BuildReport) : Exit :=
  match answer with
  | .report ⟨_, _, _, _, _, .report css⟩ warnings =>
    if switches.jsonOutput then present switches tree log (.ofBuild answer)
    else ⟨0, css, warningLines warnings, log, none, tree⟩
  | _ => present switches tree log (.ofBuild answer)

/-- The end of the program after an operation, with a way to show its answer. -/
def conclude {α : Type} (present : Switches → FileTree → RunLog → Answer α → Exit)
    (done : Done (Answer α)) : Exit :=
  let settings := done.session.settings
  let log := RunLog.ofEvents settings done.events
  match done.result with
  | .error (.plugin (.exited code)) => .forced done.session.tree log code
  | .error error => .crashing done.session.tree log (.operation error)
  | .ok answer => present settings.switches done.session.tree log answer

/-- The output file of a build: the one given, or else the one configured. -/
def buildTarget (settings : Settings) (reading : Reading OptionKey) : Option Path :=
  if reading.isGiven .stdout then none
  else
    match reading.valueOf? .output, settings.build.output with
    | some (c :: rest), _ => some (Path.ofText (c :: rest))
    | _, some (c :: rest) => some (settings.resolvePath (c :: rest))
    | _, _ => none

/-- The patterns of content files that are given, if any are. -/
def contentPatterns (reading : Reading OptionKey) : Option (List Text) :=
  match reading.valuesOf .content with
  | [] => none
  | patterns => some patterns

/-- Run a command on a session. -/
def Command.run (command : Command) (session : Session) (reading : Reading OptionKey) : Exit :=
  match command with
  | areas =>
    conclude (fun switches tree log answer => present switches tree log (.ofAreas answer))
      session.listAreas
  | resolve =>
    conclude (fun switches tree log answer => present switches tree log (.ofResolve answer))
      (session.resolve reading.operands)
  | build =>
    conclude presentBuild
      (session.build (buildTarget session.settings reading) (contentPatterns reading))

/-- What is wrong with the operands of a command, if anything. -/
def Command.operandFault? (command : Command) (operands : List Text) : Option UsageFault :=
  match command.operands?, operands with
  | some placeholder, [] => some (.operandMissing placeholder)
  | none, _ :: _ => some (.operandsUnexpected operands)
  | _, _ => none

/-- What is wrong with the output file that is given, if anything. -/
def outputFault? (around : Surroundings) (reading : Reading OptionKey) : Option UsageFault :=
  match reading.valueOf? .output with
  | some (c :: rest) =>
    if around.tree.isDirectory around.cwd (Path.ofText (c :: rest)) then
      some (.directoryGiven Command.outputNames (c :: rest))
    else none
  | _ => none

/-- Does the output file that is given have a name that no file can have? -/
def hasUnusableOutput (reading : Reading OptionKey) : Bool :=
  (reading.valueOf? .output).any fun file => file.contains '\x00'

/-- Read the arguments of a command and run it. -/
def Command.start (command : Command) (code : CodeReader) (around : Surroundings)
    (settings : Settings) (arguments : List Text) : Exit :=
  let spec := command.spec
  match Argument.read spec.options spec.isMixed arguments with
  | .error fault => .misused around.tree spec fault
  | .ok reading =>
    match command.text? reading with
    | some text => .saying around.tree text
    | none =>
      if hasUnusableOutput reading then .crashing around.tree .empty .unusableName
      else
        match outputFault? around reading <|> command.operandFault? reading.operands with
        | some fault => .misused around.tree spec fault
        | none => command.run (.start settings code around.tree around.cwd) reading

/-- The settings that the options of the program give. -/
def givenSettings (reading : Reading OptionKey) : List (Text × Value) :=
  [("json_output".toList, .bool (reading.isGiven .json)),
    ("quiet".toList, .bool (reading.isGiven .quiet)),
    ("verbose".toList, .bool (reading.isGiven .verbose)),
    ("log_json".toList, .bool (reading.isGiven .logJson))]

/-- The end of the program when there are no settings. -/
def refuseSettings (tree : FileTree) (error : SettingsError) : Exit :=
  let refuse := fun message => Exit.refusing tree 1 ("Error: ".toList ++ message)
  match error with
  | .invalid faults =>
    refuse ("Invalid configuration: ".toList ++ ShapeFault.messageOfAll faults)
  | .config e =>
    match e.message? with
    | some message => refuse message
    | none => .crashing tree .empty (.settings error)
  | .variable _ | .taken => .crashing tree .empty (.settings error)

/-- Load the settings, with the configuration file that is named, and go on with them. -/
def loadSettings (around : Surroundings) (reading : Reading OptionKey) (file : Option Text)
    (next : Settings → Exit) : Exit :=
  match Settings.ofRun around file none (givenSettings reading) with
  | .ok settings => next settings
  | .error error => refuseSettings around.tree error

/-- Load the settings and go on with them; a configuration file that is named must be
there. -/
def withSettings (around : Surroundings) (reading : Reading OptionKey)
    (next : Settings → Exit) : Exit :=
  match reading.valueOf? .config with
  | some (c :: rest) =>
    match around.isFile (Path.ofText (c :: rest)) with
    | .ok true => loadSettings around reading (some (c :: rest)) next
    | .ok false => .refusing around.tree 1 ("Error: Config file not found: ".toList ++ c :: rest)
    | .error error => refuseSettings around.tree (.config error)
  | _ => loadSettings around reading none next

/-- The end of the program when there is no command of a name. What looks like an option
is read as one of the program first. -/
def refuseCommand (tree : FileTree) (name : Text) (arguments : List Text) : Exit :=
  let unknown := Exit.misused tree program
    (.noSuchCommand name (Similarity.close name (Command.all.map Command.name)))
  if ['-'].isPrefixOf name then
    match Argument.read program.options program.isMixed (name :: arguments) with
    | .error fault => .misused tree program fault
    | .ok reading => ((programText? reading).map (Exit.saying tree)).getD unknown
  else unknown

/-- Start the program with arguments. Without a command it shows its help page. -/
def start (code : CodeReader) (around : Surroundings) (arguments : List Text) : Exit :=
  match Argument.read program.options program.isMixed arguments with
  | .error fault => .misused around.tree program fault
  | .ok reading =>
    match programText? reading, reading.operands with
    | some text, _ => .saying around.tree text
    | none, [] => withSettings around reading fun _ => .saying around.tree programHelp
    | none, name :: rest =>
      match Command.ofName? name with
      | none => refuseCommand around.tree name rest
      | some command =>
        withSettings around reading fun settings => command.start code around settings rest

/-- Run the program with arguments. What it prints holds no control sequences. -/
def run (code : CodeReader) (around : Surroundings) (arguments : List Text) : Exit :=
  (start code around arguments).plain

end NamedGrid.CommandLine
