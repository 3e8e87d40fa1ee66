import NamedGrid.Operation.Session

/-!
# Log entries

Every event of an operation can be logged. An entry has a level, the part of the program
that it comes from, a message, and named numbers.
-/

namespace NamedGrid

/-- How important a log entry is. -/
inductive LogLevel
  | debug
  | info
  | warning
  deriving DecidableEq, Repr

/-- The name of a level. -/
def LogLevel.name : LogLevel → Text
  | debug => "debug".toList
  | info => "info".toList
  | warning => "warning".toList

namespace Event

/-- The level of an event. -/
def level : Event → LogLevel
  | notice n => if n.isWarning then .warning else .debug
  | generated _ _ _ => .debug
  | built _ _ => .info

/-- The part of the program that an event comes from. -/
def origin : Event → Text
  | notice _ => "gridareas.plugins.manager".toList
  | generated _ _ _ => "gridareas.services.generate".toList
  | built _ _ => "gridareas.services.generate".toList

/-- The message of an event, where `directory` holds the plugin files. -/
def message (directory : Text) : Event → Text
  | notice n => n.message directory
  | generated _ _ _ => "utilities.generated".toList
  | built _ _ => "build.complete".toList

/-- The numbers of an event. -/
def numbers : Event → List (Text × Nat)
  | notice _ => []
  | generated layouts areas static =>
    [("layouts".toList, layouts), ("areas".toList, areas), ("static".toList, static)]
  | built rules bracketed => [("rules".toList, rules), ("arbitrary".toList, bracketed)]

/-- Is an event logged? Without verbosity only warnings are. -/
def isLogged (verbose : Bool) (event : Event) : Bool := verbose || event.level = .warning

/-- The log entry of an event. -/
def entry (directory : Text) (event : Event) : Value :=
  .record
    (event.numbers.map (fun n => (n.1, Value.int n.2)) ++
      [("event".toList, .text (event.message directory)),
        ("level".toList, .text event.level.name), ("logger".toList, .text event.origin)])

end Event

end NamedGrid
