import NamedGrid.CommandLine.Argument

/-!
# Help pages

A help page shows the usage, a sentence about the command, and lists of options and
commands in two columns. Explanations are broken between words at the width of the page.
-/

namespace NamedGrid.CommandLine

/-- A command as its help page shows it. -/
structure CommandSpec (ι : Type) where
  /-- The names that lead to the command. -/
  path : Text
  /-- What stands behind the path in a usage. -/
  arguments : Text
  about : Text
  options : List (OptionSpec ι)
  /-- Whether options are read behind operands. -/
  isMixed : Bool

namespace HelpPage

/-- The number of columns that a page may use. -/
def width : Nat := 78

/-- The greatest width of the first of two columns. -/
def firstWidth : Nat := 30

/-- The indentation of lists and sentences. -/
def margin : Text := "  ".toList

/-- Words put on lines of at most `room` characters; `line` is the line begun. -/
def fill (room : Nat) (line : Text) : List Text → List Text
  | [] => [line]
  | word :: rest =>
    if line.isEmpty then fill room word rest
    else if line.length + 1 + word.length ≤ room then fill room (line ++ ' ' :: word) rest
    else line :: fill room word rest

/-- A text broken between words. -/
def wrapped (room : Nat) (s : Text) : List Text :=
  fill room [] ((s.splitOn ' ').filter fun word => !word.isEmpty)

/-- The lines of a list in two columns. A first entry that is too wide has a line of its
own. -/
def definitions (rows : List (Text × Text)) : List Text :=
  let column := min firstWidth ((rows.map fun row => row.1.length).foldl max 0) + 2
  rows.flatMap fun row =>
    let gap := fun n : Nat => List.replicate n ' '
    match wrapped (width - column - 2) row.2 with
    | [] => [margin ++ row.1]
    | line :: rest =>
      let later := rest.map fun line => margin ++ gap column ++ line
      if row.1.length + 2 ≤ column then
        (margin ++ row.1 ++ gap (column - row.1.length) ++ line) :: later
      else (margin ++ row.1) :: (margin ++ gap column ++ line) :: later

/-- The usage of a command. -/
def usage {ι : Type} (command : CommandSpec ι) : Text :=
  "Usage: ".toList ++ command.path ++ ' ' :: command.arguments

/-- An option as a list of options shows it. -/
def optionRow {ι : Type} (spec : OptionSpec ι) : Text × Text :=
  (", ".toList.intercalate spec.names ++ (spec.placeholder.map (' ' :: ·)).getD [], spec.help)

/-- The help page of a command, with the commands of a group. -/
def page {ι : Type} (command : CommandSpec ι) (commands : List (Text × Text)) : Text :=
  let lists := "Options:".toList :: definitions (command.options.map optionRow) ++
    if commands.isEmpty then [] else [[], "Commands:".toList] ++ definitions commands
  ['\n'].intercalate
    ([usage command, []] ++
      (wrapped (width - margin.length) command.about).map (margin ++ ·) ++ [[]] ++ lists)

/-- The text about wrong arguments of a command, which shows the usage unless only the value
of an option is wrong. -/
def faultText {ι : Type} (command : CommandSpec ι) (fault : UsageFault) : Text :=
  let message := "Error: ".toList ++ fault.message
  if fault.isAboutValue then message
  else
    ['\n'].intercalate
      [usage command, "Try '".toList ++ command.path ++ " --help' for help.".toList, [], message]

end HelpPage

end NamedGrid.CommandLine
