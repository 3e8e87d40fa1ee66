import NamedGrid.Json.Reader
import NamedGrid.Project.Overlay
import NamedGrid.Project.Schema
import NamedGrid.Text.Case

/-!
# Settings in the environment

A variable whose name is a common lead and the name of a setting gives that setting. A
setting with fields is written as JSON, or field by field in variables whose names go on
with two low lines and the name of the field. Case does not matter in the names of
variables.
-/

namespace NamedGrid

/-- The lead of the names of all variables. -/
def variableLead : Text := "gridareas_".toList

/-- The text of a variable cannot be read as the value that its setting needs. -/
structure UnreadableVariable where
  /-- The setting that it is about. -/
  setting : Text
  reason : Json.Failure
  deriving DecidableEq, Repr

namespace Environment

/-- The variables by their names in small letters; of two, the later counts. -/
def lowered (environment : Table Text Text) : Table Text Text :=
  Table.ofList (environment.entries.map fun v => (Text.lowered v.1, v.2))

/-- The parts of a name between two low lines. -/
def segments : Text → List Text
  | [] => [[]]
  | '_' :: '_' :: rest => [] :: segments rest
  | c :: rest =>
    match segments rest with
    | [] => [[c]]
    | part :: parts => (c :: part) :: parts

/-- The kinds of settings that a variable can be about. -/
inductive Slot
  /-- All layouts by name. -/
  | layouts
  /-- One layout. -/
  | layout
  /-- The rows of a layout. -/
  | rows
  /-- The track sizes of a layout. -/
  | tracks
  /-- The settings of a build. -/
  | build
  /-- The output file of a build. -/
  | output
  /-- The content patterns of a build. -/
  | content
  deriving DecidableEq, Repr

/-- How the text of a variable is read. -/
inductive Reading
  /-- As it is. -/
  | plain
  /-- As JSON. -/
  | json
  /-- As JSON, or as it is if it is none. -/
  | jsonIfPossible
  deriving DecidableEq, Repr

/-- Is a name one of several, with or without the common lead, whatever its case? -/
def isNamed (name : Text) (names : List Text) : Bool :=
  names.any fun n =>
    n.map Char.toLower = name.map Char.toLower ||
      variableLead ++ n = name.map Char.toLower

/-- The field of a layout record under a name. -/
def layoutField? (name : Text) : Option Slot :=
  if isNamed name ["rows".toList] then some .rows
  else if (rowTrackNames ++ colTrackNames).any fun n =>
      n.map Char.toLower = name.map Char.toLower then some .tracks
  else none

/-- The setting under a name inside of a setting. Among layouts every name is that of a
layout, also one that is a field of a layout record. -/
def Slot.field? (name : Text) : Slot → Option Slot
  | layouts => some layout
  | layout => layoutField? name
  | build =>
    if isNamed name ["output".toList] then some output
    else if isNamed name ["content".toList] then some content
    else none
  | _ => none

/-- How the text for a setting inside of another is read. -/
def readingOf (whole : Slot) : Option Slot → Reading
  | some .rows => .json
  | some .content => .json
  | some .tracks => .plain
  | some .output => .plain
  | some _ => .jsonIfPossible
  | none => if whole = .layouts then .jsonIfPossible else .plain

/-- The value of a text. One that is nested too deeply is no text either. -/
def valueOf (reading : Reading) (content : Text) : Except Json.Failure Value :=
  if content.isEmpty then .ok (.text content)
  else
    match reading with
    | .plain => .ok (.text content)
    | .json => Json.read content
    | .jsonIfPossible =>
      match Json.read content with
      | .error .malformed => .ok (.text content)
      | found => found

/-- The fields with one that a variable behind a path of names gives. -/
def placeVariable (whole : Slot) (fields : List (Text × Value)) (path : List Text)
    (content : Text) : Except Json.Failure (List (Text × Value)) := do
  let last := path.getLast?.getD []
  let target := path.foldl (fun slot name => slot.bind (Slot.field? name)) (some whole)
  let value ← valueOf (readingOf whole target) content
  return Value.placeAt last value path.dropLast fields

/-- The fields of a setting that variables give one by one. -/
def nestedFields (whole : Slot) (setting : Text) (environment : Table Text Text) :
    Except Json.Failure (List (Text × Value)) :=
  (environment.entries.filterMap fun v =>
      (Text.after? (variableLead ++ setting ++ "__".toList) v.1).map fun rest =>
        (segments rest, v.2)).foldlM
    (fun fields v => placeVariable whole fields v.1 v.2) []

/-- The value that the variables give for a setting with fields, if they are about it. A
record has the fields that are given one by one laid over it. -/
def structured? (whole : Slot) (setting : Text) (environment : Table Text Text) :
    Except UnreadableVariable (Option Value) :=
  Except.mapError (UnreadableVariable.mk setting) <|
    match environment.get? (variableLead ++ setting) with
    | none => do
      let fields ← nestedFields whole setting environment
      return if fields.isEmpty then none else some (.record fields)
    | some content => do
      match ← Json.read content with
      | .null => return none
      | .record fields =>
        return some (.record (Value.overlayFields fields
          (← nestedFields whole setting environment)))
      | value => return some value

/-- A record whose fields have the spelling of the first of some names that they are
equal to but for case. -/
def respelled (names : List Text) : Value → Value
  | .record fields =>
    .record (Table.ofList (fields.map fun field =>
      ((names.find? fun n => n = field.1.map Char.toLower).getD field.1, field.2))).entries
  | value => value

/-- The settings that are switched on or off. -/
def switchNames : List Text :=
  ["json_output".toList, "quiet".toList, "verbose".toList, "log_json".toList]

/-- The settings that the variables give. -/
def settings (environment : Table Text Text) :
    Except UnreadableVariable (List (Text × Value)) := do
  let environment := lowered environment
  let switches := switchNames.filterMap fun name =>
    (environment.get? (variableLead ++ name)).map fun content => (name, Value.text content)
  let layouts ← structured? .layouts "layouts".toList environment
  let build ← structured? .build "build".toList environment
  return switches ++ (layouts.map fun value => ("layouts".toList, value)).toList ++
    (build.map fun value =>
      ("build".toList, respelled ["output".toList, "content".toList] value)).toList

end Environment

end NamedGrid
