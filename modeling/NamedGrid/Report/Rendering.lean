import NamedGrid.Json.Writer
import NamedGrid.Operation.Outcome
import NamedGrid.Report.Screen

/-!
# Rendering outcomes

An outcome is shown as JSON for programs, as few words for scripts, or as text for a
reader. Only the text depends on the operation; it can fail if the data of an outcome do
not have the form that the operation gives them.
-/

namespace NamedGrid

/-- The forms in which an outcome is shown. -/
inductive OutputForm
  | json
  | brief
  | text (verbose : Bool)
  deriving DecidableEq, Repr

/-- The form that switches ask for: JSON before brevity, brevity before text. -/
def Switches.form (switches : Switches) : OutputForm :=
  if switches.jsonOutput then .json
  else if switches.quiet then .brief
  else .text switches.verbose

/-- Why data cannot be shown. -/
inductive RenderError
  /-- An item has no such field. -/
  | missingField
  /-- A value is of a kind from which no items or fields can be taken. -/
  | unsuitable
  /-- What should be printed is not a text. -/
  | notText
  deriving DecidableEq, Repr

namespace Value

/-- Does a value count as absent: null, false, zero, or without content? -/
def isVoid : Value → Bool
  | null => true
  | bool b => !b
  | int n => n == 0
  | decimal (.finite _ 0 _) => true
  | decimal _ => false
  | text s => s.isEmpty
  | moment _ => false
  | list items => items.isEmpty
  | record fields => fields.isEmpty

/-- The field of an item. -/
def fieldOf (name : Text) : Value → Except RenderError Value
  | record fields =>
    match field? fields name with
    | some value => .ok value
    | none => .error .missingField
  | _ => .error .unsuitable

/-- The texts that a value consists of: the items of a list, the characters of a text, the
names of a record. -/
def partTexts : Value → Except RenderError (List Text)
  | list items =>
    items.mapM fun
      | text s => .ok s
      | _ => .error .unsuitable
  | text s => .ok (s.map fun c => [c])
  | record fields => .ok (fields.map Prod.fst)
  | _ => .error .unsuitable

end Value

namespace Outcome

/-- The message of a failure, also if there is none. -/
def failureMessage (outcome : Outcome) : Text :=
  match outcome.failure with
  | some failure => failure.message
  | none => "Unknown error".toList

/-- The name of an item: its area, or else its class. -/
def itemName : Value → Text
  | .record fields =>
    let named := [("area".toList : Text), "class".toList].filterMap fun name =>
      match Value.field? fields name with
      | some .null => none
      | found => found
    (named.head?.map Value.shown).getD []
  | _ => []

/-- The outcome in few words: the names of its items, or whether it succeeded. -/
def brief (outcome : Outcome) : Text :=
  if outcome.succeeded then
    match Value.field? outcome.data "items".toList with
    | some (.list (item :: rest)) =>
      ['\n'].intercalate (((item :: rest).map itemName).filter fun name => !name.isEmpty)
    | _ => "OK: ".toList ++ outcome.operation
  else "ERROR: ".toList ++ outcome.operation ++ " - ".toList ++ outcome.failureMessage

/-- A line for one value. -/
def fieldLine (name : Text) (value : Value) : Text :=
  "  ".toList ++ name ++ ": ".toList ++ value.shown

/-- The lines for a failed operation; a verbose reader gets the details. -/
def failureLines (verbose : Bool) (outcome : Outcome) : List Text :=
  ("ERROR  ".toList ++ outcome.operation ++ "  ".toList ++ outcome.failureMessage) ::
    if verbose then
      ((outcome.failure.map Failure.detail).getD []).map fun field =>
        fieldLine field.1 field.2
    else []

/-- The first line for an operation that succeeded. -/
def statusLine (outcome : Outcome) : Text := "OK  ".toList ++ outcome.operation

/-- The keys of the data of a build, in the order of their lines. -/
def buildKeys : List Text :=
  ["layouts".toList, "areas".toList, "rules".toList, "arbitrary".toList,
    "files_scanned".toList, "output".toList]

/-- The lines for a build. -/
def buildLines (outcome : Outcome) : List Text :=
  outcome.statusLine :: buildKeys.filterMap fun key =>
    (Value.field? outcome.data key).map (fieldLine key)

/-- A value in the lines of an operation without a form of its own: lists and records are
written as compact JSON. -/
def compacted : Value → Value
  | .list items => .text (Json.compact (.list items))
  | .record fields => .text (Json.compact (.record fields))
  | value => value

/-- The lines for an operation without a form of its own. -/
def plainLines (outcome : Outcome) : List Text :=
  outcome.statusLine :: outcome.data.map fun field => fieldLine field.1 (compacted field.2)

/-- The cells for an area. -/
def areaCells (verbose : Bool) (item : Value) : Except RenderError (List Text) := do
  let area ←
    match ← item.fieldOf "area".toList with
    | .text s => .ok s
    | _ => .error .unsuitable
  let layouts ← (← item.fieldOf "layouts".toList).partTexts
  let shown := [area, ", ".toList.intercalate layouts]
  if verbose then
    let classes ← (← item.fieldOf "classes".toList).partTexts
    return (shown ++ [[' '].intercalate classes]).map Screen.cellText
  else return shown.map Screen.cellText

/-- The table of areas, or a hint if there are none. -/
def areasText (verbose : Bool) (outcome : Outcome) : Except RenderError Text :=
  let items := (Value.field? outcome.data "items".toList).getD (.list [])
  if items.isVoid then
    .ok "No areas defined. Add layouts under [layouts] in gridareas.toml.".toList
  else
    match items with
    | .list items => do
      let rows ← items.mapM (areaCells verbose)
      let head := ["Area".toList, "Layouts".toList] ++ if verbose then ["Classes".toList] else []
      return Screen.table ("Grid areas (".toList ++ Text.ofNat items.length ++ [')']) head rows
    | _ => .error .unsuitable

/-- The rule of an item. -/
def itemRule (item : Value) : Except RenderError Text := do
  match ← item.fieldOf "css".toList with
  | .text s => .ok (Screen.unwrapped s)
  | _ => .error .notText

/-- The rules of classes that were looked up, with a blank line between them. -/
def rulesText (outcome : Outcome) : Except RenderError Text :=
  match (Value.field? outcome.data "items".toList).getD (.list []) with
  | .list items => (items.mapM itemRule).map ("\n\n".toList.intercalate ·)
  | .text [] => .ok []
  | .record [] => .ok []
  | _ => .error .unsuitable

/-- Lines as they are printed. -/
def printedLines (lines : List Text) : Text := ['\n'].intercalate (lines.map Screen.wrapped)

/-- The outcome as text for a reader. -/
def text (verbose : Bool) (outcome : Outcome) : Except RenderError Text :=
  Screen.trimEnd <$>
    if !outcome.succeeded then .ok (printedLines (outcome.failureLines verbose))
    else if outcome.operation = buildOperation then .ok (printedLines outcome.buildLines)
    else if outcome.operation = areasOperation then outcome.areasText verbose
    else if outcome.operation = resolveOperation then outcome.rulesText
    else .ok (printedLines outcome.plainLines)

/-- The outcome in a form. -/
def render (outcome : Outcome) : OutputForm → Except RenderError Text
  | .json => .ok (Json.indented 0 outcome.toValue)
  | .brief => .ok outcome.brief
  | .text verbose => outcome.text verbose

end Outcome

end NamedGrid
