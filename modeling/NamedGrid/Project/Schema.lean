import NamedGrid.Grid.Layout

/-!
# The shape of a configuration

A configuration holds layouts, each a list of rows or a record, and the settings of a
build. Checking a value gives its shape or all of its faults, each with the place where
it stands and the reason for which it is refused.
-/

namespace NamedGrid

/-- Why a value is refused. -/
inductive Refusal
  | notList
  | notText
  | notRecord
  /-- The value is no record of the named form. -/
  | notForm (form : Text)
  /-- A field that has no default is missing. -/
  | missing
  /-- A field has a name that is not known. -/
  | unknownField
  /-- The value is of a kind that never stands for a truth value. -/
  | notTruth
  /-- The value is of a kind that may stand for a truth value, and does not. -/
  | unreadableTruth
  deriving DecidableEq, Repr

namespace Refusal

/-- The message for a refusal. -/
def message : Refusal → Text
  | notList => "Input should be a valid list".toList
  | notText => "Input should be a valid string".toList
  | notRecord => "Input should be a valid dictionary".toList
  | notForm form => "Input should be a valid dictionary or instance of ".toList ++ form
  | missing => "Field required".toList
  | unknownField => "Extra inputs are not permitted".toList
  | notTruth => "Input should be a valid boolean".toList
  | unreadableTruth => "Input should be a valid boolean, unable to interpret input".toList

end Refusal

/-- A refused value and where it stands. -/
structure ShapeFault where
  /-- The names and indices that lead to the value. -/
  place : List Text
  refusal : Refusal
  deriving DecidableEq, Repr

namespace ShapeFault

/-- The message for a fault. -/
def message (fault : ShapeFault) : Text :=
  ['.'].intercalate fault.place ++ ": ".toList ++ fault.refusal.message

/-- The message for several faults. -/
def messageOfAll (faults : List ShapeFault) : Text :=
  "; ".toList.intercalate (faults.map message)

end ShapeFault

/-- What a value stands for, or all of its faults. -/
abbrev Checked (α : Type) := Except (List ShapeFault) α

namespace Checked

/-- The refusal of a value as a whole. -/
def refuse {α : Type} (refusal : Refusal) : Checked α := .error [⟨[], refusal⟩]

/-- The result for a value that stands behind one more step. -/
def within {α : Type} (step : Text) : Checked α → Checked α
  | .ok a => .ok a
  | .error faults => .error (faults.map fun fault => { fault with place := step :: fault.place })

/-- Both results, or the faults of both. -/
def both {α β : Type} : Checked α → Checked β → Checked (α × β)
  | .ok a, .ok b => .ok (a, b)
  | .ok _, .error faults => .error faults
  | .error faults, .ok _ => .error faults
  | .error faults, .error more => .error (faults ++ more)

/-- The first result if there is one, then the second, or the faults of both. -/
def either {α : Type} : Checked α → Checked α → Checked α
  | .ok a, _ => .ok a
  | .error _, .ok a => .ok a
  | .error faults, .error more => .error (faults ++ more)

/-- The results for named values, each behind its name. -/
def each {α β : Type} (check : α → Checked β) : List (Text × α) → Checked (List (Text × β))
  | [] => .ok []
  | (name, a) :: rest =>
    (both ((check a).within name) (each check rest)).map fun found => (name, found.1) :: found.2

end Checked

namespace Schema

/-- A text. -/
def text : Value → Checked Text
  | .text s => .ok s
  | _ => .refuse .notText

/-- A text or nothing. -/
def optionalText : Value → Checked (Option Text)
  | .null => .ok none
  | value => (text value).map some

/-- A list of texts; its items are placed by their indices. -/
def texts : Value → Checked (List Text)
  | .list items =>
    (Checked.each text (items.zipIdx.map fun item => (Text.ofNat item.2, item.1))).map
      (List.map Prod.snd)
  | _ => .refuse .notList

/-- A field that must be there. -/
def required {α : Type} (check : Value → Checked α) (fields : List (Text × Value))
    (name : Text) : Checked α :=
  ((Value.field? fields name).elim (.refuse .missing) check).within name

/-- A field with a default. -/
def defaulted {α : Type} (check : Value → Checked α) (absent : α)
    (fields : List (Text × Value)) (name : Text) : Checked α :=
  ((Value.field? fields name).elim (.ok absent) check).within name

/-- No fields but those of some names. -/
def noneBut (names : List Text) (fields : List (Text × Value)) : Checked Unit :=
  (Checked.each (fun _ : Value => (.refuse .unknownField : Checked Unit))
    (fields.filter fun field => !names.contains field.1)).map fun _ => ()

/-- An optional text under several names: the first name that is present counts. -/
def optionalUnder (fields : List (Text × Value)) : List Text → Checked (Option Text)
  | [] => .ok none
  | name :: rest =>
    match Value.field? fields name with
    | some value => (optionalText value).within name
    | none => optionalUnder fields rest

end Schema

/-- A configured layout of valid shape. -/
inductive LayoutEntry
  /-- Rows alone. -/
  | rows (rows : List Text)
  /-- Rows and the sizes of tracks. -/
  | definition (rows : List Text) (rowTracks colTracks : Option Text)
  deriving DecidableEq, Repr

/-- The settings of a build. -/
structure BuildSettings where
  /-- The file to write, if one is configured. -/
  output : Option Text
  /-- The patterns of the files to scan. -/
  content : List Text
  deriving DecidableEq, Repr

/-- The value of a text that may be absent. -/
def Value.ofOptionalText : Option Text → Value
  | some s => .text s
  | none => .null

namespace LayoutEntry

/-- The form that a record of a layout has. -/
def formName : Text := "LayoutConfig".toList

/-- A record of a layout. -/
def definitionOf : Value → Checked LayoutEntry
  | .record fields =>
    (Checked.both (Schema.required Schema.texts fields "rows".toList)
      (Checked.both (Schema.optionalUnder fields rowTrackNames)
        (Schema.optionalUnder fields colTrackNames))).map
      fun found => .definition found.1 found.2.1 found.2.2
  | _ => .refuse (.notForm formName)

/-- A list of rows or a record. -/
def ofValue (value : Value) : Checked LayoutEntry :=
  Checked.either (Checked.within "list[str]".toList ((Schema.texts value).map rows))
    (Checked.within formName (definitionOf value))

/-- The value of an entry, with its tracks under their canonical names. -/
def toValue : LayoutEntry → Value
  | rows texts => .list (texts.map .text)
  | definition texts rowTracks colTracks =>
    .record
      [("rows".toList, .list (texts.map .text)),
        ("row_tracks".toList, .ofOptionalText rowTracks),
        ("col_tracks".toList, .ofOptionalText colTracks)]

end LayoutEntry

namespace BuildSettings

/-- The settings of a build for which nothing is configured. -/
def default : BuildSettings := ⟨none, []⟩

/-- A record of build settings. -/
def ofValue : Value → Checked BuildSettings
  | .record fields =>
    (Checked.both (Schema.defaulted Schema.optionalText none fields "output".toList)
      (Schema.defaulted Schema.texts [] fields "content".toList)).map
      fun found => ⟨found.1, found.2⟩
  | _ => .refuse (.notForm "BuildConfig".toList)

end BuildSettings

namespace Schema

/-- Layouts by name. -/
def layouts : Value → Checked (Table Text LayoutEntry)
  | .record fields => (Checked.each LayoutEntry.ofValue fields).map Table.ofList
  | _ => .refuse .notRecord

/-- The words for true and for false, in small letters. -/
def truthWords : List (Text × Bool) :=
  ["1", "on", "t", "true", "y", "yes"].map (fun word => (word.toList, true)) ++
    ["0", "off", "f", "false", "n", "no"].map (fun word => (word.toList, false))

/-- The truth value of a number that is one or zero. -/
def truthOfInt (n : Int) : Checked Bool :=
  if n = 1 then .ok true else if n = 0 then .ok false else .refuse .unreadableTruth

/-- Does a number lie in the range in which it may stand for a truth value? -/
def isShort (n : Int) : Bool := -Int.pow 2 63 ≤ n && n < Int.pow 2 63

/-- A truth value, or a word or number that stands for one. -/
def truth : Value → Checked Bool
  | .bool b => .ok b
  | .int n => if isShort n then truthOfInt n else .refuse .notTruth
  | .text s =>
    (Table.valueOf? (s.map Char.toLower) truthWords).elim (.refuse .unreadableTruth) .ok
  | _ => .refuse .notTruth

/-- Items that are accepted as texts are the texts that they were read as. -/
theorem each_text_ok {items : List (Text × Value)} {found : List (Text × Text)}
    (h : Checked.each text items = .ok found) :
    items = found.map fun p => (p.1, Value.text p.2) := by
  induction items generalizing found with
  | nil =>
    simp only [Checked.each, Except.ok.injEq] at h
    simp [← h]
  | cons item rest ih =>
    obtain ⟨name, value⟩ := item
    simp only [Checked.each] at h
    cases hr : Checked.each text rest with
    | error faults => cases value <;> simp [hr, text, Checked.within, Checked.refuse,
        Checked.both, Except.map] at h
    | ok tail =>
      cases value <;> simp [hr, text, Checked.within, Checked.refuse, Checked.both,
        Except.map] at h
      subst h
      simp [ih hr]

end Schema

end NamedGrid
