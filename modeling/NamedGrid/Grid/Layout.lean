import NamedGrid.Grid.Fault
import NamedGrid.Table

/-!
# Layouts

A layout is configured as a list of rows or as a record with rows and track sizes.
Both shapes give the same kind of layout; unknown fields of a record are ignored.
-/

namespace NamedGrid

/-- A named layout: its rows in order and the sizes of its tracks, where given. -/
structure Layout where
  name : Text
  rows : List Text
  rowTracks : Option Text
  colTracks : Option Text
  deriving DecidableEq, Repr

/-- Where a layout comes from. -/
inductive LayoutSource
  /-- A layout that is already in its final shape. -/
  | settled (layout : Layout)
  /-- A value that still has to be given a shape. -/
  | raw (value : Value)
  deriving Repr

/-- Layout sources by name, in order. -/
abbrev LayoutSources := Table Text LayoutSource

/-- The spellings of the row track field, the canonical one first. -/
def rowTrackNames : List Text :=
  ["row_tracks".toList, "grid-template-rows".toList, "gridTemplateRows".toList]

/-- The spellings of the column track field, the canonical one first. -/
def colTrackNames : List Text :=
  ["col_tracks".toList, "grid-template-columns".toList, "gridTemplateColumns".toList]

namespace Layout

/-- The shown form of the first field that is present and not null. -/
def firstPresent (fields : List (Text × Value)) : List Text → Option Text
  | [] => none
  | name :: rest =>
    match Value.field? fields name with
    | none => firstPresent fields rest
    | some .null => firstPresent fields rest
    | some value => some value.shown

/-- The rows of a list from an index on; the first item that is not a text is blamed. -/
def rowTexts (name : Text) (index : Nat) : List Value → Except LayoutFault (List Text)
  | [] => .ok []
  | .text row :: rest => (rowTexts name (index + 1) rest).map (row :: ·)
  | item :: _ => .error (.rowNotText name index item)

/-- The rows that a value stands for. -/
def rowsOf (name : Text) : Value → Except LayoutFault (List Text)
  | .list items => rowTexts name 0 items
  | value => .error (.rowsNotList name value)

/-- The layout that a value configures under a name. -/
def ofValue (name : Text) : Value → Except LayoutFault Layout
  | .record fields =>
    (rowsOf name ((Value.field? fields "rows".toList).getD .null)).map fun rows =>
      { name, rows
        rowTracks := firstPresent fields rowTrackNames
        colTracks := firstPresent fields colTrackNames }
  | value =>
    (rowsOf name value).map fun rows => { name, rows, rowTracks := none, colTracks := none }

/-- The layout of a source under a name; a settled one keeps the name it has. -/
def ofSource (name : Text) : LayoutSource → Except LayoutFault Layout
  | .settled layout => .ok layout
  | .raw value => ofValue name value

/-- The layouts of all sources in order. -/
def ofSources (sources : LayoutSources) : Except LayoutFault (List Layout) :=
  sources.entries.mapM fun entry => ofSource entry.1 entry.2

/-- A layout of a value has the name it was configured under. -/
theorem name_ofValue {name : Text} {value : Value} {layout : Layout}
    (h : ofValue name value = .ok layout) : layout.name = name := by
  unfold ofValue at h
  split at h <;> simp only [Except.map] at h <;> split at h <;> cases h <;> rfl

end Layout

end NamedGrid
