import NamedGrid.Grid.Row

/-!
# The bracket shorthand

A class name carries rows in brackets: the low line stands for the space between two
cells and the comma ends a row. A `var(...)` reference is left unquoted, whether it is
the whole value or stands somewhere in a row. The shorthand has no errors.
-/

namespace NamedGrid

/-- The opening of a reference to a custom property. -/
def referenceOpening : Text := "var(".toList

/-- Is the trimmed value one reference and nothing else? It runs to the last parenthesis,
and a line feed inside ends it. -/
def isReference (value : Text) : Bool :=
  match Text.after? referenceOpening value.trim with
  | none => false
  | some rest => rest.getLast? == some ')' && !Text.hasNewline rest.dropLast

/-- Does a text contain a reference that is closed on the same line? -/
def holdsReference : Text → Bool
  | [] => false
  | c :: s =>
    (match Text.after? referenceOpening (c :: s) with
      | some rest => (rest.takeWhile fun d => d ≠ '\n').contains ')'
      | none => false) || holdsReference s

/-- The text with every low line exchanged for a space. -/
def withSpaces (value : Text) : Text := value.exchange '_' ' '

/-- One row of the shorthand: quoted unless it contains a reference. -/
def shorthandRow (row : Text) : Text :=
  let shown := (withSpaces row).trim
  if holdsReference shown then shown else inQuotes shown

/-- The `grid-template-areas` value of a bracketed value. -/
def shorthandAreas (value : Text) : Text :=
  if isReference value then value.trim else spaced ((value.splitOn ',').map shorthandRow)

/-- The `grid-area` value of a bracketed value. -/
def shorthandPlacement (value : Text) : Text := withSpaces value

end NamedGrid
