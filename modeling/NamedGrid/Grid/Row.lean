import NamedGrid.Grid.Fault
import NamedGrid.Text.Blank

/-!
# Rows of a template

A row is a text of cells between blanks. In a template each row stands between double
quotes with one space between its cells, and the rows are joined by single spaces.
-/

namespace NamedGrid

/-- The cells of a row. -/
def cells (row : Text) : List Text := row.words

/-- Texts between which one space stands. -/
def spaced (parts : List Text) : Text := [' '].intercalate parts

/-- A text between double quotes. -/
def inQuotes (s : Text) : Text := '"' :: s ++ ['"']

/-- A row of a template, unless it has no cells. -/
def quotedRow? (row : Text) : Option Text :=
  match cells row with
  | [] => none
  | cs => some (inQuotes (spaced cs))

/-- A single row of a template. -/
def quotedRow (row : Text) : Except LayoutFault Text :=
  match quotedRow? row with
  | some quoted => .ok quoted
  | none => .error (.blankRow row)

/-- The rows of a template from an index on; the first row without cells is blamed. -/
def quotedRows (layout : Option Text) (index : Nat) : List Text → Except LayoutFault (List Text)
  | [] => .ok []
  | row :: rest =>
    match quotedRow? row with
    | none => .error (.blankRowAt layout index)
    | some quoted => (quotedRows layout (index + 1) rest).map (quoted :: ·)

/-- The `grid-template-areas` value of rows, for the layout that messages name. -/
def templateAreas (layout : Option Text) (rows : List Text) : Except LayoutFault Text :=
  match quotedRows layout 0 rows with
  | .error fault => .error fault
  | .ok [] => .error (.noRows layout)
  | .ok quoted => .ok (spaced quoted)

/-- A row is refused exactly when it has no cells. -/
theorem quotedRow?_eq_none_iff {row : Text} : quotedRow? row = none ↔ cells row = [] := by
  unfold quotedRow?
  split
  · rename_i h
    simp [h]
  · rename_i h
    simpa using h

end NamedGrid
