import NamedGrid.Value

/-!
# Malformed layouts

The causes for which configured rows have no `grid-template-areas` value, the layout
and the row they blame, and the message of each.
-/

namespace NamedGrid

/-- Why configured rows cannot be written as a template. -/
inductive LayoutFault
  /-- A row on its own has no cells. -/
  | blankRow (row : Text)
  /-- The row at an index has no cells. -/
  | blankRowAt (layout : Option Text) (index : Nat)
  /-- There are no rows. -/
  | noRows (layout : Option Text)
  /-- The rows are not a list. -/
  | rowsNotList (layout : Text) (rows : Value)
  /-- The row at an index is not a text. -/
  | rowNotText (layout : Text) (index : Nat) (row : Value)
  deriving Repr

namespace LayoutFault

/-- The layout that is blamed, if the rows came with a name. -/
def layout? : LayoutFault → Option Text
  | blankRow _ => none
  | blankRowAt layout _ => layout
  | noRows layout => layout
  | rowsNotList layout _ => some layout
  | rowNotText layout _ _ => some layout

/-- The index of the row that is blamed, if it is one row. -/
def row? : LayoutFault → Option Nat
  | blankRowAt _ index => some index
  | rowNotText _ index _ => some index
  | _ => none

/-- The word for the layout in a message; a layout without a name, or with an empty one,
is not named. -/
def subject : Option Text → Text
  | none => "Layout".toList
  | some [] => "Layout".toList
  | some name => "Layout ".toList ++ name.quoted

/-- The message for a malformed layout. -/
def message : LayoutFault → Text
  | blankRow row => "Empty row in layout: ".toList ++ row.quoted
  | blankRowAt layout index =>
    subject layout ++ " has an empty row at index ".toList ++ Text.ofNat index
  | noRows layout => subject layout ++ " has no rows".toList
  | rowsNotList layout rows =>
    "Layout ".toList ++ layout.quoted ++ " rows must be a list of strings, got ".toList ++
      rows.kindName
  | rowNotText layout index row =>
    "Layout ".toList ++ layout.quoted ++ " row ".toList ++ Text.ofNat index ++
      " is not a string: ".toList ++ row.quoted

end LayoutFault

end NamedGrid
