import NamedGrid.Grid.Keyword
import NamedGrid.Grid.Row
import NamedGrid.Table

/-!
# Areas

The areas of a layout are its cells other than the empty ones, each once, in the order
in which they are first seen. An index of areas keeps, over several layouts, which of
them mention each area.
-/

namespace NamedGrid

/-- The distinct areas of rows, in first-seen order. -/
def areaNames (rows : List Text) : List Text :=
  ((rows.flatMap cells).filter fun cell => !emptyCells.contains cell).eraseDups

/-- The areas seen so far, each with the layouts that mention it. -/
structure AreaIndex where
  /-- The layouts under each area, in the order in which they were added. -/
  layouts : Table Text (List Text)

namespace AreaIndex

/-- The index of no layouts. -/
def empty : AreaIndex := ⟨.empty⟩

/-- Note one layout under one area. -/
def note (layout : Text) (index : AreaIndex) (area : Text) : AreaIndex :=
  ⟨index.layouts.alter area fun known => known.getD [] ++ [layout]⟩

/-- Add the rows of one layout. -/
def add (index : AreaIndex) (layout : Text) (rows : List Text) : AreaIndex :=
  (areaNames rows).foldl (note layout) index

/-- All areas in first-seen order. -/
def names (index : AreaIndex) : List Text := index.layouts.keys

/-- The layouts that mention an area. -/
def layoutsOf (index : AreaIndex) (area : Text) : List Text :=
  (index.layouts.get? area).getD []

/-- Is the area known? -/
def contains (index : AreaIndex) (area : Text) : Bool := index.layouts.contains area

/-- The number of areas. -/
def size (index : AreaIndex) : Nat := index.layouts.size

end AreaIndex

/-- An area is a cell that is not an empty one. -/
theorem mem_areaNames {rows : List Text} {area : Text} :
    area ∈ areaNames rows ↔ (∃ row ∈ rows, area ∈ cells row) ∧ area ∉ emptyCells := by
  simp [areaNames, List.mem_eraseDups]

end NamedGrid
