import NamedGrid.Css.Declaration
import NamedGrid.Grid.Keyword
import NamedGrid.Grid.Layout
import NamedGrid.Grid.Row

/-!
# Static utilities

A layout gives one class with its template. An area `x` gives a class that places an
element and, because it defines the lines `x-start` and `x-end`, three line classes
for each axis. Every reserved word has classes of its own.
-/

namespace NamedGrid

/-- The stem of layout classes. -/
def layoutStem : Text := "grid-areas".toList

/-- The stem of placement classes. -/
def areaStem : Text := "grid-area".toList

/-- A class name made of a stem and a name. -/
def joined (stem name : Text) : Text := stem ++ '-' :: name

/-- The two axes of a grid. -/
inductive Axis
  | row
  | col
  deriving DecidableEq, Repr

namespace Axis

/-- The word for an axis in class names. -/
def stem : Axis → Text
  | row => "row".toList
  | col => "col".toList

/-- The property that places an element on an axis. -/
def property : Axis → Text
  | row => "grid-row".toList
  | col => "grid-column".toList

end Axis

/-- The utility of a layout; tracks that are absent or empty are left out. -/
def layoutUtility (layout : Layout) : Except LayoutFault Utility :=
  (templateAreas (some layout.name) layout.rows).map fun areas =>
    { className := joined layoutStem layout.name
      declaration := Declaration.ofPairs
        [("display".toList, some "grid".toList),
          ("grid-template-areas".toList, some areas),
          ("grid-template-rows".toList, layout.rowTracks.filter fun t => !t.isEmpty),
          ("grid-template-columns".toList, layout.colTracks.filter fun t => !t.isEmpty)] }

/-- The layout class of a keyword. -/
def keywordLayoutUtility (keyword : Text) : Utility :=
  ⟨joined layoutStem keyword,
    ⟨[("display".toList, "grid".toList), ("grid-template-areas".toList, keyword)]⟩⟩

/-- The class that places an element in an area, or by a keyword. -/
def placementUtility (area : Text) : Utility :=
  ⟨joined areaStem area, Declaration.single "grid-area".toList area⟩

/-- The line with which an area starts. -/
def startLine (area : Text) : Text := area ++ "-start".toList

/-- The line with which an area ends. -/
def endLine (area : Text) : Text := area ++ "-end".toList

/-- The start, end and span classes of an area on one axis. -/
def axisUtilities (area : Text) (axis : Axis) : List Utility :=
  [⟨joined (joined axis.stem "start".toList) area,
      Declaration.single (joined axis.property "start".toList) (startLine area)⟩,
    ⟨joined (joined axis.stem "end".toList) area,
      Declaration.single (joined axis.property "end".toList) (endLine area)⟩,
    ⟨joined (joined axis.stem "span".toList) area,
      Declaration.single axis.property (startLine area ++ " / ".toList ++ endLine area)⟩]

/-- The six line classes of an area. -/
def lineUtilities (area : Text) : List Utility :=
  axisUtilities area .row ++ axisUtilities area .col

/-- The layout classes of all keywords. -/
def keywordLayoutUtilities : List Utility := wideKeywords.map keywordLayoutUtility

/-- The placement classes of all keywords. -/
def keywordPlacementUtilities : List Utility := areaKeywords.map placementUtility

end NamedGrid
