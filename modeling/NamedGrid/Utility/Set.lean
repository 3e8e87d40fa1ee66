import NamedGrid.Grid.Area
import NamedGrid.Utility.Resolver

/-!
# Generated utilities

One pass over the configured layouts gives all utilities. Reserved words win: a layout
named like a keyword is left out, an area named like one gets no placement class of its
own, and both are reported as warnings.
-/

namespace NamedGrid

/-- Everything that one generation pass gives. -/
structure UtilitySet where
  /-- The layouts in order, keyword names included. -/
  layouts : List Layout
  layoutUtilities : List Utility
  placementUtilities : List Utility
  lineUtilities : List Utility
  /-- The areas of all layouts with the layouts that mention them. -/
  areas : AreaIndex
  families : List ResolverFamily
  warnings : List Text

/-- The warning for a layout that a keyword displaces. -/
def layoutWarning (name : Text) : Text :=
  "Layout ".toList ++ name.quoted ++ " collides with a reserved keyword and was skipped".toList

/-- The warning for an area whose placement a keyword displaces. -/
def areaWarning (area : Text) : Text :=
  "Area ".toList ++ area.quoted ++ " collides with a reserved keyword; grid-area-".toList ++ area ++
    " keeps its keyword meaning".toList

namespace UtilitySet

/-- The areas of layouts, each with the layouts that mention it. -/
def indexOf (layouts : List Layout) : AreaIndex :=
  layouts.foldl (fun index layout => index.add layout.name layout.rows) .empty

/-- The utilities of layouts, whose own utilities are given beside them. -/
def assemble (layouts : List Layout) (utilities : List Utility) : UtilitySet :=
  let index := indexOf layouts
  { layouts
    layoutUtilities :=
      ((layouts.zip utilities).filter fun p => !wideKeywords.contains p.1.name).map Prod.snd ++
        keywordLayoutUtilities
    placementUtilities :=
      (index.names.filter fun area => !areaKeywords.contains area).map placementUtility ++
        keywordPlacementUtilities
    lineUtilities := index.names.flatMap NamedGrid.lineUtilities
    areas := index
    families := resolverFamilies
    warnings :=
      ((layouts.map Layout.name).filter wideKeywords.contains).map layoutWarning ++
        (index.names.filter areaKeywords.contains).map areaWarning }

/-- The utilities of configured layouts. Every layout is checked, also one that a keyword
displaces, and all shapes before any row. -/
def generate (sources : LayoutSources) : Except LayoutFault UtilitySet := do
  let layouts ← Layout.ofSources sources
  let utilities ← layouts.mapM layoutUtility
  return assemble layouts utilities

/-- The layouts that have a class of their own. -/
def emittedLayouts (set : UtilitySet) : List Layout :=
  set.layouts.filter fun layout => !wideKeywords.contains layout.name

/-- The static families in order, under their names. -/
def staticFamilies (set : UtilitySet) : List (Text × List Utility) :=
  [("layouts".toList, set.layoutUtilities), ("placements".toList, set.placementUtilities),
    ("lines".toList, set.lineUtilities)]

/-- All static utilities in order. -/
def staticUtilities (set : UtilitySet) : List Utility :=
  set.layoutUtilities ++ set.placementUtilities ++ set.lineUtilities

/-- The areas in first-seen order. -/
def areaNames (set : UtilitySet) : List Text := set.areas.names

/-- The first static utility of a class. -/
def find? (set : UtilitySet) (className : Text) : Option Utility :=
  set.staticUtilities.find? fun u => u.className = className

/-- The resolver of a stem in the first family that has one. -/
def resolver? (set : UtilitySet) (stem : Text) : Option Resolver :=
  set.families.findSome? fun family => Table.valueOf? stem family.resolvers

/-- What a stem and a bracketed value declare, if a resolver knows the stem. -/
def resolve (set : UtilitySet) (stem value : Text) : Option Declaration :=
  (set.resolver? stem).map fun resolver => resolver value

end UtilitySet

end NamedGrid
