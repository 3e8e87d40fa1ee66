import NamedGrid.Css.Bracketed
import NamedGrid.Css.Stylesheet
import NamedGrid.Operation.Session

/-!
# Listing areas and looking classes up

Both reports read a generation pass and change nothing. A class that is looked up may be
written with a leading dot; it is a static class or a bracketed one, and any other is
reported in a warning.
-/

namespace NamedGrid

/-- One area with the layouts that mention it and the classes that it gives. -/
structure AreaListing where
  area : Text
  layouts : List Text
  classes : List Text
  deriving DecidableEq, Repr

/-- What a listing of areas reports. -/
structure AreasReport where
  areas : List AreaListing
  layouts : List Layout

/-- A class with what it declares. -/
structure ResolvedClass where
  className : Text
  properties : Properties

namespace ResolvedClass

/-- The rule of the class. -/
def css (resolved : ResolvedClass) : Text :=
  renderRule (selectorOf resolved.className) (Body.ofProperties resolved.properties)

end ResolvedClass

/-- The stems of the classes that every area gives. -/
def areaStems : List Text :=
  areaStem :: [Axis.row, Axis.col].flatMap fun axis =>
    ["start".toList, "end".toList, "span".toList].map (joined axis.stem)

namespace UtilitySet

/-- The areas of a set with their layouts and classes. -/
def areaListings (set : UtilitySet) : List AreaListing :=
  set.areaNames.map fun area =>
    ⟨area, set.areas.layoutsOf area, areaStems.map fun stem => joined stem area⟩

/-- What a class declares: a static class comes first, then a bracketed one. -/
def lookUp? (set : UtilitySet) (className : Text) : Option Properties :=
  match set.find? className with
  | some utility => some utility.declaration.toTable
  | none => do
    let bracketed ← BracketedClass.parse? className
    let declaration ← set.resolve bracketed.stem bracketed.value
    return declaration.toTable

/-- The outcome for one class as it is written: the class resolved, or the name of a class
that nothing declares. -/
def lookUpWritten (set : UtilitySet) (written : Text) : Except Text ResolvedClass :=
  let className := Text.without ['.'] written
  match set.lookUp? className with
  | some properties => .ok ⟨className, properties⟩
  | none => .error className

end UtilitySet

/-- The warning about a class that nothing declares. -/
def unknownClassWarning (className : Text) : Text :=
  "Not a grid-areas utility: ".toList ++ className

namespace Session

/-- List the areas of all layouts. -/
def listAreas (session : Session) : Done (Answer AreasReport) :=
  session.reporting fun generation =>
    (⟨generation.set.areaListings, generation.set.layouts⟩, [])

/-- Look classes up, in order. -/
def resolve (session : Session) (classes : List Text) : Done (Answer (List ResolvedClass)) :=
  session.reporting fun generation =>
    let outcomes := classes.map generation.set.lookUpWritten
    (outcomes.filterMap fun
        | .ok resolved => some resolved
        | .error _ => none,
      outcomes.filterMap fun
        | .ok _ => none
        | .error className => some (unknownClassWarning className))

end Session

end NamedGrid
