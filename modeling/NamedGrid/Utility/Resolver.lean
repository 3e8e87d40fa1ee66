import NamedGrid.Css.Declaration
import NamedGrid.Grid.Shorthand
import NamedGrid.Utility.Static

/-!
# Resolvers

A resolver turns the value of a bracketed class into a declaration. Resolvers are
grouped into families by what they place; line values are single tokens and are used
as they are.
-/

namespace NamedGrid

/-- From a bracketed value to what it declares. -/
abbrev Resolver := Text → Declaration

/-- From a bracketed value to a table of properties. -/
abbrev TableResolver := Text → Properties

/-- A resolver that answers with a table. -/
def Resolver.toTables (resolver : Resolver) : TableResolver := fun value =>
  (resolver value).toTable

/-- The template that a bracketed value describes. -/
def resolveAreas : Resolver := fun value =>
  ⟨[("display".toList, "grid".toList), ("grid-template-areas".toList, shorthandAreas value)]⟩

/-- The placement that a bracketed value describes. -/
def resolvePlacement : Resolver := fun value =>
  Declaration.single "grid-area".toList (shorthandPlacement value)

/-- The value as it is, under one property. -/
def resolveLine (property : Text) : Resolver := Declaration.single property

/-- Resolvers by the stem of their classes, under the name of their family. -/
structure ResolverFamily where
  name : Text
  resolvers : List (Text × Resolver)

/-- The resolvers of the lines of an axis. -/
def lineResolvers (axis : Axis) : List (Text × Resolver) :=
  ["start".toList, "end".toList].map fun edge =>
    (joined axis.stem edge, resolveLine (joined axis.property edge))

/-- All resolver families in order. -/
def resolverFamilies : List ResolverFamily :=
  [⟨"grid-areas".toList, [(layoutStem, resolveAreas)]⟩,
    ⟨"grid-area".toList, [(areaStem, resolvePlacement)]⟩,
    ⟨"row-lines".toList, lineResolvers .row⟩,
    ⟨"col-lines".toList, lineResolvers .col⟩]

end NamedGrid
