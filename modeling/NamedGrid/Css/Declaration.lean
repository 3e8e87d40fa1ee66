import NamedGrid.Table
import NamedGrid.Text

/-!
# Declarations

A declaration is an ordered list of property and value pairs. A utility ties one to a
class.
-/

namespace NamedGrid

/-- Properties with their values, in order. -/
structure Declaration where
  properties : List (Text × Text)
  deriving DecidableEq, Repr

/-- A table of properties, no property twice. -/
abbrev Properties := Table Text Text

namespace Declaration

/-- The declaration of the pairs that have a value. -/
def ofPairs (pairs : List (Text × Option Text)) : Declaration :=
  ⟨pairs.filterMap fun pair => pair.2.map (pair.1, ·)⟩

/-- The declaration of a single property. -/
def single (property value : Text) : Declaration := ⟨[(property, value)]⟩

/-- The value of the first pair with a property. -/
def get? (d : Declaration) (property : Text) : Option Text :=
  Table.valueOf? property d.properties

/-- The declaration as a table; of two equal properties the later value counts. -/
def toTable (d : Declaration) : Properties := Table.ofList d.properties

/-- The number of pairs. -/
def size (d : Declaration) : Nat := d.properties.length

end Declaration

/-- A class, named without a leading dot, and what it declares. -/
structure Utility where
  className : Text
  declaration : Declaration
  deriving DecidableEq, Repr

/-- The selector of a class name, not yet escaped. -/
def selectorOf (className : Text) : Text := '.' :: className

namespace Utility

/-- The selector of a utility. -/
def selector (u : Utility) : Text := selectorOf u.className

end Utility

end NamedGrid
