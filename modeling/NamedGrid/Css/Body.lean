import NamedGrid.Css.Declaration

/-!
# Bodies and rule tables

A body lists properties and nested blocks, which is how rules for a medium arrive. A
rule table holds one body under each selector.
-/

namespace NamedGrid

/-- One member of a body: a property or a nested block. -/
inductive Item
  | property (name value : Text)
  | block (header : Text) (items : List Item)
  deriving Repr

/-- The members of a block in order. -/
abbrev Body := List Item

namespace Item

/-- The name under which a body holds the member. -/
def key : Item → Text
  | property name _ => name
  | block header _ => header

end Item

namespace Body

/-- Add a member; one with the same name gives up its place to it. -/
def put (item : Item) : Body → Body
  | [] => [item]
  | other :: rest => if other.key = item.key then item :: rest else other :: put item rest

/-- The body of members added one after the other. -/
def ofItems (items : List Item) : Body := items.foldl (fun body item => put item body) []

/-- The body that lists properties. -/
def ofProperties (properties : Properties) : Body :=
  properties.entries.map fun p => .property p.1 p.2

end Body

/-- Selectors, not yet escaped, with the bodies of their rules. -/
abbrev RuleTable := Table Text Body

/-- The rule table of utilities; of two with one selector the later one counts. -/
def Utility.ruleTable (utilities : List Utility) : RuleTable :=
  Table.ofList (utilities.map fun u => (u.selector, Body.ofProperties u.declaration.toTable))

end NamedGrid
