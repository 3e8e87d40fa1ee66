import NamedGrid.Css.Body
import NamedGrid.Utility.Set

/-!
# Deliveries

A sink receives generated utilities in deliveries: each static family as one rule
table, then each resolver family as one table of resolvers.
-/

namespace NamedGrid

/-- What a sink receives at one time. -/
inductive Delivery
  /-- A family of static rules. -/
  | rules (table : RuleTable)
  /-- A family of resolvers by stem. -/
  | resolvers (table : Table Text TableResolver)

namespace Delivery

/-- The number of entries of a delivery. -/
def size : Delivery → Nat
  | rules table => table.size
  | resolvers table => table.size

end Delivery

/-- The delivery of a resolver family. -/
def ResolverFamily.delivery (family : ResolverFamily) : Delivery :=
  .resolvers (Table.ofList (family.resolvers.map fun r => (r.1, r.2.toTables)))

/-- The deliveries of a generated set, in order. -/
def UtilitySet.deliveries (set : UtilitySet) : List Delivery :=
  (set.staticFamilies.map fun family => .rules (Utility.ruleTable family.2)) ++
    set.families.map ResolverFamily.delivery

end NamedGrid
