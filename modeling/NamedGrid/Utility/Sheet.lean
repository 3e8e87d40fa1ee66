import NamedGrid.Css.Bracketed
import NamedGrid.Css.Stylesheet
import NamedGrid.Utility.Delivery

/-!
# The stylesheet sink

A sheet collects rules under selectors that are not yet escaped. Static rules arrive in
deliveries; bracketed classes are resolved once each, through the resolvers that have
arrived. A later rule for a selector takes the place of the earlier one.
-/

namespace NamedGrid

/-- The rules and resolvers that have arrived, and the classes resolved so far. -/
structure Sheet where
  rules : RuleTable
  resolvers : Table Text TableResolver
  /-- The selectors of the resolved classes, latest last. -/
  resolved : List Text

namespace Sheet

/-- The sheet that has received nothing. -/
def empty : Sheet := ⟨.empty, .empty, []⟩

/-- Take in one delivery. -/
def receive (sheet : Sheet) : Delivery → Sheet
  | .rules table => { sheet with rules := sheet.rules.update table }
  | .resolvers table => { sheet with resolvers := sheet.resolvers.update table }

/-- Take in deliveries in order. -/
def receiveAll (sheet : Sheet) (deliveries : List Delivery) : Sheet :=
  deliveries.foldl receive sheet

/-- The body of a bracketed class, and the sheet with its rule. A class that was resolved
before keeps its rule; a stem without a resolver changes nothing. -/
def resolve (sheet : Sheet) (c : BracketedClass) : Option Body × Sheet :=
  if sheet.resolved.contains c.selector then (sheet.rules.get? c.selector, sheet)
  else
    match sheet.resolvers.get? c.stem with
    | none => (none, sheet)
    | some resolver =>
      let body := Body.ofProperties (resolver c.value)
      (some body,
        { sheet with
          rules := sheet.rules.insert c.selector body
          resolved := sheet.resolved ++ [c.selector] })

/-- Resolve classes in order. -/
def resolveAll (sheet : Sheet) (classes : List BracketedClass) : Sheet :=
  classes.foldl (fun sheet c => (sheet.resolve c).2) sheet

/-- Resolve the bracketed classes of markup. -/
def scan (sheet : Sheet) (markup : Text) : Sheet := sheet.resolveAll (bracketedClasses markup)

/-- The number of rules. -/
def ruleCount (sheet : Sheet) : Nat := sheet.rules.size

/-- The number of bracketed classes that were resolved. -/
def resolvedCount (sheet : Sheet) : Nat := sheet.resolved.length

end Sheet

end NamedGrid
