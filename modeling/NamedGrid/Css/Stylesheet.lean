import NamedGrid.Css.Body
import NamedGrid.Css.Identifier

/-!
# Stylesheets

A rule is a selector and a body in braces. Properties and nested blocks stand on lines
of their own, indented by two spaces for every enclosing block. Rules are separated by
a blank line, and a stylesheet that has rules ends with a line feed.
-/

namespace NamedGrid

/-- The indentation of a depth. -/
def indent (depth : Nat) : Text := List.replicate (2 * depth) ' '

mutual

/-- The lines of one member at a depth. -/
def Item.lines (depth : Nat) : Item → List Text
  | .property name value => [indent depth ++ name ++ ": ".toList ++ value ++ [';']]
  | .block header items =>
    (indent depth ++ header ++ [' ', '\x7b']) ::
      (Body.lines (depth + 1) items ++ [indent depth ++ ['\x7d']])

/-- The lines of a body at a depth. -/
def Body.lines (depth : Nat) : List Item → List Text
  | [] => []
  | item :: rest => Item.lines depth item ++ Body.lines depth rest

end

/-- A selector as it is written: a single class is escaped, any other selector stays. -/
def writtenSelector (selector : Text) : Text :=
  match selector with
  | '.' :: className =>
    if className.contains ' ' then selector else '.' :: Identifier.escape className
  | _ => selector

/-- The text of a rule. -/
def renderRule (selector : Text) (body : Body) : Text :=
  ['\n'].intercalate
    ((writtenSelector selector ++ [' ', '\x7b']) :: (Body.lines 1 body ++ [['\x7d']]))

/-- The text of a stylesheet. -/
def RuleTable.render (rules : RuleTable) : Text :=
  match rules.entries with
  | [] => []
  | entries => ['\n', '\n'].intercalate (entries.map fun r => renderRule r.1 r.2) ++ ['\n']

end NamedGrid
