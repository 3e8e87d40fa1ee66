import NamedGrid.Text

/-!
# Class names as identifiers

In a selector a class name is an identifier. A letter, a digit, a hyphen, the low line
and every character beyond ASCII stand for themselves. A digit that would begin the
identifier, alone or after a hyphen, is written by number, and any other character
follows a backslash.
-/

namespace NamedGrid.Identifier

/-- May the character stand for itself inside an identifier? -/
def isPlain (c : Char) : Bool := c.isAlphanum || c == '_' || c == '-' || 0x80 ≤ c.toNat

/-- One character inside an identifier. -/
def escapedChar (c : Char) : Text := if isPlain c then [c] else ['\\', c]

/-- One character where an identifier begins. -/
def escapedLead (c : Char) : Text :=
  if c.isDigit then '\\' :: Text.hex 1 c.toNat ++ [' '] else escapedChar c

/-- The identifier that denotes a class name. -/
def escape : Text → Text
  | [] => []
  | '-' :: [] => ['-']
  | '-' :: c :: s => '-' :: escapedLead c ++ s.flatMap escapedChar
  | c :: s => escapedLead c ++ s.flatMap escapedChar

end NamedGrid.Identifier
