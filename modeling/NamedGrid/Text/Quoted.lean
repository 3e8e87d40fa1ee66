import NamedGrid.Text.Printable

/-!
# Quoted text

Messages show names and rows between quotes. The mark is the apostrophe unless the
text holds apostrophes and no double quote. Inside, the mark and the backslash follow a
backslash, three layout controls have letters, and a character that is not printable
is shown by its number.
-/

namespace NamedGrid.Text

/-- The mark that encloses the quoted form. -/
def quoteMark (s : Text) : Char :=
  if s.contains '\x27' && !s.contains '"' then '"' else '\x27'

/-- One character between two quote marks. -/
def quotedChar (mark c : Char) : Text :=
  if c = mark || c = '\\' then ['\\', c]
  else if c = '\n' then ['\\', 'n']
  else if c = '\r' then ['\\', 'r']
  else if c = '\t' then ['\\', 't']
  else if isPrintable c then [c]
  else if c.toNat < 0x100 then '\\' :: 'x' :: hex 2 c.toNat
  else if c.toNat < 0x10000 then '\\' :: 'u' :: hex 4 c.toNat
  else '\\' :: 'U' :: hex 8 c.toNat

/-- The quoted form of a text, as messages show it. -/
def quoted (s : Text) : Text :=
  s.quoteMark :: s.flatMap (quotedChar s.quoteMark) ++ [s.quoteMark]

end NamedGrid.Text
