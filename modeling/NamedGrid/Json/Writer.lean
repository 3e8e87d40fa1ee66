import NamedGrid.Value

/-!
# Writing JSON

Two layouts of the same values: a compact one in ASCII alone, and an indented one for
readers, in which characters beyond ASCII stand for themselves.
-/

namespace NamedGrid.Json

/-- A code unit by number. -/
def unitEscape (unit : Nat) : Text := '\\' :: 'u' :: Text.hex 4 unit

/-- The escape of a character that no string may hold. -/
def controlEscape? (c : Char) : Option Text :=
  if c = '"' then some ['\\', '"']
  else if c = '\\' then some ['\\', '\\']
  else if c = '\n' then some ['\\', 'n']
  else if c = '\r' then some ['\\', 'r']
  else if c = '\t' then some ['\\', 't']
  else if c = '\x08' then some ['\\', 'b']
  else if c = '\x0c' then some ['\\', 'f']
  else if c.toNat < 0x20 then some (unitEscape c.toNat)
  else none

/-- One character of a string where all of Unicode may stand. -/
def charText (c : Char) : Text := (controlEscape? c).getD [c]

/-- One character of a string where ASCII alone may stand. -/
def charAscii (c : Char) : Text :=
  (controlEscape? c).getD <|
    if c.toNat < 0x7f then [c]
    else if c.toNat < 0x10000 then unitEscape c.toNat
    else
      let offset := c.toNat - 0x10000
      unitEscape (0xD800 + offset / 0x400) ++ unitEscape (0xDC00 + offset % 0x400)

/-- A string, written with one way to show a character. -/
def stringWith (char : Char → Text) (s : Text) : Text := '"' :: s.flatMap char ++ ['"']

/-- A value that is no list or object. -/
def scalarWith (char : Char → Text) : Value → Text
  | .null => "null".toList
  | .bool true => "true".toList
  | .bool false => "false".toList
  | .int n => Text.ofInt n
  | .decimal (.finite negative digits power) => (Decimal.finite negative digits power).shown
  | .decimal (.infinite false) => "Infinity".toList
  | .decimal (.infinite true) => "-Infinity".toList
  | .decimal .undefined => "NaN".toList
  | .text s => stringWith char s
  | .moment s => stringWith char s
  | .list _ => []
  | .record _ => []

mutual

/-- A value without any white space, in ASCII. -/
def compact : Value → Text
  | .list items => '[' :: compactItems items ++ [']']
  | .record fields => '\x7b' :: compactFields fields ++ ['\x7d']
  | value => scalarWith charAscii value

/-- The items of a list, separated by commas. -/
def compactItems : List Value → Text
  | [] => []
  | [item] => compact item
  | item :: rest => compact item ++ ',' :: compactItems rest

/-- The fields of an object, separated by commas. -/
def compactFields : List (Text × Value) → Text
  | [] => []
  | [(name, value)] => stringWith charAscii name ++ ':' :: compact value
  | (name, value) :: rest =>
    stringWith charAscii name ++ ':' :: compact value ++ ',' :: compactFields rest

end

/-- A line feed and the indentation of a depth. -/
def newLine (depth : Nat) : Text := '\n' :: List.replicate (2 * depth) ' '

mutual

/-- A value with every item and field on a line of its own. -/
def indented (depth : Nat) : Value → Text
  | .list [] => ['[', ']']
  | .list items => '[' :: indentedItems (depth + 1) items ++ newLine depth ++ [']']
  | .record [] => ['\x7b', '\x7d']
  | .record fields => '\x7b' :: indentedFields (depth + 1) fields ++ newLine depth ++ ['\x7d']
  | value => scalarWith charText value

/-- The items of a list at a depth. -/
def indentedItems (depth : Nat) : List Value → Text
  | [] => []
  | [item] => newLine depth ++ indented depth item
  | item :: rest => newLine depth ++ indented depth item ++ ',' :: indentedItems depth rest

/-- The fields of an object at a depth. -/
def indentedFields (depth : Nat) : List (Text × Value) → Text
  | [] => []
  | [(name, value)] =>
    newLine depth ++ stringWith charText name ++ ": ".toList ++ indented depth value
  | (name, value) :: rest =>
    newLine depth ++ stringWith charText name ++ ": ".toList ++ indented depth value ++
      ',' :: indentedFields depth rest

end

end NamedGrid.Json
