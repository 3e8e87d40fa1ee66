import NamedGrid.Decimal
import NamedGrid.Text.Quoted

/-!
# Configuration values

What a configuration file, an environment variable or a plugin hands over is a value
of no fixed shape. The checks that give it a shape name the kind they found and show
the value itself.
-/

namespace NamedGrid

/-- A value as configuration sources write it. -/
inductive Value
  | null
  | bool (truth : Bool)
  | int (number : Int)
  | decimal (number : Decimal)
  | text (content : Text)
  /-- A date, a time or both, as written. -/
  | moment (written : Text)
  | list (items : List Value)
  /-- Named values in order, no name twice. -/
  | record (fields : List (Text × Value))
  deriving Repr

namespace Value

/-- The number of digits up to which a whole number is read. -/
def digitLimit : Nat := 4300

instance : Inhabited Value := ⟨null⟩

/-- The name of a value's kind, as messages give it. -/
def kindName : Value → Text
  | null => "NoneType".toList
  | bool _ => "bool".toList
  | int _ => "int".toList
  | decimal _ => "float".toList
  | text _ => "str".toList
  | moment _ => "datetime".toList
  | list _ => "list".toList
  | record _ => "dict".toList

mutual

/-- The form in which a message shows a value. -/
def quoted : Value → Text
  | null => "None".toList
  | bool true => "True".toList
  | bool false => "False".toList
  | int n => Text.ofInt n
  | decimal d => d.shown
  | text s => s.quoted
  | moment s => s
  | list items => '[' :: quotedItems items ++ [']']
  | record fields => '\x7b' :: quotedFields fields ++ ['\x7d']

/-- The items of a list with a comma and a space between them. -/
def quotedItems : List Value → Text
  | [] => []
  | [item] => item.quoted
  | item :: rest => item.quoted ++ ", ".toList ++ quotedItems rest

/-- The fields of a record with a comma and a space between them. -/
def quotedFields : List (Text × Value) → Text
  | [] => []
  | [(name, value)] => name.quoted ++ ": ".toList ++ value.quoted
  | (name, value) :: rest =>
    name.quoted ++ ": ".toList ++ value.quoted ++ ", ".toList ++ quotedFields rest

end

/-- The plain form of a value: a text is itself, any other value its quoted form. -/
def shown : Value → Text
  | text s => s
  | value => value.quoted

/-- The value of a named field of a record. -/
def field? (fields : List (Text × Value)) (name : Text) : Option Value :=
  (fields.find? fun field => field.1 = name).map Prod.snd

/-- The text of a text value. -/
def text? : Value → Option Text
  | text s => some s
  | _ => none

end Value

end NamedGrid
