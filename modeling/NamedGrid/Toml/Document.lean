import NamedGrid.Table
import NamedGrid.Value

/-!
# Tables of a configuration document

A document is a tree of tables. A table remembers how it came to be, because only a
table that was merely passed through may still be opened by a header, and keys with
dots may add to a table only while the section that made it lasts. Values, lists and
inline tables are closed.
-/

namespace NamedGrid.Toml

/-- How a table came to be. -/
inductive Origin
  /-- It stands above a table that has a header. -/
  | passed
  /-- It has a header of its own. -/
  | header
  /-- Dotted keys made it in the section of a number. -/
  | dotted (number : Nat)
  deriving DecidableEq, Repr

/-- What stands under a key of a document. -/
inductive Node
  | value (content : Value)
  | table (origin : Origin) (children : List (Text × Node))
  /-- Tables with one header after the other, the open one last. -/
  | tables (items : List (List (Text × Node)))

/-- The keys of a table with what stands under them, in order. -/
abbrev Children := List (Text × Node)

mutual

/-- The value of a node. -/
def Node.toValue : Node → Value
  | .value content => content
  | .table _ children => .record (childValues children)
  | .tables items => .list (itemValues items)

/-- The values of children. -/
def childValues : List (Text × Node) → List (Text × Value)
  | [] => []
  | (key, node) :: rest => (key, node.toValue) :: childValues rest

/-- The values of tables in a list. -/
def itemValues : List (List (Text × Node)) → List Value
  | [] => []
  | item :: rest => .record (childValues item) :: itemValues rest

end

/-- Change the table under a path, which is made where it is missing. A path leads into
the open table of a list and into no value. -/
def within (path : List Text) (change : Children → Option Children) (here : Children) :
    Option Children :=
  match path with
  | [] => change here
  | key :: rest =>
    match Table.valueOf? key here with
    | none => (within rest change []).map fun new => Table.place key (.table .passed new) here
    | some (.table origin children) =>
      (within rest change children).map fun new => Table.place key (.table origin new) here
    | some (.tables items) =>
      match items.getLast? with
      | none => none
      | some last =>
        (within rest change last).map fun new =>
          Table.place key (.tables (items.dropLast ++ [new])) here
    | some (.value _) => none

/-- Open the table of a header, which no header or dotted key has made before. -/
def openTable (key : Text) (here : Children) : Option Children :=
  match Table.valueOf? key here with
  | none => some (Table.place key (.table .header []) here)
  | some (.table .passed children) => some (Table.place key (.table .header children) here)
  | some _ => none

/-- Open one more table of a list. -/
def appendTable (key : Text) (here : Children) : Option Children :=
  match Table.valueOf? key here with
  | none => some (Table.place key (.tables [[]]) here)
  | some (.tables items) => some (Table.place key (.tables (items ++ [[]])) here)
  | some _ => none

/-- Write a value under a key that may have dots. No key is written twice, and only a
table that was passed through or made by dotted keys in this section is added to. -/
def assign (number : Nat) (content : Value) : List Text → Children → Option Children
  | [], _ => none
  | [key], here =>
    match Table.valueOf? key here with
    | none => some (Table.place key (.value content) here)
    | some _ => none
  | key :: rest, here =>
    let made (children : Children) : Option Children :=
      (assign number content rest children).map fun new =>
        Table.place key (.table (.dotted number) new) here
    match Table.valueOf? key here with
    | none => made []
    | some (.table .passed children) => made children
    | some (.table (.dotted other) children) => if other = number then made children else none
    | some _ => none

/-- A document under way: its root, the header in force and the number of its section. -/
structure Draft where
  root : Children
  header : List Text
  number : Nat

namespace Draft

/-- The draft of an empty document. -/
def empty : Draft := ⟨[], [], 0⟩

/-- Put a header in force, whose last key is opened in one of two ways. -/
def enter (draft : Draft) (path : List Text) (opened : Text → Children → Option Children) :
    Option Draft :=
  match path.getLast? with
  | none => none
  | some key =>
    (within path.dropLast (opened key) draft.root).map fun root =>
      ⟨root, path, draft.number + 1⟩

/-- Write a value under a key of the section in force. -/
def write (draft : Draft) (key : List Text) (content : Value) : Option Draft :=
  (within draft.header (assign draft.number content key) draft.root).map fun root =>
    { draft with root }

end Draft

end NamedGrid.Toml
