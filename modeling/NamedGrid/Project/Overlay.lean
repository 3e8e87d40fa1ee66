import NamedGrid.Table
import NamedGrid.Value

/-!
# Overlaid values

Several sources configure the same settings. Laying one value over another keeps every
field that the upper one does not mention: records are merged field by field at every
depth, and any other value displaces what it is laid over.
-/

namespace NamedGrid.Value

mutual

/-- Lay a value over another. -/
def overlay (base : Value) : Value → Value
  | record updates =>
    match base with
    | record fields => record (overlayFields fields updates)
    | _ => record updates
  | value => value

/-- Lay fields over others; a field that is there keeps its place. -/
def overlayFields (fields : List (Text × Value)) : List (Text × Value) → List (Text × Value)
  | [] => fields
  | (name, value) :: rest =>
    let laid := ((field? fields name).map fun base => overlay base value).getD value
    overlayFields (Table.place name laid fields) rest

end

/-- A field behind names that lead to it. What is not there is made; a value that is no
record ends the way and stays. -/
def placeAt (last : Text) (value : Value) : List Text → List (Text × Value) →
    List (Text × Value)
  | [], fields => Table.place last value fields
  | name :: rest, fields =>
    match field? fields name with
    | none => Table.place name (record (placeAt last value rest [])) fields
    | some (record inner) => Table.place name (record (placeAt last value rest inner)) fields
    | some _ => fields

end NamedGrid.Value
