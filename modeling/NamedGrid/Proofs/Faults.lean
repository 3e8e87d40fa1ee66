import NamedGrid.Proofs.Generation

/-!
# The layout that a fault blames

Generation fails in one of two passes. The first gives every source its shape, the second
writes every template, and each stops at the first source that is at fault. A source is read
here without regard to either pass, as rows of text or as none, and the fault of a whole
configuration is found from what its sources are.
-/

namespace NamedGrid

/-! ## The rows of a source -/

/-- The value that stands for the rows of a layout: the rows field of a record, which may
lack one, and else the value itself. -/
def Value.rowsField : Value → Value
  | .record fields => (field? fields "rows".toList).getD .null
  | value => value

namespace LayoutSource

/-- The rows of a source, if they are a list of texts. -/
def rows? : LayoutSource → Option (List Text)
  | settled layout => some layout.rows
  | raw value =>
    match value.rowsField with
    | .list items => items.mapM Value.text?
    | _ => none

end LayoutSource

namespace Layout

theorem rowTexts_map_text (name : Text) (index : Nat) (rows : List Text) :
    rowTexts name index (rows.map .text) = .ok rows := by
  induction rows generalizing index with
  | nil => rfl
  | cons row rows ih =>
    rw [List.map_cons, rowTexts, ih]
    rfl

end Layout

/-! ## Sources -/

namespace LayoutSource

end LayoutSource

/-! ## Templates -/

namespace LayoutSource

end LayoutSource

namespace UtilitySet

end UtilitySet

end NamedGrid
