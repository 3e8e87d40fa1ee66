import NamedGrid.Text

/-!
# Reserved words

`grid-template-areas` accepts the keywords of every property; `grid-area` accepts the
same words and `auto` before them. A cell of one or two dots stays empty.
-/

namespace NamedGrid

/-- The keywords that every property accepts. -/
def wideKeywords : List Text :=
  ["none".toList, "inherit".toList, "initial".toList, "revert".toList, "revert-layer".toList,
    "unset".toList]

/-- The keywords that `grid-area` accepts. -/
def areaKeywords : List Text := "auto".toList :: wideKeywords

/-- The cells that name no area. -/
def emptyCells : List Text := [['.'], ['.', '.']]

/-- No keyword is listed twice. -/
theorem areaKeywords_nodup : areaKeywords.Nodup := by decide

end NamedGrid
