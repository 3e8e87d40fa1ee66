import NamedGrid.Text.Ranges

/-!
# Blanks

The white space of Unicode together with the four separator controls. Rows are
split into cells at runs of blanks, and values are trimmed of them.
-/

namespace NamedGrid

/-- The ranges of the blank characters. -/
def blankRanges : CharRanges :=
  [(0x09, 0x0d), (0x1c, 0x20), (0x85, 0x85), (0xa0, 0xa0), (0x1680, 0x1680), (0x2000, 0x200a),
    (0x2028, 0x2029), (0x202f, 0x202f), (0x205f, 0x205f), (0x3000, 0x3000)]

/-- Is the character white space or a separator control? -/
def isBlank (c : Char) : Bool := blankRanges.holds c

namespace Text

/-- The text without the blanks at its end. -/
def trimEnd : Text → Text
  | [] => []
  | c :: s =>
    match trimEnd s with
    | [] => if isBlank c then [] else [c]
    | kept => c :: kept

/-- The text without the blanks at both ends. -/
def trim (s : Text) : Text := trimEnd (s.dropWhile isBlank)

/-- The maximal runs of characters that are not blank. -/
def words : Text → List Text
  | [] => []
  | c :: s =>
    if isBlank c then words s
    else
      match s, words s with
      | d :: _, w :: ws => if isBlank d then [c] :: w :: ws else (c :: w) :: ws
      | _, ws => [c] :: ws

end Text

/-- The space is blank. -/
theorem isBlank_space : isBlank ' ' = true := by decide

end NamedGrid
