import NamedGrid.Text

/-!
# Similar words

Two words are compared by the longest block that both contain, and then by what stands
on either side of it. A word is close to another if the common blocks make up at least
three fifths of both.
-/

namespace NamedGrid.Similarity

/-- A block that two words have in common. -/
structure Block where
  /-- Where the block starts in the first word. -/
  first : Nat
  /-- Where it starts in the second word. -/
  second : Nat
  length : Nat

/-- The number of characters that two texts have in common at the front. -/
def commonFront : Text → Text → Nat
  | a :: s, b :: t => if a = b then commonFront s t + 1 else 0
  | _, _ => 0

/-- The longest common block, the earliest in the first word and then in the second. -/
def longestBlock (s t : Text) : Block :=
  (List.range s.length).foldl
    (fun best i =>
      (List.range t.length).foldl
        (fun best j =>
          let length := commonFront (s.drop i) (t.drop j)
          if best.length < length then ⟨i, j, length⟩ else best) best)
    ⟨0, 0, 0⟩

/-- The number of characters in common blocks, of which at most `bound` are looked for in
a row. -/
def matchedWithin : Nat → Text → Text → Nat
  | 0, _, _ => 0
  | bound + 1, s, t =>
    let block := longestBlock s t
    if block.length = 0 then 0
    else
      matchedWithin bound (s.take block.first) (t.take block.second) + block.length +
        matchedWithin bound (s.drop (block.first + block.length))
          (t.drop (block.second + block.length))

/-- The number of characters of a word that are in blocks common with another. -/
def matched (s t : Text) : Nat := matchedWithin s.length s t

/-- Does a word come before another among those close to a third? More matched characters
for the length come first, then the later in order. -/
def isCloser (word s t : Text) : Bool :=
  let forS := matched s word * (t.length + word.length)
  let forT := matched t word * (s.length + word.length)
  forT < forS || (forS == forT && Text.before t s)

/-- The words that are close to a word, the closest first and three at most. -/
def close (word : Text) (words : List Text) : List Text :=
  ((words.filter fun s => 3 * (s.length + word.length) ≤ 10 * matched s word).mergeSort
    (fun s t => isCloser word s t || s == t)).take 3

end NamedGrid.Similarity
