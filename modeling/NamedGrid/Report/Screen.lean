import NamedGrid.Text.Blank
import NamedGrid.Text.Width

/-!
# Text on a screen

What is printed for a reader loses the control characters that move the cursor, and its
tabs become spaces up to the next column that is a multiple of eight. A line that is wider
than the page is broken between words, and one of more characters than the page has columns
loses blanks at its end. A drawn table has a title, a heavy head and a light body, and every
column is as wide as its widest cell; if such a table is wider than the page, its widest
columns give way. A tab counts for nothing in the width of a cell, so a cell with tabs may
have to be broken into lines.
-/

namespace NamedGrid.Screen

/-- Does a character move the cursor or ring the bell? -/
def isDropped (c : Char) : Bool :=
  c == '\x07' || c == '\x08' || c == '\x0b' || c == '\x0c' || c == '\r'

/-- The distance between the stops of tabs. -/
def tabStop : Nat := 8

/-- The parts between tabs put together from a column on, with spaces for the tabs. The first
space belongs to the part before it, whose width is measured with it. -/
def joinAtStops (column : Nat) : List Text → Text
  | [] => []
  | [last] => last
  | part :: rest =>
    let spaced := part ++ [' ']
    let reached := column + Text.columns spaced
    let stop := (reached + tabStop - 1) / tabStop * tabStop
    spaced ++ List.replicate (stop - reached) ' ' ++ joinAtStops stop rest

/-- A line with spaces for its tabs. -/
def expandTabs (line : Text) : Text := joinAtStops 0 (line.splitOn '\t')

/-- The text without the characters that are not printed. -/
def withoutDropped (s : Text) : Text := s.filter fun c => !isDropped c

/-- A text as it is printed if its lines may be of any width. -/
def unwrapped (s : Text) : Text :=
  ['\n'].intercalate (((withoutDropped s).splitOn '\n').map expandTabs)

/-- The text without line feeds at its end. -/
def trimEnd (s : Text) : Text := (s.reverse.dropWhile (· = '\n')).reverse

/-- May the character follow an opening bracket that marks up text? -/
def opensMark (c : Char) : Bool := ('a' ≤ c && c ≤ 'z') || c == '#' || c == '/' || c == '@'

/-- The length of a mark in brackets at the front of a text behind its opening one. -/
def markLength? (s : Text) : Option Nat :=
  match s with
  | c :: rest =>
    if opensMark c then
      let content := rest.takeWhile fun d => d != ']' && d != '['
      match rest.drop content.length with
      | ']' :: _ => some (content.length + 2)
      | _ => none
    else none
  | [] => none

/-- The text in which a backslash before a bracket that opens no mark is left out; `within`
characters of a mark are still to be copied. -/
def dropBackslashes (within : Nat) : Text → Text
  | [] => []
  | c :: rest =>
    match within with
    | n + 1 => c :: dropBackslashes n rest
    | 0 =>
      if c = '[' then c :: dropBackslashes ((markLength? rest).getD 0) rest
      else if c = '\\' then
        match rest with
        | '[' :: more =>
          if (markLength? more).isSome then c :: dropBackslashes 0 rest
          else dropBackslashes 0 rest
        | _ => c :: dropBackslashes 0 rest
      else c :: dropBackslashes 0 rest

/-- The text with a single backslash at its end doubled. -/
def doubleLast (s : Text) : Text :=
  match s.reverse with
  | '\\' :: '\\' :: _ => s
  | '\\' :: _ => s ++ ['\\']
  | _ => s

/-- The text of a cell. Marks in brackets stand for themselves. -/
def cellText (s : Text) : Text := withoutDropped (doubleLast (dropBackslashes 0 s))

/-- A text filled with spaces to a width. -/
def padded (width : Nat) (s : Text) : Text :=
  s ++ List.replicate (width - Text.columns s) ' '

/-- A text in the middle of a width; of an odd rest the larger part comes behind it. -/
def centred (width : Nat) (s : Text) : Text :=
  let left := (width - Text.columns s) / 2
  List.replicate left ' ' ++ s ++ List.replicate (width - Text.columns s - left) ' '

/-- Does a character end a line where the width of a cell is measured? -/
def endsLine (c : Char) : Bool :=
  c == '\n' || ('\x1c' ≤ c && c ≤ '\x1e') || c == '\x85' || c == '\u2028' || c == '\u2029'

/-- The texts between the ends of lines. -/
def measuredLines : Text → List Text
  | [] => [[]]
  | c :: rest =>
    match endsLine c, measuredLines rest with
    | false, line :: lines => (c :: line) :: lines
    | _, lines => [] :: lines

/-- The width of a cell. -/
def cellWidth (s : Text) : Nat := ((measuredLines s).map Text.columns).foldl max 0

/-- The words of a text, each with the blanks behind it; those at the front belong to the
first. `within` tells whether the word under way has begun. -/
def wordsFrom (within : Bool) : Text → List Text
  | [] => [[]]
  | c :: rest =>
    let starts := !isBlank c
    let ends := within && isBlank c && rest.head?.any fun d => !isBlank d
    match ends, wordsFrom (within || starts) rest with
    | true, words => [c] :: words
    | false, word :: words => (c :: word) :: words
    | false, [] => [[c]]

/-- The pieces of a text that is broken wherever a cluster would not fit; `line` is the piece
begun, of `used` columns. -/
def piecesFrom (width : Nat) (line : Text) (used : Nat) : List Text.Cluster → List Text
  | [] => [line]
  | cluster :: rest =>
    if used + cluster.width ≤ width then
      piecesFrom width (line ++ cluster.text) (used + cluster.width) rest
    else line :: piecesFrom width cluster.text cluster.width rest

/-- The pieces of a text of which each is as long as a width allows. -/
def pieces (width : Nat) (s : Text) : List Text := piecesFrom width [] 0 (Text.clusters s)

/-- Words put on lines of a width; `line` is the line begun, and its words take `used`
columns. A word goes to the next line if it does not fit without the blanks behind it. If
words are `divisible`, one that fits on no line is broken into pieces. -/
def fillLines (divisible : Bool) (width : Nat) (line : Text) (used : Nat) :
    List Text → List Text
  | [] => [line]
  | word :: rest =>
    let bare := Text.columns (Text.trimEnd word)
    if used + bare ≤ width then
      fillLines divisible width (line ++ word) (used + Text.columns word) rest
    else
      let begun := if line.isEmpty then [] else [line]
      let parts := if divisible && width < bare then pieces width word else [word]
      let last := parts.getLastD word
      begun ++ parts.dropLast ++ fillLines divisible width last (Text.columns last) rest

/-- A line broken between words. -/
def brokenLines (divisible : Bool) (width : Nat) (s : Text) : List Text :=
  fillLines divisible width [] 0 (wordsFrom false s)

/-- A line without the blanks at its end that are beyond a width. -/
def cropBlanks (width : Nat) (line : Text) : Text :=
  let blanks := line.length - (Text.trimEnd line).length
  line.take (line.length - min blanks (line.length - width))

/-- The clusters at the front that fit in a width together. -/
def fitting (width : Nat) : List Text.Cluster → List Text.Cluster
  | [] => []
  | cluster :: rest =>
    if cluster.width ≤ width then cluster :: fitting (width - cluster.width) rest else []

/-- The longest initial part of a text that fits in a width, filled with spaces to it. -/
def cut (width : Nat) (s : Text) : Text :=
  let kept := fitting width (Text.clusters s)
  kept.flatMap Text.Cluster.text ++
    List.replicate (width - sumOf (kept.map Text.Cluster.width)) ' '

/-- A line that is too wide is cut. -/
def cropped (width : Nat) (line : Text) : Text :=
  if Text.columns line ≤ width then line else cut width line

/-- A line that is too wide is cut and marked with an ellipsis. -/
def truncated (width : Nat) (line : Text) : Text :=
  if Text.columns line ≤ width then line else cut (width - 1) line ++ ['…']

/-- The number of columns of a page. -/
def pageWidth : Nat := 120

/-- A text as it is printed on a page. -/
def wrapped (s : Text) : Text :=
  ['\n'].intercalate <| ((withoutDropped s).splitOn '\n').flatMap fun line =>
    (brokenLines true pageWidth (expandTabs line)).map fun part =>
      cropped pageWidth (cropBlanks pageWidth part)

/-- The lines of a cell in a column of a width. -/
def cellLines (width : Nat) (s : Text) : List Text :=
  (s.splitOn '\n').flatMap fun line =>
    (brokenLines false width (expandTabs line)).map fun part =>
      truncated width (cropBlanks width part)

/-- The widths of the columns of rows. -/
def widths (rows : List (List Text)) : List Nat :=
  rows.foldl
    (fun known row =>
      let here := row.map cellWidth
      if known.isEmpty then here else List.zipWith max known here) []

/-- A quotient rounded to the nearest number, a half to the even one. -/
def roundedQuotient (n d : Nat) : Nat :=
  if d < 2 * (n % d) || (2 * (n % d) == d && (n / d) % 2 == 1) then n / d + 1 else n / d

/-- The widths of which those of `sharers` columns, all `widest`, are reduced by `excess`
together in equal parts of at most `most`. -/
def reduceWidest (widest most excess sharers : Nat) : List Nat → List Nat
  | [] => []
  | width :: rest =>
    if width = widest then
      let part := min most (roundedQuotient excess sharers)
      (width - part) :: reduceWidest widest most (excess - part) (sharers - 1) rest
    else width :: reduceWidest widest most excess sharers rest

/-- The widths after at most `steps` steps in which the widest columns give way as far as to
the next width, until all together take no more than `room`. -/
def reduceWithin (room : Nat) : Nat → List Nat → List Nat
  | 0, columns => columns
  | steps + 1, columns =>
    if sumOf columns ≤ room then columns
    else
      let excess := sumOf columns - room
      let widest := columns.foldl max 0
      let next := (columns.filter (· ≠ widest)).foldl max 0
      reduceWithin room steps
        (reduceWidest widest (min excess (widest - next)) excess (columns.count widest) columns)

/-- The number of spaces beside a cell. -/
def cellMargins : Nat := 2

/-- The widths of columns that fit on a page, with their margins and the bars. -/
def fitted (columns : List Nat) : List Nat :=
  let room := pageWidth - (columns.length + 1)
  let outer := columns.map fun width => min (width + cellMargins) room
  (reduceWithin room (sumOf outer - room) outer).map (· - cellMargins)

/-- A horizontal line: its ends, what it is made of, and what stands between columns. -/
def rule (left middle right line : Char) (columns : List Nat) : Text :=
  let lines := columns.map fun width => List.replicate (width + cellMargins) line
  left :: [middle].intercalate lines ++ [right]

/-- The lines of a row between bars. A cell of fewer lines than another is filled up. -/
def rowLines (bar : Char) (columns : List Nat) (row : List Text) : List Text :=
  let cells := List.zipWith cellLines columns row
  let height := (cells.map List.length).foldl max 0
  (List.range height).map fun i =>
    bar :: [bar].intercalate
      (List.zipWith (fun width lines => ' ' :: padded width (lines.getD i []) ++ [' '])
        columns cells) ++ [bar]

/-- A table with a title, a head and rows. -/
def table (title : Text) (head : List Text) (rows : List (List Text)) : Text :=
  let columns := fitted (widths (head :: rows))
  let total := sumOf (columns.map (· + cellMargins)) + columns.length + 1
  ['\n'].intercalate <|
    [centred total title, rule '┏' '┳' '┓' '━' columns] ++ rowLines '┃' columns head ++
      [rule '┡' '╇' '┩' '━' columns] ++ rows.flatMap (rowLines '│' columns) ++
      [rule '└' '┴' '┘' '─' columns]

end NamedGrid.Screen
