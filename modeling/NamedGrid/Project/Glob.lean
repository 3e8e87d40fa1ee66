import NamedGrid.Project.FileTree

/-!
# Glob patterns

In a pattern a star stands for any characters, a question mark for one, and brackets
for one of a set. A name that starts with a dot is matched only by a pattern that does.
A component of two stars stands for any number of directories.
-/

namespace NamedGrid.Glob

/-- What a piece of a pattern matches. -/
inductive Mark
  /-- Any number of characters. -/
  | any
  /-- One character. -/
  | one
  | char (c : Char)
  /-- One character inside the ranges, or outside of them. -/
  | set (isNegated : Bool) (ranges : List (Char × Char))
  deriving Repr

/-- The parts of a set's content between hyphens that join two ends of a range. The next
`wait` characters are passed before a hyphen can be one of these. -/
def parts (wait : Nat) : Text → List Text
  | [] => [[]]
  | c :: rest =>
    if c = '-' && wait = 0 then [] :: parts 2 rest
    else
      match parts (wait - 1) rest with
      | part :: more => (c :: part) :: more
      | [] => [[c]]

/-- The parts in which a hyphen at the end stands for itself. -/
def closeParts : List Text → List Text
  | [part, []] => [part ++ ['-']]
  | part :: rest => part :: closeParts rest
  | [] => []

/-- The parts without the ranges whose ends are in the wrong order, from the last on. -/
def dropEmptyRanges : List Text → List Text
  | [] => []
  | part :: rest =>
    match dropEmptyRanges rest with
    | next :: more =>
      match part.getLast?, next with
      | some a, b :: tail =>
        if b < a then (part.dropLast ++ tail) :: more else part :: next :: more
      | _, _ => part :: next :: more
    | [] => [part]

/-- The ranges of a part, whose characters stand for themselves. -/
def singles (part : Text) : List (Char × Char) := part.map fun c => (c, c)

/-- The ranges of parts; behind a part without characters the hyphen stands for itself. -/
def rangesOf : List Text → List (Char × Char)
  | [] => []
  | [part] => singles part
  | part :: next :: more =>
    match part.getLast?, next with
    | some a, b :: tail => singles part.dropLast ++ (a, b) :: rangesOf (tail :: more)
    | _, _ => singles part ++ ('-', '-') :: rangesOf (next :: more)
termination_by parts => parts.length

/-- The set of a content. An exclamation mark at its front, also one that comes to the
front because ranges are left out, negates it. -/
def setMark (content : Text) : Mark :=
  match dropEmptyRanges (closeParts (parts (if ['!'].isPrefixOf content then 2 else 1) content))
    with
  | ('!' :: part) :: more => .set true (rangesOf (part :: more))
  | found => .set false (rangesOf found)

/-- The content of a set behind its opening bracket, and what follows the closing one. A
bracket that comes first belongs to the content. -/
def setContent? (s : Text) : Option (Text × Text) :=
  let (mark, rest) := match s with
    | '!' :: rest => (['!'], rest)
    | rest => ([], rest)
  let (bracket, rest) := match rest with
    | ']' :: rest => ([']'], rest)
    | rest => ([], rest)
  match rest.dropWhile (· ≠ ']') with
  | ']' :: after => some (mark ++ bracket ++ rest.takeWhile (· ≠ ']'), after)
  | _ => none

/-- The marks of a pattern of at most `bound` characters. -/
def marksWithin : Nat → Text → List Mark
  | 0, _ => []
  | _, [] => []
  | bound + 1, '*' :: rest => .any :: marksWithin bound rest
  | bound + 1, '?' :: rest => .one :: marksWithin bound rest
  | bound + 1, '[' :: rest =>
    match setContent? rest with
    | some (content, after) => setMark content :: marksWithin bound after
    | none => .char '[' :: marksWithin bound rest
  | bound + 1, c :: rest => .char c :: marksWithin bound rest

/-- The marks of a pattern. -/
def marks (pattern : Text) : List Mark := marksWithin pattern.length pattern

/-- Does a mark match one character? -/
def Mark.accepts (c : Char) : Mark → Bool
  | any | one => true
  | char d => c == d
  | set isNegated ranges => (ranges.any fun r => r.1 ≤ c && c ≤ r.2) != isNegated

/-- The runs of marks between stars. -/
def runs : List Mark → List (List Mark)
  | [] => [[]]
  | .any :: rest => [] :: runs rest
  | mark :: rest =>
    match runs rest with
    | run :: more => (mark :: run) :: more
    | [] => [[mark]]

/-- The text behind a run at its front. -/
def afterRun? : List Mark → Text → Option Text
  | [], s => some s
  | mark :: run, c :: s => if mark.accepts c then afterRun? run s else none
  | _ :: _, [] => none

/-- The text behind the first occurrence of a run. -/
def afterFirst? (run : List Mark) : Text → Option Text
  | [] => afterRun? run []
  | c :: s => (afterRun? run (c :: s)) <|> afterFirst? run s

/-- Do runs with a star before each of them match a whole text? Every run but the last one
may be taken where it occurs first, because a star takes up what it leaves. -/
def matchesRuns : List (List Mark) → Text → Bool
  | [], s => s.isEmpty
  | [run], s => run.length ≤ s.length && afterRun? run (s.drop (s.length - run.length)) == some []
  | run :: rest, s => (afterFirst? run s).any (matchesRuns rest)

/-- Do marks match a whole text? -/
def matchesMarks (pattern : List Mark) (s : Text) : Bool :=
  match runs pattern with
  | [] => s.isEmpty
  | [run] => afterRun? run s == some []
  | run :: rest => (afterRun? run s).any (matchesRuns rest)

/-- Does a text hold a character that makes it a pattern? -/
def isPattern (s : Text) : Bool := s.any fun c => c == '*' || c == '?' || c == '['

/-- Does a name start with a dot? -/
def isHidden (name : Text) : Bool := ['.'].isPrefixOf name

/-- The component that stands for any number of directories. -/
def anyDepth : Text := ['*', '*']

/-- The text before the last slash, without slashes at its end, and the text behind it. -/
def splitLast (s : Text) : Text × Text :=
  let base := (s.reverse.takeWhile (· ≠ '/')).reverse
  let head := s.take (s.length - base.length)
  let trimmed := (head.reverse.dropWhile (· = '/')).reverse
  (if trimmed.isEmpty then head else trimmed, base)

/-- A name behind a directory. -/
def joinNames (directory name : Text) : Text :=
  if ['/'].isPrefixOf name then name
  else if directory.isEmpty || ['/'].isSuffixOf directory then directory ++ name
  else directory ++ '/' :: name

/-- The directory in which the search for a pattern begins: the components before the first
one that is a pattern itself. -/
def startOf (pattern : Text) : Text :=
  ['/'].intercalate ((pattern.splitOn '/').takeWhile fun component => !isPattern component)

/-- Does the search for a pattern begin in a directory whose name holds the null character? -/
def isUnusable (pattern : Text) : Bool :=
  isPattern pattern && (startOf pattern).contains '\x00'

/-- A file tree with the directory that patterns are seen from. -/
structure Ground where
  tree : FileTree
  cwd : Location
  root : Path

namespace Ground

/-- The location that a text leads to from the ground's root. -/
def locate (ground : Ground) (s : Text) : Option Location := do
  let path := Path.ofText s
  if path.isAbsolute then ground.tree.walk [] (Path.components s)
  else
    let base ← ground.tree.locate ground.cwd ground.root
    ground.tree.walk base (Path.components s)

/-- Does a text lead to a directory? -/
def isDirectory (ground : Ground) (s : Text) : Bool :=
  (ground.locate s).any ground.tree.isDirectoryAt

/-- The names in a directory, or the names of the directories alone. -/
def names (ground : Ground) (directory : Text) (directoriesOnly : Bool) : List Text :=
  match ground.locate directory with
  | none => []
  | some location =>
    (ground.tree.namesIn location).filter fun name =>
      !directoriesOnly || ground.tree.isDirectoryAt (location ++ [name])

/-- The names in a directory that match a pattern. -/
def matching (ground : Ground) (directory pattern : Text) (directoriesOnly : Bool) : List Text :=
  (ground.names directory directoriesOnly).filter fun name =>
    (isHidden pattern || !isHidden name) && matchesMarks (marks pattern) name

/-- A name in a directory, if it is there; no name asks for the directory itself. -/
def literal (ground : Ground) (directory name : Text) : List Text :=
  if name.isEmpty then if ground.isDirectory directory then [[]] else []
  else if (ground.locate (joinNames directory name)).isSome then [name]
  else []

/-- What has no directory on the way stands for itself, be it a directory or not; everything
below it that no hidden name leads to comes behind it. -/
def everything (ground : Ground) (directory : Text) (directoriesOnly : Bool) : List Text :=
  [] ::
    match ground.locate directory with
    | none => []
    | some location =>
      ((ground.tree.below location).filter fun names =>
        !names.any isHidden &&
          (!directoriesOnly || ground.tree.isDirectoryAt (location ++ names))).map
        fun names => ['/'].intercalate names

/-- What one component of a pattern finds in a directory. -/
def find (ground : Ground) (directory component : Text) (directoriesOnly : Bool) : List Text :=
  if component = anyDepth then ground.everything directory directoriesOnly
  else if isPattern component then ground.matching directory component directoriesOnly
  else ground.literal directory component

/-- What a pattern of at most `bound` components finds. -/
def expandWithin (ground : Ground) : Nat → Text → Bool → List Text
  | 0, _, _ => []
  | bound + 1, pattern, directoriesOnly =>
    let (directory, base) := splitLast pattern
    if !isPattern pattern then
      if base.isEmpty then if ground.isDirectory directory then [pattern] else []
      else if (ground.locate pattern).isSome then [pattern]
      else []
    else if directory.isEmpty then ground.find [] base directoriesOnly
    else
      let directories :=
        if isPattern directory then ground.expandWithin bound directory true else [directory]
      directories.flatMap fun directory =>
        (ground.find directory base directoriesOnly).map (joinNames directory)

/-- The texts that a pattern finds, in ascending order. -/
def expand (ground : Ground) (pattern : Text) : List Text :=
  Text.sorted ((ground.expandWithin (pattern.length + 1) pattern false).filter fun found =>
    !found.isEmpty)

/-- The files that a pattern finds. A path that is too long cannot be looked up. -/
def filesOf (ground : Ground) (pattern : Text) : Except FileError (List Path) :=
  if isUnusable pattern then .error .unusableName
  else
    let paths := (ground.expand pattern).map fun found => ground.root.join (Path.ofText found)
    if paths.any (ground.tree.isOverlong ground.cwd) then .error .nameTooLong
    else .ok (paths.filter (ground.tree.isFile ground.cwd))

/-- The files that patterns find, pattern by pattern, each path once. -/
def files (ground : Ground) (patterns : List Text) : Except FileError (List Path) := do
  return (← patterns.mapM ground.filesOf).flatten.eraseDups

end Ground

end NamedGrid.Glob
