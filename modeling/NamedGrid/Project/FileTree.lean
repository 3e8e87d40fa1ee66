import NamedGrid.Project.Path
import NamedGrid.Table
import NamedGrid.Text.Utf8

/-!
# File trees

A file tree maps locations, which are lists of names from the root, to directories and
files. Walking along a path needs a directory at every step, also where the step leads
back up.
-/

namespace NamedGrid

/-- What a location holds. -/
inductive Entry
  | directory
  | file (content : Utf8.Bytes)
  deriving DecidableEq

/-- The names that lead from the root to an entry. -/
abbrev Location := List Text

/-- The entries of a file system below its root, which is a directory itself. -/
structure FileTree where
  entries : Table Location Entry

/-- Why a file cannot be written. -/
inductive FileError
  /-- A directory is in its place. -/
  | isDirectory
  /-- A file is in the place of the directory that is to hold it. -/
  | alreadyExists
  /-- A file stands on the way to it. -/
  | notDirectory
  /-- There is no directory that could hold it. -/
  | notFound
  /-- A name on the way to it holds the null character. -/
  | unusableName
  /-- A name on the way to it is too long. -/
  | nameTooLong
  deriving DecidableEq, Repr

namespace FileTree

/-- The tree of a root without entries. -/
def empty : FileTree := ⟨.empty⟩

/-- What a location holds, if anything. -/
def entry? (tree : FileTree) (location : Location) : Option Entry :=
  if location.isEmpty then some .directory else tree.entries.get? location

/-- Is there a directory at a location? -/
def isDirectoryAt (tree : FileTree) (location : Location) : Bool :=
  tree.entry? location == some .directory

/-- The location that names lead to from a location, if every step is possible. -/
def walk (tree : FileTree) (here : Location) : List Text → Option Location
  | [] => some here
  | name :: rest =>
    if tree.isDirectoryAt here then
      if name = ['.'] then walk tree here rest
      else if name = ['.', '.'] then walk tree here.dropLast rest
      else if (tree.entry? (here ++ [name])).isSome then walk tree (here ++ [name]) rest
      else none
    else none

/-- The location of a path, seen from a working directory. -/
def locate (tree : FileTree) (cwd : Location) (path : Path) : Option Location :=
  tree.walk (if path.isAbsolute then [] else cwd) path.names

/-- Does a path lead to a directory? -/
def isDirectory (tree : FileTree) (cwd : Location) (path : Path) : Bool :=
  (tree.locate cwd path).any tree.isDirectoryAt

/-- The bytes of the file that a path leads to. -/
def bytes? (tree : FileTree) (cwd : Location) (path : Path) : Option Utf8.Bytes := do
  let location ← tree.locate cwd path
  match tree.entry? location with
  | some (.file content) => some content
  | _ => none

/-- Does a path lead to a file? -/
def isFile (tree : FileTree) (cwd : Location) (path : Path) : Bool :=
  (tree.bytes? cwd path).isSome

/-- The number of bytes that a name may have. -/
def nameLimit : Nat := 255

/-- The number of bytes that the text of a path may have. -/
def pathLimit : Nat := 4095

/-- Is a name too long for any directory to hold it? -/
def isLongName (name : Text) : Bool := nameLimit < (Utf8.encode name).length

/-- Does the way along names come to one that is too long? It ends where a step is not
possible. -/
def meetsLongName (tree : FileTree) (here : Location) : List Text → Bool
  | [] => false
  | name :: rest =>
    tree.isDirectoryAt here &&
      if name = ['.', '.'] then meetsLongName tree here.dropLast rest
      else isLongName name || meetsLongName tree (here ++ [name]) rest

/-- Is the text of a path too long? -/
def isLongPath (path : Path) : Bool := pathLimit < (Utf8.encode path.toText).length

/-- Can a path not be followed because it, or a name on the way, is too long? -/
def isOverlong (tree : FileTree) (cwd : Location) (path : Path) : Bool :=
  isLongPath path || tree.meetsLongName (if path.isAbsolute then [] else cwd) path.names

/-- The names in the directory at a location. -/
def namesIn (tree : FileTree) (location : Location) : List Text :=
  tree.entries.keys.filterMap fun found =>
    if found.dropLast = location then found.getLast? else none

/-- The locations below a location, each by the names that lead to it from there. -/
def below (tree : FileTree) (location : Location) : List (List Text) :=
  tree.entries.keys.filterMap fun found =>
    match location.isPrefixOf? found with
    | some (name :: rest) => some (name :: rest)
    | _ => none

/-- Put an entry at a location. -/
def put (tree : FileTree) (location : Location) (entry : Entry) : FileTree :=
  ⟨tree.entries.insert location entry⟩

/-- What an attempt to change a tree leaves behind, also if it fails. -/
structure Attempt where
  tree : FileTree
  error : Option FileError

/-- Make the directories that names lead through from a location; some may have been made
already. A file is in the way of what is below it, but in the place of a directory once
one has been made. -/
def makeFrom (tree : FileTree) (here : Location) (hasMade : Bool) : List Text → Attempt
  | [] => ⟨tree, if tree.isDirectoryAt here then none else some .alreadyExists⟩
  | name :: rest =>
    if !tree.isDirectoryAt here then
      ⟨tree, some (if hasMade then .alreadyExists else .notDirectory)⟩
    else if name = ['.', '.'] then makeFrom tree here.dropLast hasMade rest
    else if isLongName name then ⟨tree, some .nameTooLong⟩
    else
      match tree.entry? (here ++ [name]) with
      | some _ => makeFrom tree (here ++ [name]) hasMade rest
      | none => makeFrom (tree.put (here ++ [name]) .directory) (here ++ [name]) true rest

/-- Does a path hold the null character? -/
def isUnusable (path : Path) : Bool := path.names.any fun name => name.contains '\x00'

/-- Make the directory of a path with all above it. -/
def makeDirectory (tree : FileTree) (cwd : Location) (path : Path) : Attempt :=
  if isUnusable path then ⟨tree, some .unusableName⟩
  else if isLongPath path then ⟨tree, some .nameTooLong⟩
  else tree.makeFrom (if path.isAbsolute then [] else cwd) false path.names

/-- Write the bytes of a file, in a directory that exists. -/
def writeBytes (tree : FileTree) (cwd : Location) (path : Path) (content : Utf8.Bytes) :
    Except FileError FileTree :=
  if isUnusable path then .error .unusableName
  else if tree.isOverlong cwd path then .error .nameTooLong
  else
    match tree.locate cwd path with
    | some location =>
      if tree.isDirectoryAt location then .error .isDirectory
      else .ok (tree.put location (.file content))
    | none =>
      match tree.locate cwd path.parent with
      | none => .error .notFound
      | some location =>
        if tree.isDirectoryAt location then
          .ok (tree.put (location ++ [path.name]) (.file content))
        else .error .notDirectory

/-- Write the bytes of a file after making the directories on the way to it. -/
def writeDeep (tree : FileTree) (cwd : Location) (path : Path) (content : Utf8.Bytes) :
    Attempt :=
  let made := tree.makeDirectory cwd path.parent
  match made.error with
  | some _ => made
  | none =>
    match made.tree.writeBytes cwd path content with
    | .ok tree => ⟨tree, none⟩
    | .error error => ⟨made.tree, some error⟩

/-- The location that an absolute path names when two dots lead up one name each. -/
def collapse (here : Location) : List Text → Location
  | [] => here
  | name :: rest =>
    if name = ['.', '.'] then collapse here.dropLast rest else collapse (here ++ [name]) rest

end FileTree

end NamedGrid
