import NamedGrid.Text

/-!
# Paths

A path is an anchor and the names that follow it. Empty names and single dots are
dropped when a path is read; two dots stay, because what they lead to depends on the
file tree.
-/

namespace NamedGrid

/-- A path: where it starts, and the names that lead on. -/
structure Path where
  /-- One slash or two for an absolute path, nothing for a relative one. -/
  anchor : Text
  names : List Text
  deriving DecidableEq, Repr

namespace Path

/-- The anchor that leading slashes make; two slashes are an anchor of their own. -/
def anchorOf (slashes : Nat) : Text :=
  if slashes = 0 then [] else if slashes = 2 then ['/', '/'] else ['/']

/-- The names between the slashes of a text, without empty ones. -/
def components (s : Text) : List Text := (s.splitOn '/').filter fun name => !name.isEmpty

/-- Read a path. -/
def ofText (s : Text) : Path :=
  ⟨anchorOf (s.takeWhile (· = '/')).length, (components s).filter fun name => name ≠ ['.']⟩

/-- The text of a path; an empty relative path is a single dot. -/
def toText (path : Path) : Text :=
  if path.anchor.isEmpty && path.names.isEmpty then ['.']
  else path.anchor ++ ['/'].intercalate path.names

/-- Does the path start at the root? -/
def isAbsolute (path : Path) : Bool := !path.anchor.isEmpty

/-- The second path seen from the first. -/
def join (base path : Path) : Path :=
  if path.isAbsolute then path else ⟨base.anchor, base.names ++ path.names⟩

/-- The path without its last name. -/
def parent (path : Path) : Path := ⟨path.anchor, path.names.dropLast⟩

/-- The last name of a path. -/
def name (path : Path) : Text := path.names.getLast?.getD []

/-- The absolute path to a location. -/
def ofLocation (location : List Text) : Path := ⟨['/'], location⟩

end Path

end NamedGrid
