import NamedGrid.Text

/-!
# Hooks

Plugins extend a run at three hooks: two receive generated utilities, the third
contributes layouts. A plugin implements a hook by a marked method, which bears the
hook's name or names the hook it is meant for.
-/

namespace NamedGrid

/-- The hooks that are specified. -/
inductive Hook
  /-- Receives a family of static rules. -/
  | addUtilities
  /-- Receives a family of resolvers. -/
  | matchUtilities
  /-- Contributes layouts. -/
  | registerLayouts
  deriving DecidableEq, Repr

namespace Hook

/-- The name of a hook. -/
def name : Hook → Text
  | addUtilities => "add_utilities".toList
  | matchUtilities => "match_utilities".toList
  | registerLayouts => "register_layouts".toList

/-- The names of the arguments with which a hook is called. -/
def parameters : Hook → List Text
  | addUtilities => ["utilities".toList]
  | matchUtilities => ["resolvers".toList]
  | registerLayouts => []

/-- The specified hooks. -/
def all : List Hook := [addUtilities, matchUtilities, registerLayouts]

/-- The specified hook of a name. -/
def ofName? (name : Text) : Option Hook := all.find? fun hook => hook.name = name

/-- The words that name, between two low lines on either side, what the relay of the hooks has
as every object has it. There can be no hook of such a name. -/
def occupiedWords : List Text :=
  ["class", "delattr", "dict", "dir", "doc", "eq", "final", "format", "ge", "getattribute",
    "getstate", "gt", "hash", "init", "init_subclass", "le", "lt", "module", "ne", "new", "reduce",
    "reduce_ex", "repr", "setattr", "sizeof", "slots", "str", "subclasshook"].map String.toList

end Hook

/-- A method of a plugin that is marked as the implementation of a hook. -/
structure Method where
  name : Text
  /-- The hook that it implements instead of the one it is named after. -/
  target : Option Text
  /-- Whether a hook without specification is accepted in silence. -/
  isOptional : Bool
  /-- The arguments that it takes. -/
  parameters : List Text
  deriving DecidableEq, Repr

namespace Method

/-- The name of the hook that a method implements. -/
def hookName (method : Method) : Text :=
  match method.target with
  | some (c :: rest) => c :: rest
  | _ => method.name

/-- The specified hook that a method implements, if there is one. -/
def hook? (method : Method) : Option Hook := Hook.ofName? method.hookName

/-- Is a method meant for a hook of a name at which there is something else? -/
def isMisplaced (method : Method) : Bool :=
  (Text.after? "__".toList method.hookName).any fun rest =>
    Hook.occupiedWords.any fun word => rest = word ++ "__".toList

/-- Does a method take only arguments with which the hook is called? -/
def fits (method : Method) (hook : Hook) : Bool :=
  method.parameters.all fun p => hook.parameters.contains p

/-- Is the name of a method one that is not kept private? -/
def isPublic (method : Method) : Bool := !(['_'] : Text).isPrefixOf method.name

end Method

end NamedGrid
