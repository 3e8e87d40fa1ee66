import NamedGrid.Grid.Layout
import NamedGrid.Plugin.Hook

/-!
# Plugins

A blueprint describes a kind of plugin: its marked methods, the layouts that it
contributes, and whether an instance can be made of it. What is registered is an
instance or, from an entry point, the blueprint itself.
-/

namespace NamedGrid

/-- What a plugin answers when it is asked for layouts. -/
inductive Contribution
  /-- No answer. -/
  | nothing
  /-- Layout sources by name. -/
  | layouts (sources : LayoutSources)
  /-- An answer that is no record of layouts. -/
  | unusable
  deriving Inhabited

/-- A kind of plugin. -/
structure Blueprint where
  className : Text
  /-- The marked methods in the order of their definition. -/
  methods : List Method
  contribution : Contribution
  /-- Whether making an instance fails, with an error that can be reported. -/
  fails : Bool

namespace Blueprint

/-- The marked methods in the order of their names; a method that is defined again
replaces the earlier one. -/
def sortedMethods (blueprint : Blueprint) : List Method :=
  (Table.ofList (blueprint.methods.map fun m => (m.name, m))).values.mergeSort
    fun a b => !Text.before b.name a.name

/-- Does a method whose name is not private implement a hook? -/
def hasPublicMethod (blueprint : Blueprint) : Bool := blueprint.methods.any Method.isPublic

end Blueprint

/-- What tells one object from another. -/
inductive Identity
  /-- An object that was made outside and came with a label. -/
  | given (label : Text)
  /-- An object that a registry made. -/
  | made (number : Nat)
  deriving DecidableEq, Repr

/-- The two forms in which a plugin is registered. -/
inductive PluginForm
  | object
  | blueprint
  deriving DecidableEq, Repr

/-- An object that can be registered. -/
structure Plugin where
  identity : Identity
  blueprint : Blueprint
  form : PluginForm

namespace Plugin

/-- The name under which a plugin is registered if none is given. -/
def defaultName (plugin : Plugin) : Text :=
  match plugin.form with
  | .object => plugin.blueprint.className
  | .blueprint => "type".toList

end Plugin

end NamedGrid
