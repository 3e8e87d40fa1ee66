import NamedGrid.Plugin.Basic
import NamedGrid.Plugin.Notice
import NamedGrid.Utility.Delivery

/-!
# The plugin registry

A registry holds plugins by name and the implementations of the specified hooks in the
order of their registration. Hooks call the latest implementation first. A plugin is entered
with all of its implementations or not at all.
-/

namespace NamedGrid

/-- A method that answers a specified hook. -/
structure Implementation where
  hook : Hook
  plugin : Plugin

/-- The state of plugin registration. -/
structure Registry where
  /-- The plugins by name, in the order of registration. -/
  plugins : Table Text Plugin
  /-- The implementations in the order in which they were added. -/
  implementations : List Implementation
  /-- The names whose hooks have been checked. -/
  checked : List Text
  /-- Whether discovery has run. -/
  isLoaded : Bool
  /-- The number of objects that the registry has made. -/
  made : Nat

/-- Why a step of the registry fails. -/
inductive PluginError
  /-- Another plugin has the name. -/
  | nameTaken
  /-- The plugin is registered already. -/
  | alreadyRegistered
  /-- A method takes an argument with which its hook is not called. -/
  | unexpectedParameter
  /-- A method is meant for a hook of a name at which there is something else. -/
  | notHook
  /-- The plugin is not registered. -/
  | notRegistered
  /-- A hook was called on a blueprint of which no instance was made. -/
  | notInstantiated
  /-- The code of a plugin file ended the program. -/
  | exited (code : Nat)
  deriving DecidableEq, Repr

/-- What a step of the registry leaves and reports. -/
structure Step where
  registry : Registry
  notices : List Notice
  error : Option PluginError

namespace Registry

/-- The registry without plugins. -/
def empty : Registry :=
  { plugins := .empty, implementations := [], checked := [], isLoaded := false, made := 0 }

/-- The names of the plugins in the order of registration. -/
def names (registry : Registry) : List Text := registry.plugins.keys

/-- The name under which an object is registered. -/
def nameOf? (registry : Registry) (identity : Identity) : Option Text :=
  (registry.plugins.entries.find? fun e => e.2.identity = identity).map Prod.fst

/-- Add implementations for methods, up to the first that does not fit its hook or can have
none. -/
def implement (plugin : Plugin) : List Method → Registry → Registry × Option PluginError
  | [], registry => (registry, none)
  | method :: rest, registry =>
    if method.isMisplaced then (registry, some .notHook)
    else
      match method.hook? with
      | none => implement plugin rest registry
      | some hook =>
        if method.fits hook then
          implement plugin rest
            { registry with implementations := registry.implementations ++ [⟨hook, plugin⟩] }
        else (registry, some .unexpectedParameter)

/-- Enter a plugin under a name, and then its implementations one by one. If one of them cannot
be added, all is taken back. -/
def enter (registry : Registry) (plugin : Plugin) (name : Text) :
    Registry × Option PluginError :=
  if registry.plugins.contains name then (registry, some .nameTaken)
  else if (registry.nameOf? plugin.identity).isSome then (registry, some .alreadyRegistered)
  else
    match implement plugin plugin.blueprint.sortedMethods
      { registry with plugins := registry.plugins.insert name plugin } with
    | (_, some error) => (registry, some error)
    | (entered, none) => (entered, none)

/-- The warnings about hooks that are not specified. -/
def unknownHooks (name : Text) (blueprint : Blueprint) : List Notice :=
  (blueprint.sortedMethods.filter fun m => !m.isOptional && m.hook?.isNone).map fun m =>
    .unknownHook name m.hookName

/-- Check the hooks of a plugin, unless its name has been checked before. -/
def check (registry : Registry) (name : Text) (plugin : Plugin) : Registry × List Notice :=
  if registry.checked.contains name then (registry, [])
  else
    ({ registry with checked := registry.checked ++ [name] },
      unknownHooks name plugin.blueprint)

/-- Register a plugin, under its default name if no name or an empty one is given. -/
def register (registry : Registry) (plugin : Plugin) (name : Option Text) : Step :=
  let name :=
    match name with
    | some (c :: rest) => c :: rest
    | _ => plugin.defaultName
  match registry.enter plugin name with
  | (registry, some error) => ⟨registry, [], some error⟩
  | (registry, none) =>
    let (registry, notices) := registry.check name plugin
    ⟨registry, .registered name :: notices, none⟩

/-- Remove the plugin of a name with all its implementations. -/
def remove (registry : Registry) (name : Text) (identity : Identity) : Registry :=
  { registry with
    plugins := registry.plugins.erase name
    implementations := registry.implementations.filter fun i => i.plugin.identity ≠ identity }

/-- Unregister a plugin; its name may then be checked again. -/
def unregister (registry : Registry) (plugin : Plugin) : Step :=
  match registry.nameOf? plugin.identity with
  | none => ⟨registry, [], some .notRegistered⟩
  | some name =>
    let registry := registry.remove name plugin.identity
    ⟨{ registry with checked := registry.checked.filter fun n => n ≠ name }, [], none⟩

/-- The plugins that a hook calls, the latest first. -/
def listeners (registry : Registry) (hook : Hook) : List Plugin :=
  ((registry.implementations.filter fun i => i.hook = hook).map Implementation.plugin).reverse

/-- The plugins that answer. A call ends at a blueprint: there is no object that it could be made
to. -/
def answering : List Plugin → List Plugin × Option PluginError
  | [] => ([], none)
  | plugin :: rest =>
    match plugin.form with
    | .blueprint => ([], some .notInstantiated)
    | .object =>
      let (answered, error) := answering rest
      (plugin :: answered, error)

end Registry

/-- A delivery that one plugin received. -/
structure Receipt where
  plugin : Plugin
  delivery : Delivery

/-- The hook that a delivery goes to. -/
def Delivery.hook : Delivery → Hook
  | .rules _ => .addUtilities
  | .resolvers _ => .matchUtilities

namespace Registry

/-- Hand one delivery to every listening plugin. -/
def deliver (registry : Registry) (delivery : Delivery) : List Receipt × Option PluginError :=
  let (answered, error) := answering (registry.listeners delivery.hook)
  (answered.map fun plugin => ⟨plugin, delivery⟩, error)

/-- Hand deliveries over in order, up to the first call that fails. -/
def deliverAll (registry : Registry) : List Delivery → List Receipt × Option PluginError
  | [] => ([], none)
  | delivery :: rest =>
    match registry.deliver delivery with
    | (receipts, some error) => (receipts, some error)
    | (receipts, none) =>
      let (later, error) := deliverAll registry rest
      (receipts ++ later, error)

/-- The warning to the user about a contribution that cannot be used. -/
def contributionWarning : Text := "Ignored non-dict layout registrations from a plugin".toList

/-- The contributions merged in order, later ones over earlier ones. -/
def mergeContributions (contributions : List Contribution) : LayoutSources :=
  contributions.foldl
    (fun merged c =>
      match c with
      | .layouts sources => merged.update sources
      | _ => merged)
    .empty

/-- What asking the plugins for layouts gives. -/
structure Collected where
  sources : LayoutSources
  warnings : List Text
  notices : List Notice

/-- Ask every plugin for layouts and merge the answers in the order of registration. -/
def collect (registry : Registry) : Except PluginError Collected :=
  match answering (registry.listeners .registerLayouts) with
  | (_, some error) => .error error
  | (answered, none) =>
    let contributions := (answered.map fun plugin => plugin.blueprint.contribution).reverse
    let unusable := contributions.filter fun c => c matches .unusable
    .ok
      { sources := mergeContributions contributions
        warnings := unusable.map fun _ => contributionWarning
        notices := unusable.map fun _ => .unusableContribution }

end Registry

end NamedGrid
