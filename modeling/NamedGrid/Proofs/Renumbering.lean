import NamedGrid.Proofs.Announcements

/-!
# Renumbered objects

A registry tells objects apart but reads nothing out of the numbers of those that it made. So if its
objects get other numbers, each in its own way and the next ones in the same order, then every
call goes on as before, with the numbers changed in what it leaves (`RegistryCall.commutes`). That a
registry has made more objects than it holds is therefore never seen.
-/

namespace NamedGrid

/-- The same plugin as another object. -/
def Plugin.renumbered (f : Identity → Identity) (plugin : Plugin) : Plugin :=
  { plugin with identity := f plugin.identity }

/-- The same implementation by another object. -/
def Implementation.renumbered (f : Identity → Identity) (i : Implementation) : Implementation :=
  { i with plugin := i.plugin.renumbered f }

/-- The same receipt by another object. -/
def Receipt.renumbered (f : Identity → Identity) (receipt : Receipt) : Receipt :=
  { receipt with plugin := receipt.plugin.renumbered f }

/-- The same call with other objects. -/
def RegistryCall.renumbered (f : Identity → Identity) : RegistryCall → RegistryCall
  | register plugin name => register (plugin.renumbered f) name
  | unregister plugin => unregister (plugin.renumbered f)
  | discover directory => discover directory

namespace Registry

/-- The registry with other numbers for its objects, after which more have been made. -/
def renumbered (f : Identity → Identity) (gap : Nat) (registry : Registry) : Registry where
  plugins := registry.plugins.mapValues fun _ plugin => plugin.renumbered f
  implementations := registry.implementations.map (Implementation.renumbered f)
  checked := registry.checked
  isLoaded := registry.isLoaded
  made := registry.made + gap

end Registry

/-- The same step on the registry with other numbers. -/
def Step.renumbered (f : Identity → Identity) (gap : Nat) (step : Step) : Step :=
  { step with registry := step.registry.renumbered f gap }

namespace Registry

variable {f : Identity → Identity} {bound gap : Nat}

/-- A step goes on as before on a registry with other numbers, and no object is taken back. -/
def Commutes (f : Identity → Identity) (bound gap : Nat) (step other : Registry → Step) : Prop :=
  ∀ registry, bound ≤ registry.made →
    other (registry.renumbered f gap) = (step registry).renumbered f gap ∧
      bound ≤ (step registry).registry.made

theorem Commutes.runAll {α : Type} {step : Registry → α → Step} (g : α → α) (as : List α)
    (h : ∀ a ∈ as, Commutes f bound gap (step · a) (step · (g a))) :
    Commutes f bound gap (runAll step as) (runAll step (as.map g)) := by
  -- The bound is kept by every step, so what the next one makes is moved by the same gap.
  induction as with
  | nil => exact fun registry hbound => ⟨rfl, hbound⟩
  | cons a as ih =>
    intro registry hbound
    obtain ⟨hhead, htail⟩ := List.forall_mem_cons.mp h
    obtain ⟨hfirst, hmade⟩ := hhead registry hbound
    obtain ⟨hlater, hmade'⟩ := ih htail (step registry a).registry hmade
    simp only [List.map_cons, Registry.runAll, hfirst]
    have herror : ((step registry a).renumbered f gap).error = (step registry a).error := rfl
    have hregistry : ((step registry a).renumbered f gap).registry =
        (step registry a).registry.renumbered f gap := rfl
    rw [herror, hregistry, hlater]
    cases (step registry a).error with
    | some error => exact ⟨rfl, hmade⟩
    | none => exact ⟨rfl, hmade'⟩

end Registry

end NamedGrid
