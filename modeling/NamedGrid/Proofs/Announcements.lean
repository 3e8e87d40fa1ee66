import NamedGrid.Proofs.Discoveries

/-!
# Warnings about unknown hooks

When a plugin is registered, the registry warns of each of its methods that implements a hook
without specification, unless the name of the plugin is one whose hooks have been checked. A
name stays checked until its plugin is unregistered. So it does where discovery drops a blueprint
because no instance of it can be made: the next plugin of that name is registered without a
warning. The main result says for every run of calls, with failing ones among them, how often
each warning comes: as often as there are methods that call for it, or never if the name has been
silenced in this way.
-/

namespace NamedGrid

/-- A call of a registry. -/
inductive RegistryCall
  | register (plugin : Plugin) (name : Option Text)
  | unregister (plugin : Plugin)
  | discover (directory : Option (List PluginFile))

namespace RegistryCall

/-- What a call does, also if it fails. -/
def perform (registry : Registry) : RegistryCall → Step
  | register plugin name => registry.register plugin name
  | unregister plugin => registry.unregister plugin
  | discover directory => registry.discover directory

/-- Does a call unregister the plugin of a name? -/
def Releases (registry : Registry) (name : Text) : RegistryCall → Prop
  | unregister plugin => registry.nameOf? plugin.identity = some name
  | _ => False

/-- Is a call a discovery that leaves no instance in the place of the blueprint of a name? -/
def Drops (registry : Registry) (name : Text) : RegistryCall → Prop
  | discover _ => ∃ plugin, registry.plugins.get? name = some plugin ∧
      registry.replaceBlueprints.registry.plugins.get? name = none
  | _ => False

/-- A call registers a plugin under a name with success. Discovery does so after it has put
instances in the place of blueprints. -/
inductive Gains (registry : Registry) (name : Text) (plugin : Plugin) : RegistryCall → Prop
  | register {given : Option Text} (hname : Registry.chosenName plugin given = name)
      (hok : (registry.register plugin given).error = none) :
      Gains registry name plugin (register plugin given)
  | discover {directory : Option (List PluginFile)}
      (hold : registry.replaceBlueprints.registry.plugins.get? name ≠ some plugin)
      (hnew : (registry.discover directory).registry.plugins.get? name = some plugin) :
      Gains registry name plugin (discover directory)

end RegistryCall

namespace Registry

/-- The registry after calls. -/
def after (registry : Registry) : List RegistryCall → Registry
  | [] => registry
  | call :: calls => after (call.perform registry).registry calls

/-- What calls report. -/
def log (registry : Registry) : List RegistryCall → List Notice
  | [] => []
  | call :: calls => (call.perform registry).notices ++ log (call.perform registry).registry calls

/-- No call unregisters the plugin of a name. -/
def Held (name : Text) (registry : Registry) : List RegistryCall → Prop
  | [] => True
  | call :: calls =>
    ¬call.Releases registry name ∧ Held name (call.perform registry).registry calls

/-- Some call dropped the blueprint of a name, and none after it unregistered the plugin of that
name. -/
def Silenced (name : Text) (registry : Registry) : List RegistryCall → Prop
  | [] => False
  | call :: calls =>
    (call.Drops registry name ∧ Held name (call.perform registry).registry calls) ∨
      Silenced name (call.perform registry).registry calls

theorem after_concat (registry : Registry) (calls : List RegistryCall) (call : RegistryCall) :
    registry.after (calls ++ [call]) = (call.perform (registry.after calls)).registry := by
  induction calls generalizing registry with
  | nil => rfl
  | cons first calls ih => exact ih (first.perform registry).registry

theorem held_concat_iff {name : Text} {registry : Registry} {calls : List RegistryCall}
    {call : RegistryCall} :
    Held name registry (calls ++ [call]) ↔
      Held name registry calls ∧ ¬call.Releases (registry.after calls) name := by
  induction calls generalizing registry with
  | nil => simp [Held, after]
  | cons first calls ih => simp [Held, after, ih, and_assoc]

/-- A name is silenced by the last call, or was silenced before and is not released by it. -/
theorem silenced_concat_iff {name : Text} {registry : Registry} {calls : List RegistryCall}
    {call : RegistryCall} :
    Silenced name registry (calls ++ [call]) ↔
      call.Drops (registry.after calls) name ∨
        (Silenced name registry calls ∧ ¬call.Releases (registry.after calls) name) := by
  induction calls generalizing registry with
  | nil => simp [Silenced, Held, after]
  | cons first calls ih =>
    simp only [List.cons_append, Silenced, held_concat_iff, ih, after]
    tauto

/-! ## One name in one step -/

/-- A step reports nothing about the hooks of a name and leaves the name checked or unchecked. -/
structure Quiet (name : Text) (registry : Registry) (step : Step) : Prop where
  checked : name ∈ step.registry.checked ↔ name ∈ registry.checked
  silent : ∀ hook, Notice.unknownHook name hook ∉ step.notices

theorem Quiet.append {name : Text} {registry : Registry} {first later : Step}
    (hfirst : Quiet name registry first) (hlater : Quiet name first.registry later) :
    Quiet name registry { later with notices := first.notices ++ later.notices } where
  checked := hlater.checked.trans hfirst.checked
  silent hook hm := (List.mem_append.mp hm).elim (hfirst.silent hook) (hlater.silent hook)

theorem Quiet.count {name : Text} {registry : Registry} {step : Step}
    (h : Quiet name registry step) (hook : Text) :
    step.notices.count (.unknownHook name hook) = 0 :=
  List.count_eq_zero.mpr (h.silent hook)

/-- What a step can do to a name that enters plugins and checks them. -/
inductive Arrives (name : Text) (registry : Registry) (step : Step) : Prop
  /-- Nothing happens to the name. -/
  | leaves (hplugin : step.registry.plugins.get? name = registry.plugins.get? name)
      (hquiet : Quiet name registry step)
  /-- A plugin comes and its hooks are checked. -/
  | checks (plugin : Plugin) (hold : registry.plugins.get? name = none)
      (hnew : step.registry.plugins.get? name = some plugin)
      (hchecked : name ∈ step.registry.checked)
      (hcount : ∀ hook, step.notices.count (.unknownHook name hook) =
        if name ∈ registry.checked then 0
        else (unknownHooks name plugin.blueprint).count (.unknownHook name hook))

namespace Arrives

variable {name : Text} {registry : Registry}

/-- Once a plugin has come under a name, nothing else happens to the name. -/
theorem leaves_of_some {plugin : Plugin} {step : Step} (h : Arrives name registry step)
    (hplugin : registry.plugins.get? name = some plugin) :
    step.registry.plugins.get? name = registry.plugins.get? name ∧ Quiet name registry step := by
  cases h with
  | leaves hsame hquiet => exact ⟨hsame, hquiet⟩
  | checks _ hold => exact absurd (hplugin.symm.trans hold) nofun

theorem append {first later : Step} (hfirst : Arrives name registry first)
    (hlater : Arrives name first.registry later) :
    Arrives name registry { later with notices := first.notices ++ later.notices } := by
  cases hfirst with
  | leaves hsame hquiet =>
    cases hlater with
    | leaves hsame' hquiet' => exact .leaves (hsame'.trans hsame) (hquiet.append hquiet')
    | checks plugin hold hnew hchecked hcount =>
      refine .checks plugin (hsame.symm.trans hold) hnew hchecked fun hook => ?_
      rw [List.count_append, hquiet.count, Nat.zero_add, hcount]
      simp only [hquiet.checked]
  | checks plugin hold hnew hchecked hcount =>
    obtain ⟨hsame, hquiet⟩ := hlater.leaves_of_some hnew
    refine .checks plugin hold (hsame.trans hnew) (hquiet.checked.mpr hchecked)
      fun hook => ?_
    rw [List.count_append, hquiet.count, Nat.add_zero, hcount]

/-- To make an object does nothing to any name. -/
theorem of_instantiate {blueprint : Blueprint} {step : Step}
    (h : Arrives name (registry.instantiate blueprint).2 step) : Arrives name registry step := by
  cases h with
  | leaves hsame hquiet => exact .leaves hsame ⟨hquiet.checked, hquiet.silent⟩
  | checks plugin hold hnew hchecked hcount => exact .checks plugin hold hnew hchecked hcount

/-- A name that is checked stays so, and nothing is reported about its hooks. -/
theorem quiet_of_checked {step : Step} (h : Arrives name registry step)
    (hchecked : name ∈ registry.checked) : Quiet name registry step := by
  cases h with
  | leaves _ hquiet => exact hquiet
  | checks _ _ _ hafter hcount =>
    refine ⟨iff_of_true hafter hchecked, fun hook => List.count_eq_zero.mp ?_⟩
    rw [hcount, if_pos hchecked]

end Arrives

/-! ## Registering -/

/-- Reports about unknown hooks name the plugin. -/
theorem unknownHook_mem_unknownHooks {name other hook : Text} {blueprint : Blueprint}
    (h : Notice.unknownHook name hook ∈ unknownHooks other blueprint) : name = other := by
  obtain ⟨method, -, hnotice⟩ := List.mem_map.mp h
  cases hnotice
  rfl

/-- Checking hooks leaves other names as they are. -/
theorem quiet_check_of_ne (registry : Registry) {name other : Text} (plugin : Plugin)
    (hne : name ≠ other) (error : Option PluginError) :
    Quiet name registry
      ⟨(registry.check other plugin).1, (registry.check other plugin).2, error⟩ := by
  unfold check
  split
  · exact ⟨Iff.rfl, fun _ => List.not_mem_nil⟩
  · exact ⟨by simp [hne], fun hook hm => hne (unknownHook_mem_unknownHooks hm)⟩

/-- A step that changes nothing and reports nothing about hooks does nothing to any name. -/
theorem arrives_of_silent {name : Text} (registry : Registry) {notices : List Notice}
    (hsilent : ∀ hook, Notice.unknownHook name hook ∉ notices) (error : Option PluginError) :
    Arrives name registry ⟨registry, notices, error⟩ := .leaves rfl ⟨Iff.rfl, hsilent⟩

/-- A plugin that comes under a new name is checked. -/
theorem arrives_of_withPlugin {registry : Registry} (plugin : Plugin) {other : Text}
    (hnew : other ∉ registry.names) (name : Text) :
    let entered := registry.withPlugin plugin other
    Arrives name registry
      ⟨(entered.check other plugin).1, .registered other :: (entered.check other plugin).2,
        none⟩ := by
  intro entered
  have hget : (entered.check other plugin).1.plugins.get? name =
      if other = name then some plugin else registry.plugins.get? name := by
    obtain ⟨checked, hcheck⟩ := check_registry entered other plugin
    rw [hcheck]
    exact Table.get?_insert ..
  by_cases hname : other = name
  · subst hname
    rw [if_pos rfl] at hget
    refine .checks plugin (Table.get?_eq_none_iff.mpr hnew) hget ?_ fun hook => ?_
    · unfold check
      split
      · rename_i hcontains
        exact List.contains_iff_mem.mp hcontains
      · simp
    · have hchecked : entered.checked = registry.checked := rfl
      unfold check
      simp only [List.contains_iff_mem, hchecked]
      split <;> simp
  · rw [if_neg hname] at hget
    have hquiet := quiet_check_of_ne entered plugin (Ne.symm hname) none
    refine .leaves hget ⟨hquiet.checked, fun hook hm => ?_⟩
    rcases List.mem_cons.mp hm with hm | hm
    · cases hm
    · exact hquiet.silent hook hm

theorem register_arrives (registry : Registry) (plugin : Plugin) (given : Option Text)
    (name : Text) : Arrives name registry (registry.register plugin given) := by
  rcases registry.register_cases plugin given with ⟨error, -, hstep⟩ | ⟨henter, hstep⟩
  · rw [hstep]
    exact arrives_of_silent registry (fun _ => List.not_mem_nil) _
  · rw [hstep]
    exact arrives_of_withPlugin plugin (enter_error_iff.mp (congrArg Prod.snd henter)).1 name

theorem loadDirectory_arrives (registry : Registry) (directory : Option (List PluginFile))
    (name : Text) : Arrives name registry (registry.loadDirectory directory) := by
  refine loadDirectory_compose (R := Arrives name)
    (fun r => arrives_of_silent r (fun _ => List.not_mem_nil) none) (fun _ _ _ => Arrives.append)
    (fun r file => arrives_of_silent r (by simp) none)
    (fun r code => arrives_of_silent r (fun _ => List.not_mem_nil) _)
    (fun file r blueprint => ?_) registry directory
  have hfailed : ∀ hook, Notice.unknownHook name hook ∉
      [Notice.classFailed blueprint.className file.fileName] := by simp
  rcases loadBlueprint_cases file r blueprint with ⟨-, hstep⟩ | ⟨-, -, hstep⟩ |
    ⟨-, -, -, hstep⟩ | ⟨-, -, henter, hstep⟩
  · rw [hstep]
    exact arrives_of_silent r (fun _ => List.not_mem_nil) none
  · rw [hstep]
    exact arrives_of_silent r hfailed none
  · rw [hstep]
    exact (arrives_of_silent _ hfailed none).of_instantiate
  · rw [hstep]
    exact (arrives_of_withPlugin _ (enter_error_iff.mp (congrArg Prod.snd henter)).1
      name).of_instantiate

/-! ## Replacing and checking -/

/-- A replacement reports nothing about hooks and does nothing to other names. Its own name is then
free or has an object of the same kind. -/
theorem replaceBlueprint_spec (registry : Registry) (name : Text) (plugin : Plugin) :
    let step := registry.replaceBlueprint name plugin
    (∀ other, Quiet other registry step) ∧
      (∀ other, other ≠ name → step.registry.plugins.get? other = registry.plugins.get? other) ∧
      (step.registry.plugins.get? name = none ∨
        ∃ made, step.registry.plugins.get? name = some made ∧
          made.blueprint = plugin.blueprint ∧ made.form = .object) := by
  intro step
  have hremoved : ∀ other, (registry.remove name plugin.identity).plugins.get? other =
      if other = name then none else registry.plugins.get? other :=
    registry.plugins.get?_erase name
  rcases registry.replaceBlueprint_cases name plugin with ⟨-, hstep⟩ | ⟨-, hstep⟩
  · simp only [step, hstep]
    refine ⟨fun other => ⟨Iff.rfl, by simp⟩, fun other hne => ?_, .inl ?_⟩
    · rw [hremoved, if_neg hne]
    · rw [hremoved, if_pos rfl]
  · simp only [step, hstep]
    rcases enter_cases ((registry.remove name plugin.identity).instantiate plugin.blueprint).2
      ((registry.remove name plugin.identity).instantiate plugin.blueprint).1 name with
      hsame | hentered
    · rw [hsame]
      refine ⟨fun other => ⟨Iff.rfl, fun _ => List.not_mem_nil⟩, fun other hne => ?_, .inl ?_⟩
      · exact (hremoved other).trans (if_neg hne)
      · exact (hremoved name).trans (if_pos rfl)
    · rw [hentered, withPlugin]
      refine ⟨fun other => ⟨Iff.rfl, fun _ => List.not_mem_nil⟩, fun other hne => ?_, .inr
        ⟨((registry.remove name plugin.identity).instantiate plugin.blueprint).1, ?_, rfl, rfl⟩⟩
      · rw [Table.get?_insert, if_neg hne.symm]
        exact (hremoved other).trans (if_neg hne)
      · rw [Table.get?_insert, if_pos rfl]

section Replacing

variable (registry : Registry) (order : List (Text × Plugin)) {name : Text}

theorem replaceIn_quiet (name : Text) : Quiet name registry (registry.replaceIn order) :=
  runAll_compose (R := Quiet name) (fun _ => ⟨Iff.rfl, fun _ => List.not_mem_nil⟩)
    (fun _ _ _ => Quiet.append) (fun e _ r => (r.replaceBlueprint_spec e.1 e.2).1 name) registry

/-- Under a name there is what was there before, or nothing, or an object of the kind that was to
be replaced. -/
theorem replaceIn_get? (name : Text) :
    let replaced := (registry.replaceIn order).registry
    replaced.plugins.get? name = registry.plugins.get? name ∨
      replaced.plugins.get? name = none ∨
      ∃ plugin made, (name, plugin) ∈ order ∧ replaced.plugins.get? name = some made ∧
        made.blueprint = plugin.blueprint ∧ made.form = .object := by
  refine runAll_compose (R := fun r step =>
    step.registry.plugins.get? name = r.plugins.get? name ∨
      step.registry.plugins.get? name = none ∨
      ∃ plugin made, (name, plugin) ∈ order ∧ step.registry.plugins.get? name = some made ∧
        made.blueprint = plugin.blueprint ∧ made.form = .object)
    (fun _ => .inl rfl) (fun r first later hfirst hlater => ?_) (fun e he r => ?_) registry
  · rcases hlater with hsame | hlater
    · simpa only [hsame] using hfirst
    · exact .inr hlater
  · obtain ⟨-, hother, hown⟩ := r.replaceBlueprint_spec e.1 e.2
    by_cases hname : name = e.1
    · subst hname
      obtain hnone | ⟨made, hmade⟩ := hown
      · exact .inr (.inl hnone)
      · exact .inr (.inr ⟨e.2, made, he, hmade⟩)
    · exact .inl (hother name hname)

end Replacing

/-- Checking all hooks leaves the plugins. It is quiet about names that are free or checked. -/
theorem checkAll_spec (registry : Registry) (name : Text) :
    registry.checkAll.registry.plugins.get? name = registry.plugins.get? name ∧
      (name ∈ registry.checked ∨ registry.plugins.get? name = none →
        Quiet name registry registry.checkAll) := by
  rw [Table.get?_eq_none_iff]
  refine runAll_compose (R := fun r step =>
    step.registry.plugins.get? name = r.plugins.get? name ∧
      (name ∈ r.checked ∨ name ∉ registry.plugins.keys → Quiet name r step))
    (fun _ => ⟨rfl, fun _ => ⟨Iff.rfl, fun _ => List.not_mem_nil⟩⟩)
    (fun r first later hfirst hlater => ⟨hlater.1.trans hfirst.1, fun hname => ?_⟩)
    (fun e he r => ⟨?_, fun hname => ?_⟩) registry
  · have hquiet := hfirst.2 hname
    exact hquiet.append (hlater.2 (hname.imp_left hquiet.checked.mpr))
  · obtain ⟨checked, hcheck⟩ := check_registry r e.1 e.2
    simp only [hcheck]
  · by_cases hne : name = e.1
    · have hchecked : name ∈ r.checked :=
        hname.resolve_right fun hnew => hnew (hne ▸ List.mem_map_of_mem he)
      have hcheck : r.check e.1 e.2 = (r, []) := by
        rw [check, if_pos (List.contains_iff_mem.mpr (hne ▸ hchecked))]
      simp only [hcheck]
      exact ⟨Iff.rfl, fun _ => List.not_mem_nil⟩
    · exact quiet_check_of_ne r e.2 hne _

/-! ## One name in one call -/

/-- A name is checked exactly if it has a plugin or is silenced. -/
structure Accounted (name : Text) (registry : Registry) (silenced : Prop) : Prop where
  of_some : ∀ plugin, registry.plugins.get? name = some plugin → name ∈ registry.checked
  of_silenced : silenced → name ∈ registry.checked
  checked : name ∈ registry.checked → silenced ∨
    ∃ plugin, registry.plugins.get? name = some plugin

namespace Accounted

variable {name : Text} {registry : Registry} {silenced : Prop}

theorem arrives {step : Step} (h : Accounted name registry silenced)
    (harrives : Arrives name registry step) : Accounted name step.registry silenced := by
  cases harrives with
  | leaves hsame hquiet =>
    exact ⟨fun plugin hp => hquiet.checked.mpr (h.of_some plugin (hsame ▸ hp)),
      fun hs => hquiet.checked.mpr (h.of_silenced hs),
      fun hc => hsame ▸ h.checked (hquiet.checked.mp hc)⟩
  | checks plugin _ hnew hchecked _ =>
    exact ⟨fun _ _ => hchecked, fun _ => hchecked, fun _ => .inr ⟨plugin, hnew⟩⟩

theorem unregister (h : Accounted name registry silenced) (plugin : Plugin) :
    Accounted name (registry.unregister plugin).registry
      (silenced ∧ ¬(RegistryCall.unregister plugin).Releases registry name) := by
  unfold Registry.unregister
  simp only [RegistryCall.Releases]
  cases hname : registry.nameOf? plugin.identity with
  | none => simpa using h
  | some other =>
    have hget : (registry.remove other plugin.identity).plugins.get? name =
        if name = other then none else registry.plugins.get? name :=
      registry.plugins.get?_erase other name
    by_cases hsame : other = name
    · subst hsame
      rw [if_pos rfl] at hget
      refine ⟨fun p hp => ?_, fun hs => absurd rfl hs.2, fun hc => ?_⟩
      · exact absurd (hp.symm.trans hget) nofun
      · exact absurd rfl (of_decide_eq_true (List.mem_filter.mp hc).2)
    · rw [if_neg (Ne.symm hsame)] at hget
      have hchecked : name ∈ registry.checked.filter (fun n => n ≠ other) ↔
          name ∈ registry.checked := by simp [Ne.symm hsame]
      refine ⟨fun p hp => hchecked.mpr (h.of_some p (hget.symm.trans hp)),
        fun hs => hchecked.mpr (h.of_silenced hs.1), fun hc => ?_⟩
      dsimp only
      rw [hget]
      exact (h.checked (hchecked.mp hc)).imp_left fun hs => ⟨hs, fun h => hsame (Option.some.inj h)⟩

/-- A name without a plugin has been checked exactly if it is silenced. -/
theorem checked_iff (h : Accounted name registry silenced)
    (hnone : registry.plugins.get? name = none) : name ∈ registry.checked ↔ silenced := by
  refine ⟨fun hc => (h.checked hc).resolve_right ?_, h.of_silenced⟩
  rintro ⟨plugin, hp⟩
  cases hp.symm.trans hnone

/-- After replacing, a name that was dropped counts as silenced. -/
theorem replaceIn (h : Accounted name registry silenced)
    (directory : Option (List PluginFile)) :
    Accounted name (registry.replaceIn registry.waiting).registry
      ((RegistryCall.discover directory).Drops registry name ∨ silenced) := by
  have hquiet : Quiet name registry (registry.replaceIn registry.waiting) :=
    replaceIn_quiet registry registry.waiting name
  refine ⟨fun plugin hp => hquiet.checked.mpr ?_, fun hs => hquiet.checked.mpr ?_, fun hc => ?_⟩
  · rcases replaceIn_get? registry registry.waiting name with
      hsame | hnone | ⟨old, made, hold, hmade, -⟩
    · exact h.of_some plugin (hsame.symm.trans hp)
    · exact absurd (hp.symm.trans hnone) nofun
    · exact h.of_some old (Table.get?_eq_some_iff.mpr (List.mem_filter.mp hold).1)
  · rcases hs with ⟨plugin, hp, -⟩ | hs
    · exact h.of_some plugin hp
    · exact h.of_silenced hs
  · rcases h.checked (hquiet.checked.mp hc) with hs | ⟨plugin, hp⟩
    · exact .inl (.inr hs)
    · cases hreplaced : (registry.replaceIn registry.waiting).registry.plugins.get? name with
      | none => exact .inl (.inl ⟨plugin, hp, hreplaced⟩)
      | some made => exact .inr ⟨made, rfl⟩

/-- Checking all hooks checks no name but those of plugins. -/
theorem checkAll (h : Accounted name registry silenced) :
    Accounted name registry.checkAll.registry silenced := by
  obtain ⟨hsame, hquiet⟩ := registry.checkAll_spec name
  have hkept : name ∈ registry.checked → name ∈ registry.checkAll.registry.checked := fun hc =>
    (hquiet (.inl hc)).checked.mpr hc
  refine ⟨fun plugin hp => hkept (h.of_some plugin (hsame ▸ hp)),
    fun hs => hkept (h.of_silenced hs), fun hc => ?_⟩
  rw [hsame]
  cases hp : registry.plugins.get? name with
  | none =>
    have hbefore := h.checked ((hquiet (.inr hp)).checked.mp hc)
    rwa [hp] at hbefore
  | some plugin => exact .inr ⟨plugin, rfl⟩

theorem discover (h : Accounted name registry silenced) (directory : Option (List PluginFile)) :
    Accounted name (registry.discover directory).registry
      ((RegistryCall.discover directory).Drops registry name ∨ silenced) := by
  have hreplaced := h.replaceIn directory
  have hloaded := hreplaced.checkAll.arrives (loadDirectory_arrives _ directory name)
  rcases registry.discover_cases directory with ⟨-, hstep⟩ | ⟨-, -, hstep⟩ | ⟨-, -, hstep⟩
  · rwa [hstep]
  · rwa [hstep]
  · rw [hstep]
    exact ⟨hloaded.of_some, hloaded.of_silenced, hloaded.checked⟩

/-- Every call accounts for the name again. -/
theorem perform (h : Accounted name registry silenced) (call : RegistryCall) :
    Accounted name (call.perform registry).registry
      (call.Drops registry name ∨ (silenced ∧ ¬call.Releases registry name)) := by
  cases call with
  | register plugin given =>
    simpa [RegistryCall.perform, RegistryCall.Drops, RegistryCall.Releases] using
      h.arrives (registry.register_arrives plugin given name)
  | unregister plugin => simpa [RegistryCall.perform, RegistryCall.Drops] using h.unregister plugin
  | discover directory =>
    simpa [RegistryCall.perform, RegistryCall.Releases] using h.discover directory

end Accounted

/-- After every run from the empty registry a name is accounted for. -/
theorem accounted_after (name : Text) (calls : List RegistryCall) :
    Accounted name (Registry.empty.after calls) (Silenced name .empty calls) := by
  induction calls using List.reverseRecOn with
  | nil => exact ⟨nofun, nofun, nofun⟩
  | append_singleton calls call ih =>
    rw [after_concat, silenced_concat_iff]
    exact ih.perform call

/-- A call that does not unregister the plugin of a checked name leaves the name checked and
reports nothing about its hooks. -/
theorem perform_quiet {name : Text} {registry : Registry} {call : RegistryCall}
    (hchecked : name ∈ registry.checked) (hheld : ¬call.Releases registry name) :
    Quiet name registry (call.perform registry) := by
  cases call with
  | register plugin given =>
    exact (registry.register_arrives plugin given name).quiet_of_checked hchecked
  | unregister plugin =>
    simp only [RegistryCall.perform, Registry.unregister]
    cases hname : registry.nameOf? plugin.identity with
    | none => exact ⟨Iff.rfl, fun _ => List.not_mem_nil⟩
    | some other =>
      have hne : name ≠ other := fun heq => hheld (heq ▸ hname)
      exact ⟨by simp [Registry.remove, hne], fun _ => List.not_mem_nil⟩
  | discover directory =>
    have hreplaced : Quiet name registry (registry.replaceIn registry.waiting) :=
      replaceIn_quiet registry registry.waiting name
    have hcheckedAll := (checkAll_spec (registry.replaceIn registry.waiting).registry name).2
      (.inl (hreplaced.checked.mpr hchecked))
    have hloaded := (loadDirectory_arrives _ directory name).quiet_of_checked
      (hcheckedAll.checked.mpr (hreplaced.checked.mpr hchecked))
    have hall := hreplaced.append (hcheckedAll.append hloaded)
    simp only [RegistryCall.perform]
    rcases registry.discover_cases directory with ⟨-, hstep⟩ | ⟨-, -, hstep⟩ | ⟨-, -, hstep⟩
    · rwa [hstep]
    · rw [hstep]
      exact ⟨hall.checked, hall.silent⟩
    · rw [hstep]
      exact ⟨hall.checked, hall.silent⟩

/-- Nothing is reported about the hooks of a checked name until its plugin is unregistered. -/
theorem count_log_eq_zero {name : Text} {registry : Registry} (hchecked : name ∈ registry.checked)
    {calls : List RegistryCall} (hheld : Held name registry calls) (hook : Text) :
    (registry.log calls).count (.unknownHook name hook) = 0 := by
  induction calls generalizing registry with
  | nil => rfl
  | cons call calls ih =>
    obtain ⟨hcall, hcalls⟩ := hheld
    have hquiet := perform_quiet hchecked hcall
    rw [log, List.count_append, hquiet.count, ih (hquiet.checked.mpr hchecked) hcalls]

/-! ## Plugins that are gained -/

/-- A plugin that has come under a name by arriving is checked, and its hooks are reported unless
the name was checked before. -/
theorem Arrives.gained {name : Text} {registry : Registry} {step : Step} {plugin : Plugin}
    (h : Arrives name registry step) (hold : registry.plugins.get? name ≠ some plugin)
    (hnew : step.registry.plugins.get? name = some plugin) :
    registry.plugins.get? name = none ∧ name ∈ step.registry.checked ∧
      ∀ hook, step.notices.count (.unknownHook name hook) =
        if name ∈ registry.checked then 0
        else (unknownHooks name plugin.blueprint).count (.unknownHook name hook) := by
  cases h with
  | leaves hsame => exact absurd (hsame.symm.trans hnew) hold
  | checks other hnone hother hchecked hcount =>
    have heq : plugin = other := Option.some.inj (hnew.symm.trans hother)
    exact ⟨hnone, hchecked, heq ▸ hcount⟩

/-- A name under which a registration enters a plugin had none and is checked then, and the hooks of
the plugin are reported unless the name was checked before. -/
theorem register_gained {name : Text} {registry : Registry} {plugin : Plugin}
    {given : Option Text} (hname : chosenName plugin given = name)
    (hok : (registry.register plugin given).error = none) :
    registry.plugins.get? name = none ∧ name ∈ (registry.register plugin given).registry.checked ∧
      ∀ hook, (registry.register plugin given).notices.count (.unknownHook name hook) =
        if name ∈ registry.checked then 0
        else (unknownHooks name plugin.blueprint).count (.unknownHook name hook) := by
  obtain ⟨error, -, hstep⟩ | ⟨henter, hstep⟩ := registry.register_cases plugin given
  · rw [hstep] at hok
    cases hok
  rw [hname] at henter hstep
  obtain ⟨hfree, -, -⟩ := enter_error_iff.mp (congrArg Prod.snd henter)
  have hnone : registry.plugins.get? name = none := Table.get?_eq_none_iff.mpr hfree
  have hnew : (registry.register plugin given).registry.plugins.get? name = some plugin := by
    obtain ⟨checked, hcheck⟩ := check_registry (registry.withPlugin plugin name) name plugin
    rw [hstep, hcheck, withPlugin, Table.get?_insert, if_pos rfl]
  exact (registry.register_arrives plugin given name).gained (by simp [hnone]) hnew

/-- A plugin that did not come with the replacements comes from a file. Its name had no plugin when
the files were loaded, and its hooks are reported unless the name was checked before. -/
theorem discover_gained {name : Text} {registry : Registry} {plugin : Plugin}
    {directory : Option (List PluginFile)}
    (hold : registry.replaceBlueprints.registry.plugins.get? name ≠ some plugin)
    (hnew : (registry.discover directory).registry.plugins.get? name = some plugin) :
    (registry.replaceIn registry.waiting).registry.plugins.get? name = none ∧
      name ∈ (registry.discover directory).registry.checked ∧
      ∀ hook, (registry.discover directory).notices.count (.unknownHook name hook) =
        if name ∈ registry.checked then 0
        else (unknownHooks name plugin.blueprint).count (.unknownHook name hook) := by
  have hreplaced : Quiet name registry (registry.replaceIn registry.waiting) :=
    replaceIn_quiet registry registry.waiting name
  obtain ⟨hsame, hquiet⟩ := checkAll_spec (registry.replaceIn registry.waiting).registry name
  obtain ⟨hnewLoaded, hchecks, hreports⟩ :
      ((registry.replaceIn registry.waiting).registry.checkAll.registry.loadDirectory
          directory).registry.plugins.get? name = some plugin ∧
        (registry.discover directory).registry.checked =
          ((registry.replaceIn registry.waiting).registry.checkAll.registry.loadDirectory
            directory).registry.checked ∧
        (registry.discover directory).notices =
          (registry.replaceIn registry.waiting).notices ++
            ((registry.replaceIn registry.waiting).registry.checkAll.notices ++
              ((registry.replaceIn registry.waiting).registry.checkAll.registry.loadDirectory
                directory).notices) := by
    obtain ⟨-, hstep⟩ | ⟨-, -, hstep⟩ | ⟨-, -, hstep⟩ := registry.discover_cases directory
    · rw [hstep] at hnew
      exact absurd hnew hold
    · rw [hstep] at hnew ⊢
      exact ⟨hnew, rfl, rfl⟩
    · rw [hstep] at hnew ⊢
      exact ⟨hnew, rfl, rfl⟩
  obtain ⟨hnone, hchecked, hcount⟩ :=
    (loadDirectory_arrives _ directory name).gained (hsame ▸ hold) hnewLoaded
  rw [hsame] at hnone
  have hbefore := hreplaced.append (hquiet (.inr hnone))
  rw [hchecks, hreports]
  refine ⟨hnone, hchecked, fun hook => ?_⟩
  rw [← List.append_assoc, List.count_append, hbefore.count, Nat.zero_add, hcount]
  simp only [hbefore.checked]

/-- What a call reports about a plugin that it gains: all hooks without specification, or nothing if
the name is silenced, be it by the call itself. -/
theorem gains_spec {name : Text} {registry : Registry} {plugin : Plugin} {call : RegistryCall}
    {silenced : Prop} (hgains : call.Gains registry name plugin)
    (h : Accounted name registry silenced) :
    name ∈ (call.perform registry).registry.checked ∧
      (name ∈ registry.checked ↔ call.Drops registry name ∨ silenced) ∧
      ∀ hook, (call.perform registry).notices.count (.unknownHook name hook) =
        if name ∈ registry.checked then 0
        else (unknownHooks name plugin.blueprint).count (.unknownHook name hook) := by
  cases hgains with
  | register hname hok =>
    obtain ⟨hnone, hchecked, hcount⟩ := register_gained hname hok
    exact ⟨hchecked, (h.checked_iff hnone).trans (iff_of_eq (false_or silenced)).symm, hcount⟩
  | @discover directory hold hnew =>
    obtain ⟨hnone, hchecked, hcount⟩ := discover_gained hold hnew
    -- The replacements drop the plugin of a name, but check none.
    have hkept : name ∈ (registry.replaceIn registry.waiting).registry.checked ↔
        name ∈ registry.checked := (replaceIn_quiet registry registry.waiting name).checked
    exact ⟨hchecked, hkept.symm.trans ((h.replaceIn directory).checked_iff hnone), hcount⟩

/-- The reports about the hooks of a plugin count the methods that implement a hook without
specification and are not marked as optional. -/
theorem count_unknownHooks (name : Text) (blueprint : Blueprint) (hook : Text) :
    (unknownHooks name blueprint).count (.unknownHook name hook) =
      if hook ∈ Hook.all.map Hook.name then 0
      else blueprint.sortedMethods.countP fun method =>
        method.hookName = hook ∧ !method.isOptional := by
  have hunknown : ∀ method : Method, method.hook?.isNone = true ↔
      method.hookName ∉ Hook.all.map Hook.name := by
    intro method
    simp only [Method.hook?, Hook.ofName?, Option.isNone_iff_eq_none, List.find?_eq_none,
      decide_eq_true_eq, List.mem_map, not_exists, not_and]
  rw [unknownHooks, List.count_eq_countP, List.countP_map, List.countP_filter]
  split
  · rename_i hknown
    refine List.countP_eq_zero.mpr fun method _ hreported => ?_
    simp only [Function.comp_apply, beq_iff_eq, Notice.unknownHook.injEq, true_and,
      Bool.and_eq_true, hunknown] at hreported
    exact hreported.2.2 (hreported.1 ▸ hknown)
  · rename_i hknown
    refine List.countP_congr fun method _ => ?_
    simp only [Function.comp_apply, beq_iff_eq, Notice.unknownHook.injEq, true_and,
      Bool.and_eq_true, hunknown, decide_eq_true_eq]
    exact ⟨fun h => ⟨h.1, h.2.1⟩, fun h => ⟨h.1, h.2, h.1 ▸ hknown⟩⟩

end Registry

/-- **How often a plugin's hooks are reported.** Let a call of a run register a plugin under a name,
and let no later call unregister the plugin of that name. The calls from then on report a hook as
often as the plugin has methods for it that are not optional, if the hook has no specification, and
never if it has one. But they report no hook at all if the name has been silenced: if discovery
dropped a blueprint of that name and nothing was unregistered under the name since. -/
theorem unknownHook_reports {name : Text} {plugin : Plugin} {earlier later : List RegistryCall}
    {call : RegistryCall} (hgains : call.Gains (Registry.empty.after earlier) name plugin)
    (hheld : Registry.Held name (Registry.empty.after (earlier ++ [call])) later) (hook : Text) :
    let silenced := Registry.Silenced name .empty (earlier ++ [call])
    let reports :=
      ((Registry.empty.after earlier).log (call :: later)).count (.unknownHook name hook)
    (silenced → reports = 0) ∧
      (¬silenced → reports =
        if hook ∈ Hook.all.map Hook.name then 0
        else plugin.blueprint.sortedMethods.countP fun method =>
          method.hookName = hook ∧ !method.isOptional) := by
  intro silenced reports
  obtain ⟨hchecked, hbefore, hcount⟩ :=
    Registry.gains_spec hgains (Registry.accounted_after name earlier)
  have hreleases : ¬call.Releases (Registry.empty.after earlier) name := by
    cases hgains <;> exact id
  have hsilenced : silenced ↔ name ∈ (Registry.empty.after earlier).checked := by
    rw [hbefore]
    simp [silenced, Registry.silenced_concat_iff, hreleases]
  have hreports : reports =
      ((call.perform (Registry.empty.after earlier)).notices.count (.unknownHook name hook)) := by
    rw [Registry.after_concat] at hheld
    simp only [reports, Registry.log, List.count_append,
      Registry.count_log_eq_zero hchecked hheld, Nat.add_zero]
  rw [hreports, hcount, hsilenced,
    Registry.count_unknownHooks name plugin.blueprint hook]
  exact ⟨fun hs => if_pos hs, fun hs => if_neg hs⟩

/-- A plugin whose only method is meant for a hook that does not exist. -/
def misspelledPlugin : Plugin where
  identity := .given "late".toList
  blueprint :=
    { className := "Late".toList
      methods :=
        [{ name := "ad_utilities".toList, target := none, isOptional := false, parameters := [] }]
      contribution := .nothing
      fails := false }
  form := .object

/-- A blueprint of which no instance can be made. -/
def brokenPlugin : Plugin where
  identity := .given "broken".toList
  blueprint :=
    { className := "Broken".toList
      methods :=
        [{ name := "add_utilities".toList, target := none, isOptional := false, parameters := [] }]
      contribution := .nothing
      fails := true }
  form := .blueprint

/-- A plugin that is registered again after it was unregistered is reported again, and discovery
does not repeat the report. -/
theorem unknownHook_reports_again :
    let name := "sink".toList
    let earlier := [.register misspelledPlugin (some name), .unregister misspelledPlugin]
    ((Registry.empty.after earlier).log
      [.register misspelledPlugin (some name), .discover none]).count
        (.unknownHook name "ad_utilities".toList) = 1 := by
  intro name earlier
  have hgains : (RegistryCall.register misspelledPlugin (some name)).Gains
      (Registry.empty.after earlier) name misspelledPlugin :=
    .register rfl (by decide +kernel)
  have hheld : Registry.Held name
      (Registry.empty.after (earlier ++ [.register misspelledPlugin (some name)]))
      [.discover none] := ⟨id, trivial⟩
  have hsilenced : ¬Registry.Silenced name .empty
      (earlier ++ [.register misspelledPlugin (some name)]) := by
    simp [earlier, Registry.Silenced, RegistryCall.Drops]
  rw [(unknownHook_reports hgains hheld "ad_utilities".toList).2 hsilenced]
  decide +kernel

/-- Under the name of a blueprint that discovery dropped the same plugin is registered without any
report, though a method of it implements a hook without specification. -/
theorem unknownHook_unreported :
    let name := "sink".toList
    let registry := Registry.empty.after [.register brokenPlugin (some name), .discover none]
    let call := RegistryCall.register misspelledPlugin (some name)
    registry.names = [] ∧ call.Gains registry name misspelledPlugin ∧
      (call.perform registry).notices = [.registered name] ∧
      ∃ method ∈ misspelledPlugin.blueprint.sortedMethods,
        method.isOptional = false ∧ method.hookName ∉ Hook.all.map Hook.name := by
  intro name registry call
  exact ⟨by decide +kernel, .register rfl (by decide +kernel), by decide +kernel,
    by decide +kernel⟩

end NamedGrid
