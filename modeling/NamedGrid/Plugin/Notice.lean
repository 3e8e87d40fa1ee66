import NamedGrid.Text.Quoted

/-!
# Notices

What the plugin registry reports while it goes on. All but the note of a registration
are warnings.
-/

namespace NamedGrid

/-- A report of the plugin registry. -/
inductive Notice
  /-- A plugin was registered. -/
  | registered (plugin : Text)
  /-- A method implements a hook that is not specified. -/
  | unknownHook (plugin hook : Text)
  /-- A plugin file could not be loaded. -/
  | fileFailed (file : Text)
  /-- A kind of plugin from a file could not be made or registered. -/
  | classFailed (className file : Text)
  /-- A kind of plugin from an entry point could not be made. -/
  | entryFailed (plugin : Text)
  /-- A contribution was no record of layouts. -/
  | unusableContribution
  deriving DecidableEq, Repr

namespace Notice

/-- Does the notice call for attention? -/
def isWarning : Notice → Bool
  | registered _ => false
  | _ => true

/-- The text of a notice, where `directory` holds the plugin files. -/
def message (directory : Text) : Notice → Text
  | registered plugin => "Registered plugin: ".toList ++ plugin
  | unknownHook plugin hook =>
    "Plugin ".toList ++ plugin ++ " implements unknown hook ".toList ++ hook.quoted ++
      "; it will never be called".toList
  | fileFailed file => "Failed to load local plugin ".toList ++ directory ++ '/' :: file
  | classFailed className file =>
    "Failed to instantiate plugin class ".toList ++ className ++ " from ".toList ++ directory ++
      '/' :: file
  | entryFailed plugin => "Failed to instantiate entry-point plugin ".toList ++ plugin
  | unusableContribution => "Plugin returned non-dict layout registrations".toList

end Notice

end NamedGrid
