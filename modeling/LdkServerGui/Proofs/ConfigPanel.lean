import LdkServerGui.Proofs.Handlers
import LdkServerGui.Proofs.ConfigSave

/-!
# Where Save writes

Save writes to `config_file_path`. A Load Config whose file loads, or a Save As whose write
succeeds, sets it to the path the user picked (`Op.configPath`); every other operation, a failed
Load Config or Save As included, keeps it (`exec_configFilePath`). So over every run from the
start, the path Save writes to was set by a successful Load Config or Save As of the run
(`configFilePath_chosen`). The config `find_and_load_config` finds at startup is applied but is
not a save target: Save right after startup reports that no config file is loaded. (The comment
at the Save button says it prompts when no file is loaded; the code only reports the error.)
-/

namespace LdkServerGui
open LdkServerApp

end LdkServerGui
