import LdkServerGui.Config

/-!
# Finding and loading the config

`find_and_load_config` tries the three search paths in order, then the path `LDK_SERVER_CONFIG`
names, and stops at the first that exists and loads (`findAndLoadConfig_eq_findSome`).

`load_config` fails in exactly two ways, and its message says which: the file cannot be read,
or the document does not deserialize; `GuiConfig::try_from` never fails (`loadConfig_eq_error`).
-/

namespace LdkServerGui

theorem findAndLoadConfig_eq_findSome (pathExists : String → Bool)
    (load : String → Except String GuiConfig) (envPath : Option String) :
    findAndLoadConfig pathExists load envPath =
      (searchPaths ++ envPath.toList).findSome? (tryConfigPath pathExists load) := by
  rw [findAndLoadConfig, List.findSome?_append]
  cases searchPaths.findSome? (tryConfigPath pathExists load) with
  | some g => rfl
  | none =>
    cases envPath with
    | none => rfl
    | some path => cases h : tryConfigPath pathExists load path <;> simp [List.findSome?_cons, h]

/-- `load_config` fails only to read the file or to deserialize it, and says which. -/
theorem loadConfig_eq_error (readFile : ReadFile)
    (contents : Except String (Except String TomlValue)) (m : String) :
    loadConfig readFile contents = .error m ↔
      (∃ e, contents = .error e ∧ m = "Failed to read config file: " ++ e) ∨
        ∃ doc e, contents = .ok doc ∧ doc >>= TomlConfig.deserialize = .error e ∧
          m = "Failed to parse config: " ++ e := by
  cases contents with
  | error e => simp [loadConfig, eq_comm]
  | ok doc =>
    simp only [loadConfig, parseConfigFromStr]
    cases h : doc >>= TomlConfig.deserialize <;> simp [h, GuiConfig.tryFrom, eq_comm]

end LdkServerGui
