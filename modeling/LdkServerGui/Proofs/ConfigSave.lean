import LdkServerGui.Step

/-!
# Saving the chain source

`save_chain_source` removes the three chain-source sections of the config file's root table and
inserts the one for the chosen source (`TomlTable.withChainSource`). Every other key of the root
table keeps its value (`get_withChainSource_of_not_mem`), and the chain-source sections of the
saved table are those the chosen source alone gives (`get_withChainSource_of_mem`). So loading the
saved document reads the same node and storage sections as before and finds exactly the chosen
source, whatever sections the file held: `chain_source_round_trip`, which also closes the
form's own round trip `ChainSourceForm.toConfig_fromConfig`.

In the app: Load Config puts the file's chain source into the form, so pressing Save without
editing the form writes a document that loads back to the config loaded
(`load_then_save_round_trip`).
-/

namespace LdkServerGui

def chainSourceKeys : List String := ["bitcoind", "electrum", "esplora"]

namespace TomlTable

theorem get_withChainSource_of_not_mem (t : TomlTable) (c : ChainSourceConfig) {key : String}
    (h : key ∉ chainSourceKeys) : (t.withChainSource c).get key = t.get key := by
  simp only [chainSourceKeys, List.mem_cons, List.mem_singleton, List.not_mem_nil, or_false,
    not_or] at h
  obtain ⟨h1, h2, h3⟩ := h
  cases c <;> simp only [withChainSource, get_insert_of_ne _ _ h1, get_insert_of_ne _ _ h2,
    get_insert_of_ne _ _ h3, get_remove_of_ne _ h1, get_remove_of_ne _ h2, get_remove_of_ne _ h3]

theorem get_withChainSource_of_mem (t : TomlTable) (c : ChainSourceConfig) {key : String}
    (h : key ∈ chainSourceKeys) :
    (t.withChainSource c).get key = (TomlTable.withChainSource [] c).get key := by
  simp only [chainSourceKeys, List.mem_cons, List.mem_singleton, List.not_mem_nil, or_false] at h
  rcases h with rfl | rfl | rfl <;> cases c <;>
    simp [withChainSource, get_insert_of_ne, get_remove_of_ne]

end TomlTable

theorem Except.exists_of_bind_eq_ok {ε α β : Type} {x : Except ε α} {f : α → Except ε β} {b : β}
    (h : x >>= f = .ok b) : ∃ a, x = .ok a ∧ f a = .ok b := by
  cases x with
  | error e => cases h
  | ok a => exact ⟨a, rfl, h⟩

theorem TomlConfig.deField_of_ofTable {t : TomlTable} {toml : TomlConfig}
    (h : TomlConfig.ofTable t = .ok toml) :
    deField t "node" NodeConfig.deserialize = .ok toml.node ∧
      deField t "storage" StorageConfig.deserialize = .ok toml.storage := by
  obtain ⟨node, hn, h⟩ := Except.exists_of_bind_eq_ok h
  obtain ⟨storage, hs, h⟩ := Except.exists_of_bind_eq_ok h
  obtain ⟨_, -, h⟩ := Except.exists_of_bind_eq_ok h
  obtain ⟨_, -, h⟩ := Except.exists_of_bind_eq_ok h
  obtain ⟨_, -, h⟩ := Except.exists_of_bind_eq_ok h
  cases h
  exact ⟨hn, hs⟩

theorem deField_withChainSource {α : Type} (t : TomlTable) (c : ChainSourceConfig) (key : String)
    (h : key ∉ chainSourceKeys) (de : TomlValue → Except String α) :
    deField (t.withChainSource c) key de = deField t key de := by
  simp only [deField, t.get_withChainSource_of_not_mem c h]

theorem deOptField_withChainSource {α : Type} (t : TomlTable) (c : ChainSourceConfig) (key : String)
    (h : key ∈ chainSourceKeys) (de : TomlValue → Except String α) :
    deOptField (t.withChainSource c) key de = deOptField (TomlTable.withChainSource [] c) key de := by
  simp only [deOptField, t.get_withChainSource_of_mem c h]

/-- Loading a saved table reads the node and storage sections of the table it was saved from,
and exactly the chain source saved. -/
theorem parseConfigFromStr_withChainSource (readFile : ReadFile) {t : TomlTable} {toml : TomlConfig}
    (h : TomlConfig.deserialize (.table t) = .ok toml) (c : ChainSourceConfig) :
    parseConfigFromStr readFile (.ok (.table (t.withChainSource c))) =
      (GuiConfig.tryFrom readFile toml).map fun g => { g with chainSource := c } := by
  obtain ⟨hn, hs⟩ := TomlConfig.deField_of_ofTable (t := t) h
  rw [parseConfigFromStr]
  show (match TomlConfig.ofTable (t.withChainSource c) with
    | Except.error e => Except.error ("Failed to parse config: " ++ e)
    | Except.ok toml => GuiConfig.tryFrom readFile toml) = _
  rw [TomlConfig.ofTable, deField_withChainSource t c "node" (by decide),
    deField_withChainSource t c "storage" (by decide), hn, hs,
    deOptField_withChainSource t c "bitcoind" (by decide),
    deOptField_withChainSource t c "electrum" (by decide),
    deOptField_withChainSource t c "esplora" (by decide)]
  cases c <;> rfl

theorem saveChainSource_table (t : TomlTable) {writeBack : TomlValue → Except String Unit}
    (hw : ∀ doc, writeBack doc = .ok ()) (c : ChainSourceConfig) :
    saveChainSource (.ok (.ok (.table t))) writeBack c = .ok (.table (t.withChainSource c)) := by
  simp [saveChainSource, hw]

theorem chain_source_round_trip :
    (∀ c : ChainSourceConfig, (ChainSourceForm.fromConfig c).toConfig = c) ∧
    ∀ (readFile : ReadFile) (t : TomlTable) (toml : TomlConfig)
      (writeBack : TomlValue → Except String Unit) (c : ChainSourceConfig),
      TomlConfig.deserialize (.table t) = .ok toml → (∀ doc, writeBack doc = .ok ()) →
      ∃ t' : TomlTable, saveChainSource (.ok (.ok (.table t))) writeBack c = .ok (.table t') ∧
        (∀ key, key ∉ chainSourceKeys → TomlTable.get t' key = TomlTable.get t key) ∧
        parseConfigFromStr readFile (.ok (.table t')) =
          (GuiConfig.tryFrom readFile toml).map fun g => { g with chainSource := c } :=
  ⟨ChainSourceForm.toConfig_fromConfig, fun readFile t _ _ c h hw =>
    ⟨t.withChainSource c, saveChainSource_table t hw c,
      fun _ hk => t.get_withChainSource_of_not_mem c hk, parseConfigFromStr_withChainSource readFile h c⟩⟩

/-- A server config file with an Esplora chain source. -/
def sampleConfigTable : TomlTable :=
  [("node", .table [("network", .string "regtest"), ("rest_service_address", .string "127.0.0.1:3002")]),
    ("storage", .table [("disk", .table [("dir_path", .string "/tmp/ldk-server")])]),
    ("esplora", .table [("server_url", .string "127.0.0.1:3000")])]

theorem chain_source_round_trip_sample :
    TomlConfig.deserialize (.table sampleConfigTable) =
        .ok ⟨⟨"regtest", "127.0.0.1:3002"⟩, ⟨⟨"/tmp/ldk-server"⟩⟩, none, none, some ⟨"127.0.0.1:3000"⟩⟩ ∧
      ∃ t' : TomlTable, saveChainSource (.ok (.ok (.table sampleConfigTable))) (fun _ => .ok ())
          (.bitcoind "127.0.0.1:18443" "user" "pass") = .ok (.table t') ∧
        (∀ key, key ∉ chainSourceKeys → TomlTable.get t' key = TomlTable.get sampleConfigTable key) ∧
        parseConfigFromStr (fun _ => none) (.ok (.table t')) =
          (GuiConfig.tryFrom (fun _ => none) ⟨⟨"regtest", "127.0.0.1:3002"⟩, ⟨⟨"/tmp/ldk-server"⟩⟩, none, none,
            some ⟨"127.0.0.1:3000"⟩⟩).map fun g => { g with chainSource := .bitcoind "127.0.0.1:18443" "user" "pass" } :=
  ⟨rfl, chain_source_round_trip.2 (fun _ => none) sampleConfigTable _ (fun _ => .ok ())
    (.bitcoind "127.0.0.1:18443" "user" "pass") rfl fun _ => rfl⟩

/-! ### Load Config, then Save -/

theorem GuiConfig.tryFrom_ok (readFile : ReadFile) (toml : TomlConfig) :
    ∃ g, GuiConfig.tryFrom readFile toml = .ok g :=
  ⟨_, rfl⟩

theorem load_then_save_round_trip (app : LdkServerApp) (path : String) (readFile : ReadFile)
    (t : TomlTable) (toml : TomlConfig) (writeBack : TomlValue → Except String Unit)
    (h : TomlConfig.deserialize (.table t) = .ok toml) (hw : ∀ doc, writeBack doc = .ok ()) :
    let loaded := (exec (.loadConfigFile path readFile (.ok (.ok (.table t)))) app).1
    let saved := (exec (.saveConfig (.ok (.ok (.table t))) writeBack) loaded).1
    ∃ doc, saveChainSource (.ok (.ok (.table t))) writeBack saved.state.chainSource = .ok doc ∧
      loadConfig readFile (.ok (.ok doc)) = loadConfig readFile (.ok (.ok (.table t))) ∧
      saved.state.chainSource = loaded.state.chainSource ∧
      saved.state.statusMessage = some (.success ("Config saved to " ++ path)) := by
  obtain ⟨g, hg⟩ := GuiConfig.tryFrom_ok readFile toml
  have hload : loadConfig readFile (.ok (.ok (.table t))) = .ok g := by
    simp only [loadConfig, parseConfigFromStr, bind, Except.bind, h, hg]
  intro loaded saved
  have hl : loaded.state.configFilePath = some path ∧
      loaded.state.forms.chainSource = .fromConfig g.chainSource ∧
      loaded.state.chainSource = g.chainSource := by
    simp only [loaded, exec, hload, LdkServerApp.loadConfigFile]
    exact ⟨rfl, rfl, rfl⟩
  have hs : saved.state.chainSource = g.chainSource ∧
      saved.state.statusMessage = some (.success ("Config saved to " ++ path)) := by
    simp only [saved, exec, LdkServerApp.saveConfig, hl.1, hl.2.1, ChainSourceForm.toConfig_fromConfig,
      saveChainSource_table t hw]
    exact ⟨rfl, rfl⟩
  refine ⟨_, saveChainSource_table t hw _, ?_, hs.1.trans hl.2.2.symm, hs.2⟩
  rw [hload, loadConfig, parseConfigFromStr_withChainSource readFile h, hg, hs.1]
  rfl

theorem load_then_save_round_trip_sample :
    (TomlConfig.deserialize (.table sampleConfigTable) =
        .ok ⟨⟨"regtest", "127.0.0.1:3002"⟩, ⟨⟨"/tmp/ldk-server"⟩⟩, none, none, some ⟨"127.0.0.1:3000"⟩⟩ ∧
      ∀ doc : TomlValue, (fun _ => .ok ()) doc = (.ok () : Except String Unit)) ∧
    let loaded := (exec (.loadConfigFile "ldk-server-config.toml" (fun _ => none)
      (.ok (.ok (.table sampleConfigTable)))) (.new none)).1
    let saved := (exec (.saveConfig (.ok (.ok (.table sampleConfigTable))) fun _ => .ok ()) loaded).1
    ∃ doc, saveChainSource (.ok (.ok (.table sampleConfigTable))) (fun _ => .ok ())
        saved.state.chainSource = .ok doc ∧
      loadConfig (fun _ => none) (.ok (.ok doc)) =
        loadConfig (fun _ => none) (.ok (.ok (.table sampleConfigTable))) ∧
      saved.state.chainSource = loaded.state.chainSource ∧
      saved.state.statusMessage = some (.success ("Config saved to " ++ "ldk-server-config.toml")) :=
  ⟨⟨rfl, fun _ => rfl⟩, load_then_save_round_trip (.new none) "ldk-server-config.toml" (fun _ => none)
    sampleConfigTable _ (fun _ => .ok ()) rfl fun _ => rfl⟩

end LdkServerGui
