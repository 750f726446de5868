import Mathlib.Data.List.Basic

/-!
# Configuration loading and saving (`config.rs`)

An ldk-server config file is modelled by the `toml::Value` its text parses to (`TomlValue`):
the `toml` crate prints and parses a value back to itself, so loading what `save_chain_source`
wrote reads the document it built. What `std::fs` and the `toml` parser return is an input
(`ReadFile`, and the `Except String TomlValue` a read hands over).

`TomlConfig.deserialize` is serde's derived `Deserialize` on a value: a struct needs a table,
a `String` field a string, a missing `Option` field is `None`, unknown keys are ignored.
`GuiConfig.tryFrom` picks the chain source in the order bitcoind, electrum, esplora;
`saveChainSource` removes all three sections and inserts the one for the new source.
-/

namespace LdkServerGui

inductive ChainSourceType where
  | none
  | bitcoind
  | electrum
  | esplora
deriving DecidableEq, Repr

inductive ChainSourceConfig where
  | none
  | bitcoind (rpcAddress rpcUser rpcPassword : String)
  | electrum (serverUrl : String)
  | esplora (serverUrl : String)
deriving DecidableEq, Repr

structure GuiConfig where
  serverUrl : String
  apiKey : String
  tlsCertPath : String
  network : String
  chainSource : ChainSourceConfig
deriving DecidableEq, Repr

/-- A `toml::Value`. A datetime is kept as its text. -/
inductive TomlValue where
  | string (s : String)
  | integer (i : Int)
  | float (f : Float)
  | boolean (b : Bool)
  | datetime (text : String)
  | array (items : List TomlValue)
  | table (entries : List (String × TomlValue))
deriving Repr

abbrev TomlTable := List (String × TomlValue)

namespace TomlTable

def get (t : TomlTable) (key : String) : Option TomlValue :=
  (t.find? (·.1 == key)).map (·.2)

def remove (t : TomlTable) (key : String) : TomlTable :=
  t.filter (·.1 != key)

def insert (t : TomlTable) (key : String) (v : TomlValue) : TomlTable :=
  t.remove key ++ [(key, v)]

theorem find?_remove_self (t : TomlTable) (key : String) :
    (t.remove key).find? (·.1 == key) = none := by
  simp [remove, List.find?_filter, List.find?_eq_none]

@[simp] theorem get_remove_self (t : TomlTable) (key : String) : (t.remove key).get key = none := by
  simp [get, find?_remove_self]

theorem get_remove_of_ne (t : TomlTable) {key key' : String} (h : key' ≠ key) :
    (t.remove key).get key' = t.get key' := by
  induction t with
  | nil => rfl
  | cons e t ih =>
    by_cases he : e.1 = key <;> by_cases he' : e.1 = key' <;>
      simp_all [get, remove, List.filter_cons, List.find?_cons]

@[simp] theorem get_insert_self (t : TomlTable) (key : String) (v : TomlValue) :
    (t.insert key v).get key = some v := by
  simp [insert, get, List.find?_append, find?_remove_self]

theorem get_insert_of_ne (t : TomlTable) {key key' : String} (v : TomlValue) (h : key' ≠ key) :
    (t.insert key v).get key' = t.get key' := by
  rw [← get_remove_of_ne t h]
  simp [insert, get, List.find?_append, Ne.symm h]

end TomlTable

/-! ### Deserializing (`#[derive(Deserialize)]`) -/

def deString : TomlValue → Except String String
  | .string s => .ok s
  | _ => .error "invalid type: expected a string"

def deTable : TomlValue → Except String TomlTable
  | .table t => .ok t
  | _ => .error "invalid type: expected struct"

def deField {α : Type} (t : TomlTable) (name : String) (de : TomlValue → Except String α) :
    Except String α :=
  match t.get name with
  | none => .error ("missing field " ++ name)
  | some v => de v

def deOptField {α : Type} (t : TomlTable) (name : String) (de : TomlValue → Except String α) :
    Except String (Option α) :=
  match t.get name with
  | none => .ok none
  | some v => some <$> de v

structure NodeConfig where
  network : String
  restServiceAddress : String
deriving DecidableEq, Repr

structure DiskConfig where
  dirPath : String
deriving DecidableEq, Repr

structure StorageConfig where
  disk : DiskConfig
deriving DecidableEq, Repr

structure BitcoindConfig where
  rpcAddress : String
  rpcUser : String
  rpcPassword : String
deriving DecidableEq, Repr

structure ElectrumConfig where
  serverUrl : String
deriving DecidableEq, Repr

structure EsploraConfig where
  serverUrl : String
deriving DecidableEq, Repr

structure TomlConfig where
  node : NodeConfig
  storage : StorageConfig
  bitcoind : Option BitcoindConfig
  electrum : Option ElectrumConfig
  esplora : Option EsploraConfig
deriving DecidableEq, Repr

def NodeConfig.deserialize (v : TomlValue) : Except String NodeConfig := do
  let t ← deTable v
  return ⟨← deField t "network" deString, ← deField t "rest_service_address" deString⟩

def StorageConfig.deserialize (v : TomlValue) : Except String StorageConfig := do
  let t ← deTable v
  let disk ← deField t "disk" deTable
  return ⟨⟨← deField disk "dir_path" deString⟩⟩

def BitcoindConfig.deserialize (v : TomlValue) : Except String BitcoindConfig := do
  let t ← deTable v
  return ⟨← deField t "rpc_address" deString, ← deField t "rpc_user" deString,
    ← deField t "rpc_password" deString⟩

def ElectrumConfig.deserialize (v : TomlValue) : Except String ElectrumConfig := do
  let t ← deTable v
  return ⟨← deField t "server_url" deString⟩

def EsploraConfig.deserialize (v : TomlValue) : Except String EsploraConfig := do
  let t ← deTable v
  return ⟨← deField t "server_url" deString⟩

def TomlConfig.ofTable (t : TomlTable) : Except String TomlConfig := do
  return ⟨← deField t "node" NodeConfig.deserialize, ← deField t "storage" StorageConfig.deserialize,
    ← deOptField t "bitcoind" BitcoindConfig.deserialize,
    ← deOptField t "electrum" ElectrumConfig.deserialize,
    ← deOptField t "esplora" EsploraConfig.deserialize⟩

def TomlConfig.deserialize (v : TomlValue) : Except String TomlConfig :=
  deTable v >>= TomlConfig.ofTable

/-! ### `GuiConfig::try_from`, loading -/

/-- What `std::fs::read` gives for a path, `None` for an error. -/
abbrev ReadFile := String → Option (List UInt8)

/-- `Path::join` on Unix paths: an absolute `part` replaces `base`, and a separator is added
when `base` does not end in one. -/
def pathJoin (base part : String) : String :=
  if part.startsWith "/" then part
  else if base.isEmpty || base.endsWith "/" then base ++ part
  else base ++ "/" ++ part

def networkToDirName (network : String) : String :=
  match network with
  | "bitcoin" | "mainnet" => "bitcoin"
  | "testnet" => "testnet"
  | "testnet4" => "testnet4"
  | "signet" => "signet"
  | "regtest" => "regtest"
  | other => other

def hexDigit (n : Nat) : Char :=
  if n < 10 then Char.ofNat (0x30 + n) else Char.ofNat (0x57 + n)

def toLowerHexString (bytes : List UInt8) : String :=
  ⟨bytes.flatMap fun b => [hexDigit (b.toNat / 16), hexDigit (b.toNat % 16)]⟩

/-- `load_api_key_from_file`: `{storage_dir}/{network_dir}/api_key`, hex-encoded. -/
def loadApiKeyFromFile (readFile : ReadFile) (storageDir network : String) : Option String :=
  (readFile (pathJoin (pathJoin storageDir (networkToDirName network)) "api_key")).map
    toLowerHexString

/-- `GuiConfig::try_from`: never fails. -/
def GuiConfig.tryFrom (readFile : ReadFile) (toml : TomlConfig) : Except String GuiConfig :=
  let storageDir := toml.storage.disk.dirPath
  let chainSource :=
    match toml.bitcoind, toml.electrum, toml.esplora with
    | some btc, _, _ => .bitcoind btc.rpcAddress btc.rpcUser btc.rpcPassword
    | none, some electrum, _ => .electrum electrum.serverUrl
    | none, none, some esplora => .esplora esplora.serverUrl
    | none, none, none => .none
  .ok { serverUrl := toml.node.restServiceAddress
        apiKey := (loadApiKeyFromFile readFile storageDir toml.node.network).getD ""
        tlsCertPath := pathJoin storageDir "tls.crt"
        network := toml.node.network
        chainSource }

def parseConfigFromStr (readFile : ReadFile) (contents : Except String TomlValue) :
    Except String GuiConfig :=
  match contents >>= TomlConfig.deserialize with
  | .error e => .error ("Failed to parse config: " ++ e)
  | .ok toml => GuiConfig.tryFrom readFile toml

def loadConfig (readFile : ReadFile) (contents : Except String (Except String TomlValue)) :
    Except String GuiConfig :=
  match contents with
  | .error e => .error ("Failed to read config file: " ++ e)
  | .ok doc => parseConfigFromStr readFile doc

def searchPaths : List String :=
  ["ldk-server-config.toml", "../ldk-server/ldk-server-config.toml", "../ldk-server-config.toml"]

def tryConfigPath (pathExists : String → Bool) (load : String → Except String GuiConfig)
    (path : String) : Option GuiConfig :=
  if pathExists path then (load path).toOption else none

/-- `find_and_load_config`: the three search paths in order, then `LDK_SERVER_CONFIG`; the
first path that exists and loads. -/
def findAndLoadConfig (pathExists : String → Bool) (load : String → Except String GuiConfig)
    (envPath : Option String) : Option GuiConfig :=
  match searchPaths.findSome? (tryConfigPath pathExists load) with
  | some config => some config
  | none => envPath.bind (tryConfigPath pathExists load)

/-! ### Saving -/

/-- The value `toml::Value::try_from` gives for `BitcoindConfigSave`; it cannot fail on a struct
of strings. -/
def bitcoindConfigSave (rpcAddress rpcUser rpcPassword : String) : TomlValue :=
  .table [("rpc_address", .string rpcAddress), ("rpc_user", .string rpcUser),
    ("rpc_password", .string rpcPassword)]

def serverUrlConfigSave (serverUrl : String) : TomlValue :=
  .table [("server_url", .string serverUrl)]

def TomlTable.withChainSource (t : TomlTable) : ChainSourceConfig → TomlTable
  | .none => ((t.remove "bitcoind").remove "electrum").remove "esplora"
  | .bitcoind a u p =>
    (((t.remove "bitcoind").remove "electrum").remove "esplora").insert "bitcoind"
      (bitcoindConfigSave a u p)
  | .electrum url =>
    (((t.remove "bitcoind").remove "electrum").remove "esplora").insert "electrum"
      (serverUrlConfigSave url)
  | .esplora url =>
    (((t.remove "bitcoind").remove "electrum").remove "esplora").insert "esplora"
      (serverUrlConfigSave url)

/-- `save_chain_source`: read and parse the file (`contents`), replace the chain-source sections
of its root table, then print and write the document (`writeBack`, which reports a failure of
`to_string_pretty` or `fs::write`). Gives the document written. -/
def saveChainSource (contents : Except String (Except String TomlValue))
    (writeBack : TomlValue → Except String Unit) (chainSource : ChainSourceConfig) :
    Except String TomlValue :=
  match contents with
  | .error e => .error ("Failed to read config file: " ++ e)
  | .ok (.error e) => .error ("Failed to parse config file: " ++ e)
  | .ok (.ok (.table t)) =>
    let doc := TomlValue.table (TomlTable.withChainSource t chainSource)
    match writeBack doc with
    | .error e => .error e
    | .ok () => .ok doc
  | .ok (.ok _) => .error "Config file root is not a table"

end LdkServerGui
