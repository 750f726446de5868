import LdkServerGui.Runtime
import LdkServerGui.Rust

/-!
# The app's operations (`app.rs`, the settings panel of `ui/connection.rs`)

The seventeen trigger methods share one body, `trigger`: return while the slot is occupied, do
nothing without a client, otherwise build the request from the form (each method's own checks,
in its own order, with its own messages) and either report the form's error or spawn the call
and store its handle. `connect` and `disconnect` install and remove the client; the config
buttons load a `GuiConfig` and save the chain source. What the file system, the `toml` crate and
`LdkServerClient::new` return is an argument.
-/

namespace LdkServerGui

inductive Target where
  | native
  | wasm32
deriving DecidableEq, Repr

namespace LdkServerApp

def modifyState (app : LdkServerApp) (f : AppState → AppState) : LdkServerApp :=
  { app with state := f app.state }

def setStatus (app : LdkServerApp) (msg : StatusMessage) : LdkServerApp :=
  app.modifyState fun s => { s with statusMessage := some msg }

def spawnTask (app : LdkServerApp) (k : TaskKey) (client : LdkServerClient) (request : Request k) :
    LdkServerApp where
  state := { app.state with tasks := app.state.tasks.set k (some ⟨(app.rt.calls k).length⟩) }
  rt := app.rt.spawn k client request

@[simp] theorem modifyState_rt (app : LdkServerApp) (f) : (app.modifyState f).rt = app.rt := rfl
@[simp] theorem modifyState_state (app : LdkServerApp) (f) : (app.modifyState f).state = f app.state :=
  rfl
@[simp] theorem setStatus_rt (app : LdkServerApp) (m) : (app.setStatus m).rt = app.rt := rfl
@[simp] theorem setStatus_state (app : LdkServerApp) (m) :
    (app.setStatus m).state = { app.state with statusMessage := some m } := rfl
@[simp] theorem spawnTask_rt (app : LdkServerApp) (k c r) :
    (app.spawnTask k c r).rt = app.rt.spawn k c r := rfl
@[simp] theorem spawnTask_state (app : LdkServerApp) (k c r) :
    (app.spawnTask k c r).state =
      { app.state with tasks := app.state.tasks.set k (some ⟨(app.rt.calls k).length⟩) } := rfl

/-- The body of the trigger method of slot `k`. `request` is the method's form handling: the
request it builds from the state, or the message it reports. -/
def trigger (k : TaskKey) (request : AppState → Except String (Request k)) (app : LdkServerApp) :
    LdkServerApp :=
  if (app.state.tasks k).isSome then app
  else
    match app.state.client with
    | none => app
    | some client =>
      match request app.state with
      | .error msg => app.setStatus (.error msg)
      | .ok req => app.spawnTask k client req

/-! ### The trigger methods -/

def buildChannelConfig (feeProp feeBase cltv : String) : Option ChannelConfig :=
  let feeProp := Rust.parseU32 feeProp
  let feeBase := Rust.parseU32 feeBase
  let cltv := Rust.parseU32 cltv
  if feeProp.isNone && feeBase.isNone && cltv.isNone then none else some ⟨feeProp, feeBase, cltv⟩

def channelIdsRequired : String := "Channel ID and counterparty node ID are required"

def fetchNodeInfo : LdkServerApp → LdkServerApp := trigger .nodeInfo fun _ => .ok {}

def fetchBalances : LdkServerApp → LdkServerApp := trigger .balances fun _ => .ok {}

def fetchChannels : LdkServerApp → LdkServerApp := trigger .channels fun _ => .ok {}

def fetchPayments : LdkServerApp → LdkServerApp :=
  trigger .payments fun s => .ok { pageToken := s.paymentsPageToken }

def generateOnchainAddress : LdkServerApp → LdkServerApp := trigger .onchainReceive fun _ => .ok {}

def sendOnchain : LdkServerApp → LdkServerApp :=
  trigger .onchainSend fun s =>
    let form := s.forms.onchainSend
    let address := Rust.trim form.address
    if address.isEmpty then .error "Address is required"
    else .ok { address
               amountSats := Rust.parseU64 (Rust.trim form.amountSats)
               sendAll := if form.sendAll then some true else none
               feeRateSatPerVb := Rust.parseU64 (Rust.trim form.feeRateSatPerVb) }

def generateBolt11Invoice : LdkServerApp → LdkServerApp :=
  trigger .bolt11Receive fun s =>
    let form := s.forms.bolt11Receive
    let description := Rust.trim form.description
    .ok { amountMsat := Rust.parseU64 (Rust.trim form.amountMsat)
          description := if !description.isEmpty then some ⟨some (.direct description)⟩ else none
          expirySecs := (Rust.parseU32 (Rust.trim form.expirySecs)).getD 86400 }

def sendBolt11 : LdkServerApp → LdkServerApp :=
  trigger .bolt11Send fun s =>
    let form := s.forms.bolt11Send
    let invoice := Rust.trim form.invoice
    if invoice.isEmpty then .error "Invoice is required"
    else .ok { invoice, amountMsat := Rust.parseU64 (Rust.trim form.amountMsat) }

def generateBolt12Offer : LdkServerApp → LdkServerApp :=
  trigger .bolt12Receive fun s =>
    let form := s.forms.bolt12Receive
    let description := Rust.trim form.description
    if description.isEmpty then .error "Description is required"
    else .ok { description
               amountMsat := Rust.parseU64 (Rust.trim form.amountMsat)
               expirySecs := Rust.parseU32 (Rust.trim form.expirySecs)
               quantity := Rust.parseU64 (Rust.trim form.quantity) }

def sendBolt12 : LdkServerApp → LdkServerApp :=
  trigger .bolt12Send fun s =>
    let form := s.forms.bolt12Send
    let offer := Rust.trim form.offer
    if offer.isEmpty then .error "Offer is required"
    else .ok { offer
               amountMsat := Rust.parseU64 (Rust.trim form.amountMsat)
               quantity := Rust.parseU64 (Rust.trim form.quantity)
               payerNote :=
                 if (Rust.trim form.payerNote).isEmpty then none else some (Rust.trim form.payerNote) }

/-- `open_channel`: the amount is checked before the pubkey and the address. -/
def openChannel : LdkServerApp → LdkServerApp :=
  trigger .openChannel fun s =>
    let form := s.forms.openChannel
    let nodePubkey := Rust.trim form.nodePubkey
    let address := Rust.trim form.address
    match Rust.parseU64 (Rust.trim form.channelAmountSats) with
    | none => .error "Invalid channel amount"
    | some channelAmountSats =>
      if nodePubkey.isEmpty || address.isEmpty then .error "Node pubkey and address are required"
      else .ok { nodePubkey, address, channelAmountSats
                 pushToCounterpartyMsat := Rust.parseU64 (Rust.trim form.pushToCounterpartyMsat)
                 channelConfig := buildChannelConfig (Rust.trim form.forwardingFeeProportionalMillionths)
                   (Rust.trim form.forwardingFeeBaseMsat) (Rust.trim form.cltvExpiryDelta)
                 announceChannel := form.announceChannel }

def closeChannel : LdkServerApp → LdkServerApp :=
  trigger .closeChannel fun s =>
    let form := s.forms.closeChannel
    let userChannelId := Rust.trim form.userChannelId
    let counterpartyNodeId := Rust.trim form.counterpartyNodeId
    if userChannelId.isEmpty || counterpartyNodeId.isEmpty then .error channelIdsRequired
    else .ok { userChannelId, counterpartyNodeId }

def forceCloseChannel : LdkServerApp → LdkServerApp :=
  trigger .forceCloseChannel fun s =>
    let form := s.forms.closeChannel
    let userChannelId := Rust.trim form.userChannelId
    let counterpartyNodeId := Rust.trim form.counterpartyNodeId
    if userChannelId.isEmpty || counterpartyNodeId.isEmpty then .error channelIdsRequired
    else .ok { userChannelId, counterpartyNodeId
               forceCloseReason :=
                 if (Rust.trim form.forceCloseReason).isEmpty then none
                 else some (Rust.trim form.forceCloseReason) }

def spliceIn : LdkServerApp → LdkServerApp :=
  trigger .spliceIn fun s =>
    let form := s.forms.spliceIn
    let userChannelId := Rust.trim form.userChannelId
    let counterpartyNodeId := Rust.trim form.counterpartyNodeId
    match Rust.parseU64 (Rust.trim form.spliceAmountSats) with
    | none => .error "Invalid splice amount"
    | some spliceAmountSats =>
      if userChannelId.isEmpty || counterpartyNodeId.isEmpty then .error channelIdsRequired
      else .ok { userChannelId, counterpartyNodeId, spliceAmountSats }

def spliceOut : LdkServerApp → LdkServerApp :=
  trigger .spliceOut fun s =>
    let form := s.forms.spliceOut
    let userChannelId := Rust.trim form.userChannelId
    let counterpartyNodeId := Rust.trim form.counterpartyNodeId
    match Rust.parseU64 (Rust.trim form.spliceAmountSats) with
    | none => .error "Invalid splice amount"
    | some spliceAmountSats =>
      if userChannelId.isEmpty || counterpartyNodeId.isEmpty then .error channelIdsRequired
      else .ok { userChannelId, counterpartyNodeId, spliceAmountSats
                 address := if (Rust.trim form.address).isEmpty then none
                   else some (Rust.trim form.address) }

def updateChannelConfig : LdkServerApp → LdkServerApp :=
  trigger .updateChannelConfig fun s =>
    let form := s.forms.updateChannelConfig
    let userChannelId := Rust.trim form.userChannelId
    let counterpartyNodeId := Rust.trim form.counterpartyNodeId
    if userChannelId.isEmpty || counterpartyNodeId.isEmpty then .error channelIdsRequired
    else .ok { userChannelId, counterpartyNodeId
               channelConfig := some
                 ⟨Rust.parseU32 (Rust.trim form.forwardingFeeProportionalMillionths),
                   Rust.parseU32 (Rust.trim form.forwardingFeeBaseMsat),
                   Rust.parseU32 (Rust.trim form.cltvExpiryDelta)⟩ }

def connectPeer : LdkServerApp → LdkServerApp :=
  trigger .connectPeer fun s =>
    let form := s.forms.connectPeer
    let nodePubkey := Rust.trim form.nodePubkey
    let address := Rust.trim form.address
    if nodePubkey.isEmpty || address.isEmpty then .error "Node pubkey and address are required"
    else .ok { nodePubkey, address, persist := form.persist }

def triggerOf : TaskKey → LdkServerApp → LdkServerApp
  | .nodeInfo => fetchNodeInfo
  | .balances => fetchBalances
  | .channels => fetchChannels
  | .payments => fetchPayments
  | .onchainReceive => generateOnchainAddress
  | .onchainSend => sendOnchain
  | .bolt11Receive => generateBolt11Invoice
  | .bolt11Send => sendBolt11
  | .bolt12Receive => generateBolt12Offer
  | .bolt12Send => sendBolt12
  | .openChannel => openChannel
  | .closeChannel => closeChannel
  | .forceCloseChannel => forceCloseChannel
  | .spliceIn => spliceIn
  | .spliceOut => spliceOut
  | .updateChannelConfig => updateChannelConfig
  | .connectPeer => connectPeer

/-! ### Connecting -/

def connectWith (newClient : Except String LdkServerClient) (app : LdkServerApp) : LdkServerApp :=
  match newClient with
  | .ok client =>
    fetchChannels <| fetchBalances <| fetchNodeInfo <| app.modifyState fun s =>
      { s with client := some client, connectionStatus := .connected,
               statusMessage := some (.success "Connected") }
  | .error e =>
    app.modifyState fun s =>
      { s with connectionStatus := .error e, statusMessage := some (.error e) }

/-- `connect`. `certRead` is what `std::fs::read` returns for the certificate (native only),
`newClient` what `LdkServerClient::new` returns. -/
def connect (target : Target) (certRead : Except String (List UInt8))
    (newClient : Except String LdkServerClient) (app : LdkServerApp) : LdkServerApp :=
  let url := Rust.trim app.state.serverUrl
  let apiKey := app.state.apiKey
  match target with
  | .native =>
    if url.isEmpty || apiKey.isEmpty || (Rust.trim app.state.tlsCertPath).isEmpty then
      app.setStatus (.error "Please fill in all connection fields")
    else
      match certRead with
      | .error e => app.setStatus (.error ("Failed to read TLS cert: " ++ e))
      | .ok _ => connectWith newClient app
  | .wasm32 =>
    if url.isEmpty || apiKey.isEmpty then app.setStatus (.error "Please fill in server URL and API key")
    else connectWith newClient app

/-- `disconnect`: removes the client and the four cached responses. Calls in flight keep their
slots. -/
def disconnect (app : LdkServerApp) : LdkServerApp :=
  app.modifyState fun s =>
    { s with client := none, connectionStatus := .disconnected, nodeInfo := none, balances := none,
             channels := none, payments := none, statusMessage := some (.success "Disconnected") }

/-! ### Config file buttons -/

def applyConfig (config : GuiConfig) (s : AppState) : AppState :=
  { s with serverUrl := config.serverUrl, apiKey := config.apiKey, tlsCertPath := config.tlsCertPath,
           network := config.network, forms := { s.forms with chainSource := .fromConfig config.chainSource },
           chainSource := config.chainSource }

/-- `LdkServerApp::new`: the default state, with the config `find_and_load_config` found
(native only). -/
def new (found : Option GuiConfig) : LdkServerApp where
  state := match found with
    | some config =>
      { (applyConfig config .default) with
        statusMessage := some (.success "Config loaded from ldk-server-config.toml") }
    | none => .default
  rt := .empty

/-- The Load Config button (native): `config::load_config(&path)` gave `loaded`. -/
def loadConfigFile (path : String) (loaded : Except String GuiConfig) (app : LdkServerApp) :
    LdkServerApp :=
  match loaded with
  | .ok config =>
    app.modifyState fun s =>
      { (applyConfig config s) with
        configFilePath := some path
        statusMessage := some (.success ("Config loaded from " ++ path)) }
  | .error e => app.setStatus (.error ("Failed to load config: " ++ e))

def loadPastedConfig (parsed : Except String GuiConfig) (app : LdkServerApp) : LdkServerApp :=
  match parsed with
  | .ok config =>
    app.modifyState fun s =>
      { s with serverUrl := config.serverUrl, apiKey := config.apiKey, network := config.network,
               statusMessage := some (.success "Config loaded successfully"),
               showLoadConfigDialog := false, configPasteText := "" }
  | .error e => app.setStatus (.error ("Failed to parse config: " ++ e))

/-- The Save button: `save_chain_source` on the loaded config file, which gave `saved` for the
form's chain source. -/
def saveConfig (saved : ChainSourceConfig → Except String TomlValue) (app : LdkServerApp) :
    LdkServerApp :=
  match app.state.configFilePath with
  | some path =>
    let chainSource := app.state.forms.chainSource.toConfig
    match saved chainSource with
    | .ok _ => app.modifyState fun s =>
        { s with chainSource := chainSource, statusMessage := some (.success ("Config saved to " ++ path)) }
    | .error e => app.setStatus (.error ("Failed to save: " ++ e))
  | none => app.setStatus (.error "No config file loaded. Use 'Save As...'")

def saveConfigAs (path : String) (saved : ChainSourceConfig → Except String TomlValue)
    (app : LdkServerApp) : LdkServerApp :=
  let chainSource := app.state.forms.chainSource.toConfig
  match saved chainSource with
  | .ok _ => app.modifyState fun s =>
      { s with configFilePath := some path, chainSource := chainSource,
               statusMessage := some (.success ("Config saved to " ++ path)) }
  | .error e => app.setStatus (.error ("Failed to save: " ++ e))

end LdkServerApp

end LdkServerGui
