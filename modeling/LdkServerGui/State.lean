import LdkServerGui.Api
import LdkServerGui.Config

/-!
# Application state (`state.rs`)

`AppState` with the forms, the status line and `AsyncTasks`, the registry of the seventeen
single-flight slots. A slot holds the `ChannelTaskHandle` of its outstanding call; a handle is the
receiving end of that call's cell, named by the call's position among the calls spawned for the
slot's key (`Runtime`). Fields only the renderer reads (`active_tab`, `lightning_tab`,
`onchain_tab`) and the status line's timestamp are left out.
-/

namespace LdkServerGui

inductive ConnectionStatus where
  | disconnected
  | connected
  | error (message : String)
deriving DecidableEq, Repr

structure OpenChannelForm where
  nodePubkey : String := ""
  address : String := ""
  channelAmountSats : String := ""
  pushToCounterpartyMsat : String := ""
  announceChannel : Bool := false
  forwardingFeeProportionalMillionths : String := ""
  forwardingFeeBaseMsat : String := ""
  cltvExpiryDelta : String := ""
deriving DecidableEq, Repr

structure Bolt11ReceiveForm where
  amountMsat : String := ""
  description : String := ""
  expirySecs : String := ""
deriving DecidableEq, Repr

structure Bolt11SendForm where
  invoice : String := ""
  amountMsat : String := ""
deriving DecidableEq, Repr

structure Bolt12ReceiveForm where
  description : String := ""
  amountMsat : String := ""
  expirySecs : String := ""
  quantity : String := ""
deriving DecidableEq, Repr

structure Bolt12SendForm where
  offer : String := ""
  amountMsat : String := ""
  quantity : String := ""
  payerNote : String := ""
deriving DecidableEq, Repr

structure OnchainSendForm where
  address : String := ""
  amountSats : String := ""
  sendAll : Bool := false
  feeRateSatPerVb : String := ""
deriving DecidableEq, Repr

structure SpliceForm where
  userChannelId : String := ""
  counterpartyNodeId : String := ""
  spliceAmountSats : String := ""
  address : String := ""
deriving DecidableEq, Repr

structure UpdateChannelConfigForm where
  userChannelId : String := ""
  counterpartyNodeId : String := ""
  forwardingFeeProportionalMillionths : String := ""
  forwardingFeeBaseMsat : String := ""
  cltvExpiryDelta : String := ""
deriving DecidableEq, Repr

structure CloseChannelForm where
  userChannelId : String := ""
  counterpartyNodeId : String := ""
  forceCloseReason : String := ""
deriving DecidableEq, Repr

structure ConnectPeerForm where
  nodePubkey : String := ""
  address : String := ""
  persist : Bool := false
deriving DecidableEq, Repr

structure ChainSourceForm where
  sourceType : ChainSourceType := .none
  btcRpcAddress : String := ""
  btcRpcUser : String := ""
  btcRpcPassword : String := ""
  serverUrl : String := ""
deriving DecidableEq, Repr

namespace ChainSourceForm

def fromConfig : ChainSourceConfig → ChainSourceForm
  | .none => {}
  | .bitcoind rpcAddress rpcUser rpcPassword =>
    { sourceType := .bitcoind, btcRpcAddress := rpcAddress, btcRpcUser := rpcUser,
      btcRpcPassword := rpcPassword, serverUrl := "" }
  | .electrum serverUrl => { sourceType := .electrum, serverUrl }
  | .esplora serverUrl => { sourceType := .esplora, serverUrl }

def toConfig (form : ChainSourceForm) : ChainSourceConfig :=
  match form.sourceType with
  | .none => .none
  | .bitcoind => .bitcoind form.btcRpcAddress form.btcRpcUser form.btcRpcPassword
  | .electrum => .electrum form.serverUrl
  | .esplora => .esplora form.serverUrl

theorem toConfig_fromConfig (c : ChainSourceConfig) : (fromConfig c).toConfig = c := by
  cases c <;> rfl

end ChainSourceForm

structure Forms where
  openChannel : OpenChannelForm := {}
  bolt11Receive : Bolt11ReceiveForm := {}
  bolt11Send : Bolt11SendForm := {}
  bolt12Receive : Bolt12ReceiveForm := {}
  bolt12Send : Bolt12SendForm := {}
  onchainSend : OnchainSendForm := {}
  spliceIn : SpliceForm := {}
  spliceOut : SpliceForm := {}
  updateChannelConfig : UpdateChannelConfigForm := {}
  closeChannel : CloseChannelForm := {}
  connectPeer : ConnectPeerForm := {}
  chainSource : ChainSourceForm := {}
deriving DecidableEq, Repr

/-- `StatusMessage`, without its timestamp. -/
structure StatusMessage where
  text : String
  isError : Bool
deriving DecidableEq, Repr

def StatusMessage.success (text : String) : StatusMessage := ⟨text, false⟩

def StatusMessage.error (text : String) : StatusMessage := ⟨text, true⟩

/-- `ChannelTaskHandle<T>`: the receiving end of one call's cell, the call's position among the
calls spawned for its key. -/
structure ChannelTaskHandle where
  rx : Nat
deriving DecidableEq, Repr

/-- `AsyncTasks`: one `Option<ChannelTaskHandle<_>>` field per key. -/
def AsyncTasks := TaskKey → Option ChannelTaskHandle

namespace AsyncTasks

def default : AsyncTasks := fun _ => none

def set (t : AsyncTasks) (k : TaskKey) (h : Option ChannelTaskHandle) : AsyncTasks :=
  Function.update t k h

@[simp] theorem set_same (t : AsyncTasks) (k : TaskKey) (h : Option ChannelTaskHandle) :
    t.set k h k = h := Function.update_same _ _ _

@[simp] theorem set_of_ne (t : AsyncTasks) {k k' : TaskKey} (h : Option ChannelTaskHandle)
    (hk : k' ≠ k) : t.set k h k' = t k' := Function.update_noteq hk _ _

def anyPending (t : AsyncTasks) : Bool :=
  (t .nodeInfo).isSome || (t .balances).isSome || (t .channels).isSome || (t .payments).isSome ||
    (t .onchainReceive).isSome || (t .onchainSend).isSome || (t .bolt11Receive).isSome ||
    (t .bolt11Send).isSome || (t .bolt12Receive).isSome || (t .bolt12Send).isSome ||
    (t .openChannel).isSome || (t .closeChannel).isSome || (t .forceCloseChannel).isSome ||
    (t .spliceIn).isSome || (t .spliceOut).isSome || (t .updateChannelConfig).isSome ||
    (t .connectPeer).isSome

end AsyncTasks

structure AppState where
  serverUrl : String
  apiKey : String
  tlsCertPath : String
  connectionStatus : ConnectionStatus
  client : Option LdkServerClient
  configFilePath : Option String
  network : String
  chainSource : ChainSourceConfig
  nodeInfo : Option GetNodeInfoResponse
  balances : Option GetBalancesResponse
  channels : Option ListChannelsResponse
  payments : Option ListPaymentsResponse
  paymentsPageToken : Option PageToken
  onchainAddress : Option String
  generatedInvoice : Option String
  generatedOffer : Option String
  lastPaymentId : Option String
  lastTxid : Option String
  lastChannelId : Option String
  tasks : AsyncTasks
  forms : Forms
  statusMessage : Option StatusMessage
  showOpenChannelDialog : Bool
  showCloseChannelDialog : Bool
  showSpliceInDialog : Bool
  showSpliceOutDialog : Bool
  showUpdateConfigDialog : Bool
  showConnectPeerDialog : Bool
  showLoadConfigDialog : Bool
  configPasteText : String

def AppState.default : AppState where
  serverUrl := "localhost:3002"
  apiKey := ""
  tlsCertPath := ""
  connectionStatus := .disconnected
  client := none
  configFilePath := none
  network := ""
  chainSource := .none
  nodeInfo := none
  balances := none
  channels := none
  payments := none
  paymentsPageToken := none
  onchainAddress := none
  generatedInvoice := none
  generatedOffer := none
  lastPaymentId := none
  lastTxid := none
  lastChannelId := none
  tasks := AsyncTasks.default
  forms := {}
  statusMessage := none
  showOpenChannelDialog := false
  showCloseChannelDialog := false
  showSpliceInDialog := false
  showSpliceOutDialog := false
  showUpdateConfigDialog := false
  showConnectPeerDialog := false
  showLoadConfigDialog := false
  configPasteText := ""

end LdkServerGui
