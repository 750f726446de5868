import Mathlib.Data.List.Basic

/-!
# The remote operations and their messages

The seventeen slots of `AsyncTasks` (`TaskKey`, in the order `poll_tasks` drains them) and, for
each, the request its trigger builds (`Request`) and the response its handle delivers
(`Response`), from `ldk_server_protos::api`. Request fields are kept as the triggers fill them.
Of a response only the fields a success handler reads are kept; `GetNodeInfoResponse`,
`GetBalancesResponse` and `ListChannelsResponse` are stored whole and never read by the core, so
they are kept as their encoded message. The client is external: `LdkServerClient` only tells one
construction from another.
-/

namespace LdkServerGui

/-- The fields of `AsyncTasks`, one per remote operation, in declaration (and drain) order. -/
inductive TaskKey where
  | nodeInfo
  | balances
  | channels
  | payments
  | onchainReceive
  | onchainSend
  | bolt11Receive
  | bolt11Send
  | bolt12Receive
  | bolt12Send
  | openChannel
  | closeChannel
  | forceCloseChannel
  | spliceIn
  | spliceOut
  | updateChannelConfig
  | connectPeer
deriving DecidableEq, Repr

namespace TaskKey

def all : List TaskKey :=
  [nodeInfo, balances, channels, payments, onchainReceive, onchainSend, bolt11Receive, bolt11Send,
    bolt12Receive, bolt12Send, openChannel, closeChannel, forceCloseChannel, spliceIn, spliceOut,
    updateChannelConfig, connectPeer]

theorem mem_all (k : TaskKey) : k ∈ all := by cases k <;> decide

theorem nodup_all : all.Nodup := by decide

/-- The six operations on a channel; their success handlers end with `self.fetch_channels()`. -/
def mutatesChannels : TaskKey → Bool
  | openChannel | closeChannel | forceCloseChannel | spliceIn | spliceOut | updateChannelConfig => true
  | _ => false

end TaskKey

structure PageToken where
  token : String
  index : Int
deriving DecidableEq, Repr

/-- `types::ChannelConfig` with the three fields the forms fill; the other three are always
`None`. -/
structure ChannelConfig where
  forwardingFeeProportionalMillionths : Option Nat
  forwardingFeeBaseMsat : Option Nat
  cltvExpiryDelta : Option Nat
deriving DecidableEq, Repr

inductive Bolt11InvoiceDescriptionKind where
  | direct (description : String)
  | hash (hash : String)
deriving DecidableEq, Repr

structure Bolt11InvoiceDescription where
  kind : Option Bolt11InvoiceDescriptionKind
deriving DecidableEq, Repr

/-! ### Requests -/

structure GetNodeInfoRequest deriving DecidableEq, Repr, Inhabited
structure GetBalancesRequest deriving DecidableEq, Repr, Inhabited
structure ListChannelsRequest deriving DecidableEq, Repr, Inhabited
structure OnchainReceiveRequest deriving DecidableEq, Repr, Inhabited

structure ListPaymentsRequest where
  pageToken : Option PageToken
deriving DecidableEq, Repr

structure OnchainSendRequest where
  address : String
  amountSats : Option Nat
  sendAll : Option Bool
  feeRateSatPerVb : Option Nat
deriving DecidableEq, Repr

structure Bolt11ReceiveRequest where
  amountMsat : Option Nat
  description : Option Bolt11InvoiceDescription
  expirySecs : Nat
deriving DecidableEq, Repr

structure Bolt11SendRequest where
  invoice : String
  amountMsat : Option Nat
deriving DecidableEq, Repr

structure Bolt12ReceiveRequest where
  description : String
  amountMsat : Option Nat
  expirySecs : Option Nat
  quantity : Option Nat
deriving DecidableEq, Repr

structure Bolt12SendRequest where
  offer : String
  amountMsat : Option Nat
  quantity : Option Nat
  payerNote : Option String
deriving DecidableEq, Repr

structure OpenChannelRequest where
  nodePubkey : String
  address : String
  channelAmountSats : Nat
  pushToCounterpartyMsat : Option Nat
  channelConfig : Option ChannelConfig
  announceChannel : Bool
deriving DecidableEq, Repr

structure CloseChannelRequest where
  userChannelId : String
  counterpartyNodeId : String
deriving DecidableEq, Repr

structure ForceCloseChannelRequest where
  userChannelId : String
  counterpartyNodeId : String
  forceCloseReason : Option String
deriving DecidableEq, Repr

structure SpliceInRequest where
  userChannelId : String
  counterpartyNodeId : String
  spliceAmountSats : Nat
deriving DecidableEq, Repr

structure SpliceOutRequest where
  userChannelId : String
  counterpartyNodeId : String
  address : Option String
  spliceAmountSats : Nat
deriving DecidableEq, Repr

structure UpdateChannelConfigRequest where
  userChannelId : String
  counterpartyNodeId : String
  channelConfig : Option ChannelConfig
deriving DecidableEq, Repr

structure ConnectPeerRequest where
  nodePubkey : String
  address : String
  persist : Bool
deriving DecidableEq, Repr

@[reducible] def Request : TaskKey → Type
  | .nodeInfo => GetNodeInfoRequest
  | .balances => GetBalancesRequest
  | .channels => ListChannelsRequest
  | .payments => ListPaymentsRequest
  | .onchainReceive => OnchainReceiveRequest
  | .onchainSend => OnchainSendRequest
  | .bolt11Receive => Bolt11ReceiveRequest
  | .bolt11Send => Bolt11SendRequest
  | .bolt12Receive => Bolt12ReceiveRequest
  | .bolt12Send => Bolt12SendRequest
  | .openChannel => OpenChannelRequest
  | .closeChannel => CloseChannelRequest
  | .forceCloseChannel => ForceCloseChannelRequest
  | .spliceIn => SpliceInRequest
  | .spliceOut => SpliceOutRequest
  | .updateChannelConfig => UpdateChannelConfigRequest
  | .connectPeer => ConnectPeerRequest

/-! ### Responses -/

structure GetNodeInfoResponse where
  encoded : List UInt8
deriving DecidableEq, Repr

structure GetBalancesResponse where
  encoded : List UInt8
deriving DecidableEq, Repr

structure ListChannelsResponse where
  encoded : List UInt8
deriving DecidableEq, Repr

structure ListPaymentsResponse where
  payments : List UInt8
  nextPageToken : Option PageToken
deriving DecidableEq, Repr

structure OnchainReceiveResponse where
  address : String
deriving DecidableEq, Repr

structure OnchainSendResponse where
  txid : String
deriving DecidableEq, Repr

structure Bolt11ReceiveResponse where
  invoice : String
deriving DecidableEq, Repr

structure Bolt11SendResponse where
  paymentId : String
deriving DecidableEq, Repr

structure Bolt12ReceiveResponse where
  offer : String
deriving DecidableEq, Repr

structure Bolt12SendResponse where
  paymentId : String
deriving DecidableEq, Repr

structure OpenChannelResponse where
  userChannelId : String
deriving DecidableEq, Repr

structure CloseChannelResponse deriving DecidableEq, Repr
structure ForceCloseChannelResponse deriving DecidableEq, Repr
structure SpliceInResponse deriving DecidableEq, Repr

structure SpliceOutResponse where
  address : String
deriving DecidableEq, Repr

structure UpdateChannelConfigResponse deriving DecidableEq, Repr
structure ConnectPeerResponse deriving DecidableEq, Repr

@[reducible] def Response : TaskKey → Type
  | .nodeInfo => GetNodeInfoResponse
  | .balances => GetBalancesResponse
  | .channels => ListChannelsResponse
  | .payments => ListPaymentsResponse
  | .onchainReceive => OnchainReceiveResponse
  | .onchainSend => OnchainSendResponse
  | .bolt11Receive => Bolt11ReceiveResponse
  | .bolt11Send => Bolt11SendResponse
  | .bolt12Receive => Bolt12ReceiveResponse
  | .bolt12Send => Bolt12SendResponse
  | .openChannel => OpenChannelResponse
  | .closeChannel => CloseChannelResponse
  | .forceCloseChannel => ForceCloseChannelResponse
  | .spliceIn => SpliceInResponse
  | .spliceOut => SpliceOutResponse
  | .updateChannelConfig => UpdateChannelConfigResponse
  | .connectPeer => ConnectPeerResponse

/-- What a handle of slot `k` delivers: `Result<T, String>`, the error being the client error's
`to_string()`. -/
abbrev Outcome (k : TaskKey) := Except String (Response k)

/-- An `Arc<LdkServerClient>`. The client is external; `serial` tells apart the clients built by
different `connect` calls. -/
structure LdkServerClient where
  serial : Nat
deriving DecidableEq, Repr

end LdkServerGui
