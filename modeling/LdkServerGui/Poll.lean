import LdkServerGui.App

/-!
# The drain pass (`poll_tasks`, `update`)

`poll_tasks` expands `poll_task!` once per slot, in `TaskKey.all` order. An expansion that finds
an occupied slot calls `try_take`: `None` requests a repaint and leaves the slot as it is;
`Some(res)` clears the slot, then runs the slot's success handler (`handleOk`) on `Ok(v)` or
reports `Err(e)` on the status line. `pollTask` also says which arm ran (`Polled`), so a pass
yields the outcomes it delivered and the repaints it requested. A success arm is its assignments
(`okState`); those of the six channel operations end with `fetch_channels`, which can spawn a
call during the pass.
-/

namespace LdkServerGui

/-- An outcome handed to slot `key`'s handler: that of the `call`-th call spawned for `key`. -/
structure Delivery where
  key : TaskKey
  call : Nat
  outcome : Outcome key

/-- Which arm of `poll_task!` ran for a slot. -/
inductive Polled where
  | idle
  | pending
  | delivered (d : Delivery)

inductive Repaint where
  | now
  | after (ms : Nat)
deriving DecidableEq, Repr

namespace LdkServerApp

/-- The assignments of the success arm of slot `k`'s `poll_task!`, on `Ok(v)`. -/
def okState : (k : TaskKey) → Response k → AppState → AppState
  | .nodeInfo, v, s => { s with nodeInfo := some v }
  | .balances, v, s => { s with balances := some v }
  | .channels, v, s => { s with channels := some v }
  | .payments, v, s => { s with paymentsPageToken := v.nextPageToken, payments := some v }
  | .onchainReceive, v, s =>
    { s with onchainAddress := some v.address, statusMessage := some (.success "Address generated") }
  | .onchainSend, v, s =>
    { s with lastTxid := some v.txid
             statusMessage := some (.success ("Sent! TXID: " ++ v.txid))
             forms := { s.forms with onchainSend := {} } }
  | .bolt11Receive, v, s =>
    { s with generatedInvoice := some v.invoice
             statusMessage := some (.success "Invoice generated") }
  | .bolt11Send, v, s =>
    { s with lastPaymentId := some v.paymentId
             statusMessage := some (.success ("Payment sent! ID: " ++ v.paymentId))
             forms := { s.forms with bolt11Send := {} } }
  | .bolt12Receive, v, s =>
    { s with generatedOffer := some v.offer, statusMessage := some (.success "Offer generated") }
  | .bolt12Send, v, s =>
    { s with lastPaymentId := some v.paymentId
             statusMessage := some (.success ("Payment sent! ID: " ++ v.paymentId))
             forms := { s.forms with bolt12Send := {} } }
  | .openChannel, v, s =>
    { s with lastChannelId := some v.userChannelId
             statusMessage := some (.success ("Channel opened! ID: " ++ v.userChannelId))
             forms := { s.forms with openChannel := {} }
             showOpenChannelDialog := false }
  | .closeChannel, _, s =>
    { s with statusMessage := some (.success "Channel close initiated")
             forms := { s.forms with closeChannel := {} }
             showCloseChannelDialog := false }
  | .forceCloseChannel, _, s =>
    { s with statusMessage := some (.success "Force close initiated")
             forms := { s.forms with closeChannel := {} }
             showCloseChannelDialog := false }
  | .spliceIn, _, s =>
    { s with statusMessage := some (.success "Splice-in initiated")
             forms := { s.forms with spliceIn := {} }
             showSpliceInDialog := false }
  | .spliceOut, v, s =>
    { s with statusMessage := some (.success ("Splice-out initiated to " ++ v.address))
             forms := { s.forms with spliceOut := {} }
             showSpliceOutDialog := false }
  | .updateChannelConfig, _, s =>
    { s with statusMessage := some (.success "Channel config updated")
             forms := { s.forms with updateChannelConfig := {} }
             showUpdateConfigDialog := false }
  | .connectPeer, _, s =>
    { s with statusMessage := some (.success "Peer connected successfully")
             forms := { s.forms with connectPeer := {} }
             showConnectPeerDialog := false }

def handleOk (k : TaskKey) (v : Response k) (app : LdkServerApp) : LdkServerApp :=
  let app := app.modifyState (okState k v)
  if k.mutatesChannels then fetchChannels app else app

def handleOutcome (k : TaskKey) : Outcome k → LdkServerApp → LdkServerApp
  | .ok v, app => handleOk k v app
  | .error e, app => app.setStatus (.error e)

def pollTask (k : TaskKey) (app : LdkServerApp) : LdkServerApp × Polled :=
  match app.state.tasks k with
  | none => (app, .idle)
  | some t =>
    match app.rt.tryTake k t with
    | (none, _) => (app, .pending)
    | (some res, rt) =>
      (handleOutcome k res ⟨{ app.state with tasks := app.state.tasks.set k none }, rt⟩,
        .delivered ⟨k, t.rx, res⟩)

def pollAll : List TaskKey → LdkServerApp → LdkServerApp × List Polled
  | [], app => (app, [])
  | k :: ks, app =>
    let (app, p) := pollTask k app
    let (app, ps) := pollAll ks app
    (app, p :: ps)

def pollTasks (app : LdkServerApp) : LdkServerApp × List Polled :=
  pollAll TaskKey.all app

/-- The repaint requests of one `App::update` whose `poll_tasks` gave `p`: one per pending slot
during the pass, then `request_repaint_after(100 ms)` if `any_pending()`. -/
def repaints (p : LdkServerApp × List Polled) : List Repaint :=
  p.2.filterMap (fun | .pending => some .now | _ => none) ++
    if p.1.state.tasks.anyPending then [.after 100] else []

/-- `App::update`: `poll_tasks`, then the repaint requests. Rendering is not modelled. -/
def update (app : LdkServerApp) : LdkServerApp × List Repaint :=
  let p := pollTasks app
  (p.1, repaints p)

end LdkServerApp

end LdkServerGui
