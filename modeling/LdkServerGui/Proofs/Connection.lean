import LdkServerGui.Proofs.Delivery

/-!
# The connection and the data it scopes

`client_iff_connected`: while Connect is offered only when not connected, a client is installed
exactly when the status is Connected. Nothing but `connect` and `disconnect` writes either.

The four cached responses (`cached`) are what the drain passes last delivered since the last
disconnect (`cached_eq_lastDelivered`). `disconnect` clears them but cancels nothing: a call in
flight keeps its slot, and its response is written by the next drain pass even with no client
installed (`node_info_after_disconnect`).
-/

namespace LdkServerGui
open LdkServerApp

/-! ### Client and connection status -/

/-- The settings panel offers the Connect button only while not connected. -/
def connectOffered : AppState → Op → Prop
  | s, .connect .. => s.connectionStatus ≠ .connected
  | _, _ => True

def ClientInv (s : AppState) : Prop := s.client.isSome ↔ s.connectionStatus = .connected

theorem ClientInv.of_core {s s' : AppState} (h : ClientInv s) (hc : s'.core = s.core) : ClientInv s' := by
  have h1 : s'.client = s.client := congrArg Core.client hc
  have h2 : s'.connectionStatus = s.connectionStatus := congrArg Core.connectionStatus hc
  rwa [ClientInv, h1, h2]

theorem ClientInv.trigger {app : LdkServerApp} (h : ClientInv app.state) (k : TaskKey)
    (request : AppState → Except String (Request k)) : ClientInv (trigger k request app).state := by
  obtain ⟨m, t, ht⟩ := trigger_state k request app
  rw [ht]; exact h

theorem ClientInv.exec {app : LdkServerApp} (h : ClientInv app.state) (op : Op)
    (hok : connectOffered app.state op) : ClientInv (exec op app).1.state := by
  cases hq : op.quiet
  · cases op <;> simp only [Op.quiet, Bool.true_eq_false] at hq
    case trigger k' =>
      obtain ⟨r, hr⟩ := triggerOf_eq_trigger k'
      simp only [LdkServerGui.exec, hr]
      exact h.trigger k' r
    case connect target certRead newClient =>
      rcases connect_cases target certRead newClient app with ⟨m, hc⟩ | ⟨e, hc⟩ | ⟨c, hc⟩ <;>
        simp only [LdkServerGui.exec, hc]
      · exact h
      · have hok' : app.state.connectionStatus ≠ .connected := hok
        have hn : app.state.client = none := Option.not_isSome_iff_eq_none.1 fun hs => hok' (h.1 hs)
        simp [ClientInv, hn]
      · refine ((ClientInv.trigger ?_ _ _).trigger _ _).trigger _ _
        simp [ClientInv]
    case disconnect => simp [ClientInv, LdkServerGui.exec, disconnect]
    case poll => rw [exec_poll]; simpa [ClientInv, pollTasks, pollAll_client, pollAll_connectionStatus] using h
    case complete k' i o =>
      simp only [LdkServerGui.exec, LdkServerApp.complete]
      split <;> exact h
    case refreshPayments =>
      simp only [LdkServerGui.exec, fetchPayments]
      apply ClientInv.trigger
      exact h
  · exact h.of_core (exec_quiet hq app).2.1

theorem client_iff_connected {app : LdkServerApp} {tr : List Event} (h : Reach connectOffered app tr) :
    app.state.client.isSome ↔ app.state.connectionStatus = .connected := by
  induction h with
  | init found => cases found <;> simp [LdkServerApp.new, AppState.default, applyConfig]
  | step op _ hok ih => exact ClientInv.exec ih op hok

def reconnectAfterError : List Op :=
  [.editSettings "localhost:3002" "key" "", .connect .wasm32 (.ok []) (.ok ⟨0⟩), .disconnect,
    .connect .wasm32 (.ok []) (.error "connection refused"), .connect .wasm32 (.ok []) (.ok ⟨1⟩)]

theorem client_iff_connected_after_reconnect :
    Reach connectOffered (run reconnectAfterError (.new none)).1 ([] ++ (run reconnectAfterError (.new none)).2) ∧
      ((run reconnectAfterError (.new none)).1.state.client.isSome ↔
        (run reconnectAfterError (.new none)).1.state.connectionStatus = .connected) :=
  have h := (Reach.init none).runAllowed reconnectAfterError (by simp only [Allowed, connectOffered]; decide)
  ⟨h, client_iff_connected h⟩

/-! ### The cached responses -/

def TaskKey.cachesResponse : TaskKey → Bool
  | .nodeInfo | .balances | .channels | .payments => true
  | _ => false

def cached : (k : TaskKey) → AppState → Option (Response k)
  | .nodeInfo, s => s.nodeInfo
  | .balances, s => s.balances
  | .channels, s => s.channels
  | .payments, s => s.payments
  | _, _ => none

/-- One event's effect on what is cached for `k`: a delivered success of `k` is stored, a
disconnect clears it. -/
def cacheStep (k : TaskKey) (acc : Option (Response k)) : Event → Option (Response k)
  | .delivered ⟨k', _, .ok v⟩ => if h : k' = k then some (h ▸ v) else acc
  | .disconnected => none
  | _ => acc

/-- The last success of `k` delivered by a drain pass since the last disconnect. -/
def lastDelivered (k : TaskKey) (tr : List Event) : Option (Response k) :=
  tr.foldl (cacheStep k) none

theorem cached_core {s s' : AppState} (h : s'.core = s.core) (k : TaskKey) : cached k s' = cached k s := by
  have h1 := congrArg Core.nodeInfo h
  have h2 := congrArg Core.balances h
  have h3 := congrArg Core.channels h
  have h4 := congrArg Core.payments h
  cases k <;> first | rfl | assumption

theorem cached_update (s : AppState) (m : Option StatusMessage) (t : AsyncTasks) (k : TaskKey) :
    cached k { s with statusMessage := m, tasks := t } = cached k s := by
  cases k <;> rfl

theorem cached_outcomeState {k : TaskKey} (hk : k.cachesResponse) (k' : TaskKey) (i : Nat)
    (o : Outcome k') (s : AppState) :
    cached k (outcomeState k' o s) = cacheStep k (cached k s) (.delivered ⟨k', i, o⟩) := by
  cases k <;> simp only [TaskKey.cachesResponse, Bool.false_eq_true] at hk <;> cases o <;> cases k' <;>
    rfl

theorem cached_trigger (k : TaskKey) (k' : TaskKey) (request : AppState → Except String (Request k'))
    (app : LdkServerApp) : cached k (trigger k' request app).state = cached k app.state := by
  obtain ⟨m, t, ht⟩ := trigger_state k' request app
  rw [ht, cached_update]

theorem cached_handleOutcome {k : TaskKey} (hk : k.cachesResponse) (k' : TaskKey) (i : Nat)
    (o : Outcome k') (app : LdkServerApp) :
    cached k (handleOutcome k' o app).state = cacheStep k (cached k app.state) (.delivered ⟨k', i, o⟩) := by
  rw [← cached_outcomeState hk, handleOutcome_eq]
  split
  · rw [fetchChannels, cached_trigger]; rfl
  · rfl

theorem cached_pollTask {k : TaskKey} (hk : k.cachesResponse) (k' : TaskKey) (app : LdkServerApp) :
    cached k (pollTask k' app).1.state =
      (Polled.events [(pollTask k' app).2]).foldl (cacheStep k) (cached k app.state) := by
  rcases pollTask_cases k' app with ⟨-, hp⟩ | ⟨-, -, -, hp⟩ | ⟨t, o, -, -, hp⟩ <;> rw [hp]
  · rfl
  · rfl
  · rw [cached_handleOutcome hk k' t.rx, take_state, cached_update]
    rfl

theorem cached_pollAll {k : TaskKey} (hk : k.cachesResponse) (ks : List TaskKey) (app : LdkServerApp) :
    cached k (pollAll ks app).1.state =
      (Polled.events (pollAll ks app).2).foldl (cacheStep k) (cached k app.state) := by
  induction ks generalizing app with
  | nil => rfl
  | cons k' ks ih =>
    rw [pollAll_cons_fst, pollAll_cons_snd, Polled.events_cons, List.foldl_append, ih,
      cached_pollTask hk]

theorem cached_exec {k : TaskKey} (hk : k.cachesResponse) (op : Op) (app : LdkServerApp) :
    cached k (exec op app).1.state = (exec op app).2.foldl (cacheStep k) (cached k app.state) := by
  cases hq : op.quiet
  · cases op <;> simp only [Op.quiet, Bool.true_eq_false] at hq
    case trigger k' =>
      obtain ⟨r, hr⟩ := triggerOf_eq_trigger k'
      simp only [LdkServerGui.exec, hr, cached_trigger, List.foldl_nil]
    case connect target certRead newClient =>
      rcases connect_cases target certRead newClient app with ⟨m, hc⟩ | ⟨e, hc⟩ | ⟨c, hc⟩ <;>
        simp only [LdkServerGui.exec, hc, List.foldl_nil]
      · exact cached_update app.state _ app.state.tasks k
      · cases k <;> rfl
      · rw [cached_trigger, cached_trigger, cached_trigger]
        cases k <;> rfl
    case disconnect => cases k <;> rfl
    case poll =>
      rw [exec_poll]
      dsimp only
      rw [pollTasks, List.foldl_append, ← cached_pollAll hk]
      rfl
    case complete k' i o =>
      simp only [LdkServerGui.exec, LdkServerApp.complete]
      split <;> rfl
    case refreshPayments =>
      simp only [LdkServerGui.exec, fetchPayments, List.foldl_nil]
      rw [cached_trigger]
      cases k <;> rfl
  · obtain ⟨-, hcore, hev⟩ := exec_quiet hq app
    rw [hev, cached_core hcore]
    rfl

theorem cached_eq_lastDelivered {app : LdkServerApp} {tr : List Event} (h : Reach anyOp app tr)
    (k : TaskKey) (hk : k.cachesResponse) : cached k app.state = lastDelivered k tr := by
  induction h with
  | init found => cases found <;> cases k <;> rfl
  | step op _ _ ih => rw [cached_exec hk, ih, lastDelivered, lastDelivered, List.foldl_append]

def disconnectInFlight : List Op :=
  [.editSettings "localhost:3002" "key" "", .connect .wasm32 (.ok []) (.ok ⟨0⟩), .disconnect,
    .complete .nodeInfo 0 (.ok ⟨[]⟩), .poll]

theorem cached_after_disconnectInFlight :
    (Reach anyOp (run disconnectInFlight (.new none)).1 ([] ++ (run disconnectInFlight (.new none)).2) ∧
      TaskKey.nodeInfo.cachesResponse) ∧
    cached .nodeInfo (run disconnectInFlight (.new none)).1.state =
      lastDelivered .nodeInfo ([] ++ (run disconnectInFlight (.new none)).2) :=
  have h := (Reach.init none).run disconnectInFlight fun _ _ _ => trivial
  ⟨⟨h, rfl⟩, cached_eq_lastDelivered h .nodeInfo rfl⟩

/-- A `get_node_info` call in flight at disconnect is drained after it: `node_info` is set while
no client is installed. -/
theorem node_info_after_disconnect :
    ∃ app tr, Reach anyOp app tr ∧ app.state.client = none ∧ app.state.nodeInfo.isSome :=
  ⟨_, _, (Reach.init none).run disconnectInFlight fun _ _ _ => trivial, rfl, rfl⟩

end LdkServerGui
