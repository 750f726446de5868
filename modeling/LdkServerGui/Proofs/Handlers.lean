import LdkServerGui.Proofs.Delivery

/-!
# The parts of the state the arms write

Outside the slots, `poll_tasks` does nothing but run the arms of the outcomes it delivers, one
after the other in slot order (`pollAll_state`). The follow-up `fetch_channels` of a channel
operation's success writes only the slots (`fetchChannels_state`), and a slot still pending is
left alone.

A part of the state that only the arms write (`ArmView`: the forms, the payments page token, the
results the panels show) changes under every operation but the config and form buttons and Refresh
only by the events the operation reports (`ArmView.exec`).

Forms hold the user's input. Over any run that neither edits the forms nor loads a config file,
the forms are the initial ones with the arms of the delivered outcomes applied in order
(`run_forms`): triggers, `connect`, `disconnect`, completions and the other config buttons never
touch them, a failure's arm leaves them as they are (`formsAfter_error`), and only a success resets
the form of its own operation (`outcomeState_forms`).
-/

namespace LdkServerGui
open LdkServerApp

/-! ### The state after a pass -/

def Polled.apply (s : AppState) : Polled → AppState
  | .delivered d => outcomeState d.key d.outcome s
  | _ => s

theorem outcomeState_with_tasks (k : TaskKey) (o : Outcome k) (s : AppState) (t : AsyncTasks) :
    outcomeState k o { s with tasks := t } = { outcomeState k o s with tasks := t } := by
  cases o <;> cases k <;> rfl

theorem Polled.foldl_apply_with_tasks (ps : List Polled) (s : AppState) (t : AsyncTasks) :
    ps.foldl Polled.apply { s with tasks := t } = { ps.foldl Polled.apply s with tasks := t } := by
  induction ps generalizing s with
  | nil => rfl
  | cons p ps ih =>
    cases p with
    | delivered d =>
      simp only [List.foldl_cons, Polled.apply, outcomeState_with_tasks]
      exact ih _
    | idle => exact ih s
    | pending => exact ih s

theorem fetchChannels_state (app : LdkServerApp) :
    ∃ t, (fetchChannels app).state = { app.state with tasks := t } := by
  simp only [fetchChannels, trigger]
  split_ifs
  · exact ⟨_, rfl⟩
  · split
    · exact ⟨_, rfl⟩
    · exact ⟨_, rfl⟩

theorem pollTask_state (k : TaskKey) (app : LdkServerApp) :
    (pollTask k app).1.state =
      { Polled.apply app.state (pollTask k app).2 with tasks := (pollTask k app).1.state.tasks } := by
  rcases pollTask_cases k app with ⟨-, hp⟩ | ⟨-, -, -, hp⟩ | ⟨t, o, -, -, hp⟩ <;> rw [hp]
  · rfl
  · rfl
  · rw [handleOutcome_eq]
    split
    · obtain ⟨t', h⟩ := fetchChannels_state ((app.take k t.rx).modifyState (outcomeState k o))
      rw [h, modifyState_state, take_state, outcomeState_with_tasks]
      rfl
    · rw [modifyState_state, take_state, outcomeState_with_tasks]
      rfl

theorem pollAll_state (ks : List TaskKey) (app : LdkServerApp) :
    (pollAll ks app).1.state =
      { (pollAll ks app).2.foldl Polled.apply app.state with tasks := (pollAll ks app).1.state.tasks } := by
  induction ks generalizing app with
  | nil => rfl
  | cons k ks ih =>
    rw [pollAll_cons_fst, pollAll_cons_snd, List.foldl_cons, ih, pollTask_state k app,
      Polled.foldl_apply_with_tasks]

/-! ### Parts of the state only the arms write -/

section View
variable {α : Type} {view : AppState → α} {step : α → Event → α}

/-- `view` is a part of the state that only the arms write, as `step` says: neither the status
line and the slots, nor the connection, nor `disconnect` beyond what `step` gives it. -/
structure ArmView (view : AppState → α) (step : α → Event → α) : Prop where
  arm : ∀ (k : TaskKey) (i : Nat) (o : Outcome k) (s : AppState),
    view (outcomeState k o s) = step (view s) (.delivered ⟨k, i, o⟩)
  status : ∀ (s : AppState) (m : Option StatusMessage) (t : AsyncTasks),
    view { s with statusMessage := m, tasks := t } = view s
  connection : ∀ (s : AppState) (c : Option LdkServerClient) (st : ConnectionStatus) (m : Option StatusMessage),
    view { s with client := c, connectionStatus := st, statusMessage := m } = view s
  disconnect : ∀ app : LdkServerApp, view (disconnect app).state = step (view app.state) .disconnected
  published : ∀ a d, step a (.published d) = a
  drained : ∀ a, step a .drained = a

namespace ArmView

theorem foldl_apply (h : ArmView view step) (ps : List Polled) (s : AppState) :
    view (ps.foldl Polled.apply s) = (Polled.events ps).foldl step (view s) := by
  induction ps generalizing s with
  | nil => rfl
  | cons p ps ih =>
    rw [List.foldl_cons, ih, Polled.events_cons, List.foldl_append]
    cases p with
    | delivered d => rw [Polled.apply, h.arm d.key d.call]; rfl
    | idle => rfl
    | pending => rfl

theorem trigger (h : ArmView view step) (k : TaskKey) (request : AppState → Except String (Request k))
    (app : LdkServerApp) : view (trigger k request app).state = view app.state := by
  obtain ⟨m, t, ht⟩ := trigger_state k request app
  rw [ht, h.status]

/-- Every operation but the config and form buttons and Refresh changes `view` only by the events
it reports. -/
theorem exec (h : ArmView view step) {op : Op} (hq : op.quiet = false) (hr : op ≠ .refreshPayments)
    (app : LdkServerApp) : view (exec op app).1.state = (exec op app).2.foldl step (view app.state) := by
  cases op <;> simp only [Op.quiet, Bool.true_eq_false] at hq
  case trigger k =>
    obtain ⟨request, hk⟩ := triggerOf_eq_trigger k
    rw [exec_trigger, hk, h.trigger]; rfl
  case connect target certRead newClient =>
    rcases connect_cases target certRead newClient app with ⟨m, hc⟩ | ⟨e, hc⟩ | ⟨c, hc⟩ <;>
      simp only [LdkServerGui.exec, hc, List.foldl_nil]
    · exact h.status _ _ _
    · exact h.connection _ _ _ _
    · rw [h.trigger, h.trigger, h.trigger]; exact h.connection _ _ _ _
  case disconnect => exact h.disconnect app
  case poll =>
    rw [exec_poll, List.foldl_append, ← h.foldl_apply]
    show view (pollAll TaskKey.all app).1.state = _
    rw [pollAll_state, h.status]
    exact (h.drained _).symm
  case complete k i o =>
    simp only [LdkServerGui.exec, LdkServerApp.complete]
    split
    · exact (h.published _ _).symm
    · rfl
  case refreshPayments => exact absurd rfl hr

end ArmView

end View

/-! ### The forms over a run -/

/-- The forms as the arm for `d` leaves them: a success of a send, a channel operation or
connect_peer resets its own form, and every other arm keeps them. -/
def formsAfter : Delivery → Forms → Forms
  | ⟨.onchainSend, _, .ok _⟩, fs => { fs with onchainSend := {} }
  | ⟨.bolt11Send, _, .ok _⟩, fs => { fs with bolt11Send := {} }
  | ⟨.bolt12Send, _, .ok _⟩, fs => { fs with bolt12Send := {} }
  | ⟨.openChannel, _, .ok _⟩, fs => { fs with openChannel := {} }
  | ⟨.closeChannel, _, .ok _⟩, fs => { fs with closeChannel := {} }
  | ⟨.forceCloseChannel, _, .ok _⟩, fs => { fs with closeChannel := {} }
  | ⟨.spliceIn, _, .ok _⟩, fs => { fs with spliceIn := {} }
  | ⟨.spliceOut, _, .ok _⟩, fs => { fs with spliceOut := {} }
  | ⟨.updateChannelConfig, _, .ok _⟩, fs => { fs with updateChannelConfig := {} }
  | ⟨.connectPeer, _, .ok _⟩, fs => { fs with connectPeer := {} }
  | _, fs => fs

def formStep (fs : Forms) : Event → Forms
  | .delivered d => formsAfter d fs
  | _ => fs

/-- The operations that write the forms: the user's edits and Load Config, which fills the
chain-source form. -/
def Op.writesForms : Op → Bool
  | .editForms _ | .loadConfigFile .. => true
  | _ => false

theorem formsAfter_error (k : TaskKey) (i : Nat) (e : String) (fs : Forms) :
    formsAfter ⟨k, i, .error e⟩ fs = fs := by
  cases k <;> rfl

theorem outcomeState_forms (k : TaskKey) (i : Nat) (o : Outcome k) (s : AppState) :
    (outcomeState k o s).forms = formsAfter ⟨k, i, o⟩ s.forms := by
  cases o <;> cases k <;> rfl

theorem armView_forms : ArmView (·.forms) formStep where
  arm := outcomeState_forms
  status _ _ _ := rfl
  connection _ _ _ _ := rfl
  disconnect _ := rfl
  published _ _ := rfl
  drained _ := rfl

theorem exec_forms {op : Op} (hop : op.writesForms = false) (app : LdkServerApp) :
    (exec op app).1.state.forms = (exec op app).2.foldl formStep app.state.forms := by
  cases hq : op.quiet
  · by_cases hr : op = .refreshPayments
    · subst hr; exact armView_forms.trigger _ _ _
    · exact armView_forms.exec hq hr app
  · cases op <;> simp only [Op.quiet, Op.writesForms, Bool.true_eq_false, Bool.false_eq_true] at hq hop <;>
      simp only [exec, loadPastedConfig, saveConfig, saveConfigAs] <;> repeat' split
    all_goals rfl

theorem run_forms (ops : List Op) (app : LdkServerApp) (hops : ∀ op ∈ ops, op.writesForms = false) :
    (run ops app).1.state.forms = (run ops app).2.foldl formStep app.state.forms := by
  induction ops generalizing app with
  | nil => rfl
  | cons op ops ih =>
    rw [run_cons_fst, run_cons_snd, List.foldl_append,
      ih _ fun op' h => hops op' (List.mem_cons_of_mem _ h),
      exec_forms (hops op (List.mem_cons_self _ _))]

def sendFormFilled : LdkServerApp :=
  (LdkServerApp.new none).modifyState fun s =>
    { s with forms := { s.forms with onchainSend := { address := "bcrt1qexample", amountSats := "1000" } } }

def sendFailsRun : List Op :=
  [.editSettings "localhost:3002" "key" "", .connect .wasm32 (.ok []) (.ok ⟨0⟩), .trigger .onchainSend,
    .complete .onchainSend 0 (.error "insufficient funds"), .poll]

theorem run_forms_send_fails :
    (∀ op ∈ sendFailsRun, op.writesForms = false) ∧
      (run sendFailsRun sendFormFilled).1.state.forms =
        (run sendFailsRun sendFormFilled).2.foldl formStep sendFormFilled.state.forms :=
  ⟨by decide, run_forms sendFailsRun sendFormFilled (by decide)⟩

example : (run sendFailsRun sendFormFilled).1.state.forms.onchainSend =
    sendFormFilled.state.forms.onchainSend := by
  decide

end LdkServerGui
