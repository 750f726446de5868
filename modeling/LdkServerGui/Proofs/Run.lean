import LdkServerGui.Step
import LdkServerGui.Proofs.Drain

/-!
# What each operation can do

The invariants over runs (`Reach`) are proved one operation at a time; this file says once what
the operations other than the triggers and the drain pass do. The config buttons and the form
and settings edits (`Op.quiet`) never touch the runtime nor `AppState.core`, the connection,
the cached responses and the slots (`exec_quiet`). `connect` either only reports an error or
ends in `connectWith` (`connect_cases`), which installs the client and runs three triggers, or
records the client's construction error.
-/

namespace LdkServerGui

/-- The part of the state written only by `connect`, `disconnect`, the triggers and the drain
pass: the connection, the cached responses and the slots. -/
structure Core where
  connectionStatus : ConnectionStatus
  client : Option LdkServerClient
  nodeInfo : Option GetNodeInfoResponse
  balances : Option GetBalancesResponse
  channels : Option ListChannelsResponse
  payments : Option ListPaymentsResponse
  tasks : AsyncTasks

def AppState.core (s : AppState) : Core :=
  ⟨s.connectionStatus, s.client, s.nodeInfo, s.balances, s.channels, s.payments, s.tasks⟩

/-- The operations that only edit the forms, the settings or the config file. -/
def Op.quiet : Op → Bool
  | .editForms _ | .editSettings .. | .loadConfigFile .. | .loadPastedConfig .. | .saveConfig ..
  | .saveConfigAs .. => true
  | _ => false

open LdkServerApp

theorem exec_quiet {op : Op} (h : op.quiet) (app : LdkServerApp) :
    (exec op app).1.rt = app.rt ∧ (exec op app).1.state.core = app.state.core ∧ (exec op app).2 = [] := by
  cases op <;> simp only [Op.quiet, Bool.false_eq_true] at h <;>
    simp only [exec, loadConfigFile, loadPastedConfig, saveConfig, saveConfigAs] <;>
    repeat' split
  all_goals exact ⟨rfl, rfl, by trivial⟩

theorem Reach.run {ok : AppState → Op → Prop} {app : LdkServerApp} {tr : List Event}
    (h : Reach ok app tr) (ops : List Op) (hok : ∀ app, ∀ op ∈ ops, ok app op) :
    Reach ok (LdkServerGui.run ops app).1 (tr ++ (LdkServerGui.run ops app).2) := by
  induction ops generalizing app tr with
  | nil => simpa [LdkServerGui.run] using h
  | cons op ops ih =>
    have := ih (h.step op (hok _ op (List.mem_cons_self _ _))) fun a o ho =>
      hok a o (List.mem_cons_of_mem _ ho)
    simpa [LdkServerGui.run] using this

/-- Each operation of `ops`, performed from `app` on, is allowed by `ok` in the state it meets. -/
def Allowed (ok : AppState → Op → Prop) : List Op → LdkServerApp → Prop
  | [], _ => True
  | op :: ops, app => ok app.state op ∧ Allowed ok ops (exec op app).1

theorem Reach.runAllowed {ok : AppState → Op → Prop} {app : LdkServerApp} {tr : List Event}
    (h : Reach ok app tr) (ops : List Op) (hok : Allowed ok ops app) :
    Reach ok (LdkServerGui.run ops app).1 (tr ++ (LdkServerGui.run ops app).2) := by
  induction ops generalizing app tr with
  | nil => simpa [LdkServerGui.run] using h
  | cons op ops ih => simpa [LdkServerGui.run] using ih (h.step op hok.1) hok.2

@[simp] theorem run_nil_fst (app : LdkServerApp) : (LdkServerGui.run [] app).1 = app := rfl

@[simp] theorem run_cons_fst (op : Op) (ops : List Op) (app : LdkServerApp) :
    (LdkServerGui.run (op :: ops) app).1 = (LdkServerGui.run ops (exec op app).1).1 := rfl

@[simp] theorem run_nil_snd (app : LdkServerApp) : (LdkServerGui.run [] app).2 = [] := rfl

@[simp] theorem run_cons_snd (op : Op) (ops : List Op) (app : LdkServerApp) :
    (LdkServerGui.run (op :: ops) app).2 =
      (exec op app).2 ++ (LdkServerGui.run ops (exec op app).1).2 := rfl

theorem exec_poll (app : LdkServerApp) :
    exec .poll app = ((pollTasks app).1, Polled.events (pollTasks app).2 ++ [.drained]) := rfl

theorem exec_trigger (k : TaskKey) (app : LdkServerApp) : exec (.trigger k) app = (triggerOf k app, []) :=
  rfl

theorem exec_complete (k : TaskKey) (i : Nat) (o : Outcome k) (app : LdkServerApp) :
    exec (.complete k i o) app = complete k i o app := rfl

theorem connect_cases (target : Target) (certRead : Except String (List UInt8))
    (newClient : Except String LdkServerClient) (app : LdkServerApp) :
    (∃ m, connect target certRead newClient app = app.setStatus (.error m)) ∨
      (∃ e, connect target certRead newClient app = app.modifyState fun s =>
        { s with connectionStatus := .error e, statusMessage := some (.error e) }) ∨
      ∃ c, connect target certRead newClient app =
        trigger .channels (fun _ => .ok {}) (trigger .balances (fun _ => .ok {})
          (trigger .nodeInfo (fun _ => .ok {}) (app.modifyState fun s =>
            { s with client := some c, connectionStatus := .connected,
                     statusMessage := some (.success "Connected") }))) := by
  have h : (∃ m, connect target certRead newClient app = app.setStatus (.error m)) ∨
      connect target certRead newClient app = connectWith newClient app := by
    unfold connect
    cases target <;> dsimp only <;> split_ifs <;> (try split) <;>
      first | exact .inr rfl | exact .inl ⟨_, rfl⟩
  rcases h with h | h
  · exact .inl h
  · rw [h]
    cases newClient with
    | error e => exact .inr (.inl ⟨e, rfl⟩)
    | ok c => exact .inr (.inr ⟨c, rfl⟩)

end LdkServerGui
