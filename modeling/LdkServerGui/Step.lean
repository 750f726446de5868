import LdkServerGui.Poll

/-!
# Runs of the app

`Op` lists what can happen to the app: a user action (the seventeen triggers, connect,
disconnect, editing the forms or the connection settings, the payments Refresh button, the config
buttons), one drain pass
(`poll_tasks`), or a spawned call finishing (`complete`, enabled while the call is running).
`exec` performs one and reports what it did (`Event`): a call publishing its outcome, an outcome
delivered to a handler, the end of a drain pass, a disconnect. `Reach ok` holds of every state
reachable from `LdkServerApp.new` by the operations `ok` allows, with the events so far.
-/

namespace LdkServerGui

/-- What can happen to the app. -/
inductive Op where
  | trigger (k : TaskKey)
  | connect (target : Target) (certRead : Except String (List UInt8))
      (newClient : Except String LdkServerClient)
  | disconnect
  | poll
  | complete (k : TaskKey) (i : Nat) (o : Outcome k)
  | editForms (forms : Forms)
  | editSettings (serverUrl apiKey tlsCertPath : String)
  | refreshPayments
  | loadConfigFile (path : String) (readFile : ReadFile)
      (contents : Except String (Except String TomlValue))
  | loadPastedConfig (readFile : ReadFile) (parsed : Except String TomlValue)
  | saveConfig (contents : Except String (Except String TomlValue))
      (writeBack : TomlValue → Except String Unit)
  | saveConfigAs (path : String) (contents : Except String (Except String TomlValue))
      (writeBack : TomlValue → Except String Unit)

/-- What an operation did, as far as the outcomes are concerned. -/
inductive Event where
  | published (d : Delivery)
  | delivered (d : Delivery)
  | drained
  | disconnected

def Polled.events : List Polled → List Event
  | [] => []
  | .delivered d :: ps => .delivered d :: Polled.events ps
  | _ :: ps => Polled.events ps

namespace LdkServerApp

/-- Call `i` of `k` finishes with `o`, if it is running. -/
def complete (k : TaskKey) (i : Nat) (o : Outcome k) (app : LdkServerApp) : LdkServerApp × List Event :=
  match app.rt.cell k i with
  | some .running => ({ app with rt := app.rt.publish k i o }, [.published ⟨k, i, o⟩])
  | _ => (app, [])

end LdkServerApp

open LdkServerApp in
def exec : Op → LdkServerApp → LdkServerApp × List Event
  | .trigger k, app => (triggerOf k app, [])
  | .connect target certRead newClient, app => (connect target certRead newClient app, [])
  | .disconnect, app => (disconnect app, [.disconnected])
  | .poll, app => let p := pollTasks app; (p.1, Polled.events p.2 ++ [.drained])
  | .complete k i o, app => complete k i o app
  | .editForms forms, app => (app.modifyState fun s => { s with forms }, [])
  | .editSettings serverUrl apiKey tlsCertPath, app =>
    (app.modifyState fun s => { s with serverUrl, apiKey, tlsCertPath }, [])
  | .refreshPayments, app =>
    (fetchPayments (app.modifyState fun s => { s with paymentsPageToken := none }), [])
  | .loadConfigFile path readFile contents, app =>
    (loadConfigFile path (LdkServerGui.loadConfig readFile contents) app, [])
  | .loadPastedConfig readFile parsed, app =>
    (loadPastedConfig (parseConfigFromStr readFile parsed) app, [])
  | .saveConfig contents writeBack, app =>
    (saveConfig (saveChainSource contents writeBack) app, [])
  | .saveConfigAs path contents writeBack, app =>
    (saveConfigAs path (saveChainSource contents writeBack) app, [])

def run : List Op → LdkServerApp → LdkServerApp × List Event
  | [], app => (app, [])
  | op :: ops, app =>
    let (app, es) := exec op app
    let (app, es') := run ops app
    (app, es ++ es')

/-- The runs of the app from its start, by the operations `ok` allows: the state reached and
the events so far. -/
inductive Reach (ok : AppState → Op → Prop) : LdkServerApp → List Event → Prop where
  | init (found : Option GuiConfig) : Reach ok (.new found) []
  | step {app : LdkServerApp} {tr : List Event} (op : Op) :
      Reach ok app tr → ok app.state op → Reach ok (exec op app).1 (tr ++ (exec op app).2)

def anyOp : AppState → Op → Prop := fun _ _ => True

end LdkServerGui
