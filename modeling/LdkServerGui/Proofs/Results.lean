import LdkServerGui.Proofs.Handlers

/-!
# The results the panels show

The receive and send panels show what the last successful call of each kind returned: the
generated address, invoice and offer, and the ids of the last payment, transaction and channel
(`AppState.results`). Only the success arms of the seven calls that return one write them
(`resultStep`), and nothing clears them: neither a failure nor `disconnect`, unlike the four
cached responses. So over every run they are what the last such success delivered, whichever
connection it came from (`results_eq_lastResults`).
-/

namespace LdkServerGui
open LdkServerApp

/-- The results shown in the receive and send panels. -/
structure Results where
  onchainAddress : Option String
  generatedInvoice : Option String
  generatedOffer : Option String
  lastPaymentId : Option String
  lastTxid : Option String
  lastChannelId : Option String
deriving DecidableEq, Repr

def AppState.results (s : AppState) : Results :=
  ⟨s.onchainAddress, s.generatedInvoice, s.generatedOffer, s.lastPaymentId, s.lastTxid, s.lastChannelId⟩

/-- The results as an event of a run leaves them: the success of a call that returns one records
it; every other event, a disconnect included, keeps them. -/
def resultStep (r : Results) : Event → Results
  | .delivered ⟨.onchainReceive, _, .ok v⟩ => { r with onchainAddress := some v.address }
  | .delivered ⟨.onchainSend, _, .ok v⟩ => { r with lastTxid := some v.txid }
  | .delivered ⟨.bolt11Receive, _, .ok v⟩ => { r with generatedInvoice := some v.invoice }
  | .delivered ⟨.bolt11Send, _, .ok v⟩ => { r with lastPaymentId := some v.paymentId }
  | .delivered ⟨.bolt12Receive, _, .ok v⟩ => { r with generatedOffer := some v.offer }
  | .delivered ⟨.bolt12Send, _, .ok v⟩ => { r with lastPaymentId := some v.paymentId }
  | .delivered ⟨.openChannel, _, .ok v⟩ => { r with lastChannelId := some v.userChannelId }
  | _ => r

def lastResults (tr : List Event) : Results := tr.foldl resultStep ⟨none, none, none, none, none, none⟩

/-! ### One operation -/

theorem armView_results : ArmView AppState.results resultStep where
  arm k i o s := by cases o <;> cases k <;> rfl
  status _ _ _ := rfl
  connection _ _ _ _ := rfl
  disconnect _ := rfl
  published _ _ := rfl
  drained _ := rfl

theorem results_exec (op : Op) (app : LdkServerApp) :
    (exec op app).1.state.results = (exec op app).2.foldl resultStep app.state.results := by
  by_cases hr : op = .refreshPayments
  · subst hr; exact armView_results.trigger _ _ _
  cases hq : op.quiet
  · exact armView_results.exec hq hr app
  · cases op <;> simp only [Op.quiet, Bool.false_eq_true] at hq <;>
      simp only [exec, loadConfigFile, loadPastedConfig, saveConfig, saveConfigAs] <;> repeat' split
    all_goals rfl

/-! ### Over a run -/

theorem results_eq_lastResults {ok : AppState → Op → Prop} {app : LdkServerApp} {tr : List Event}
    (h : Reach ok app tr) : app.state.results = lastResults tr := by
  induction h with
  | init found => cases found <;> rfl
  | step op _ _ ih => rw [results_exec, ih, lastResults, lastResults, List.foldl_append]

def invoiceThenReconnect : List Op :=
  [.editSettings "localhost:3002" "key" "", .connect .wasm32 (.ok []) (.ok ⟨0⟩), .trigger .bolt11Receive,
    .complete .bolt11Receive 0 (.ok ⟨"lnbcrt1"⟩), .poll, .disconnect, .connect .wasm32 (.ok []) (.ok ⟨1⟩)]

theorem results_eq_lastResults_reconnect :
    Reach anyOp (run invoiceThenReconnect (.new none)).1 ([] ++ (run invoiceThenReconnect (.new none)).2) ∧
      (run invoiceThenReconnect (.new none)).1.state.results =
        lastResults ([] ++ (run invoiceThenReconnect (.new none)).2) :=
  have h := (Reach.init none).run invoiceThenReconnect fun _ _ _ => trivial
  ⟨h, results_eq_lastResults h⟩

example : (run invoiceThenReconnect (.new none)).1.state.generatedInvoice = some "lnbcrt1" := by
  decide

end LdkServerGui
