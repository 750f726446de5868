import LdkServerGui.App
import Mathlib.Data.String.Basic

/-!
# The trigger methods

`trigger_cases`: a trigger leaves the app as it is, only sets an error status, or spawns into a
slot that was empty. Each trigger method's request builds exactly when `FormValid`, the form
checks as the spec words them, holds (`triggerOf_trigger`); so `triggerOf_spec` says which of the
three happens, and is the single-flight guard of every trigger.
-/

namespace LdkServerGui
namespace LdkServerApp

section Trigger
variable {k : TaskKey} {request : AppState → Except String (Request k)} {app : LdkServerApp}

theorem trigger_of_isSome (h : (app.state.tasks k).isSome) : trigger k request app = app := by
  simp [trigger, h]

theorem trigger_of_client_none (h : app.state.client = none) : trigger k request app = app := by
  unfold trigger; split_ifs <;> simp [h]

theorem trigger_of_ok {c : LdkServerClient} {r : Request k} (hk : app.state.tasks k = none)
    (hc : app.state.client = some c) (hr : request app.state = .ok r) :
    trigger k request app = app.spawnTask k c r := by
  simp [trigger, hk, hc, hr]

theorem trigger_of_error {c : LdkServerClient} {m : String} (hk : app.state.tasks k = none)
    (hc : app.state.client = some c) (hr : request app.state = .error m) :
    trigger k request app = app.setStatus (.error m) := by
  simp [trigger, hk, hc, hr]

/-- What a trigger can do: nothing, set an error status, or spawn the call into an empty slot
through the installed client. -/
theorem trigger_cases (k : TaskKey) (request : AppState → Except String (Request k))
    (app : LdkServerApp) :
    trigger k request app = app ∨ (∃ m, trigger k request app = app.setStatus (.error m)) ∨
      ∃ c r, app.state.tasks k = none ∧ app.state.client = some c ∧
        trigger k request app = app.spawnTask k c r := by
  cases hk : app.state.tasks k with
  | some _ => exact .inl (trigger_of_isSome (by simp [hk]))
  | none =>
    cases hc : app.state.client with
    | none => exact .inl (trigger_of_client_none hc)
    | some c =>
      cases hr : request app.state with
      | error m => exact .inr (.inl ⟨m, trigger_of_error hk hc hr⟩)
      | ok r => exact .inr (.inr ⟨c, r, rfl, rfl, trigger_of_ok hk hc hr⟩)

end Trigger

theorem triggerOf_eq_trigger (k : TaskKey) :
    ∃ request : AppState → Except String (Request k), triggerOf k = trigger k request := by
  cases k <;> exact ⟨_, by unfold triggerOf; rfl⟩

theorem triggerOf_cases (k : TaskKey) (app : LdkServerApp) :
    triggerOf k app = app ∨ (∃ m, triggerOf k app = app.setStatus (.error m)) ∨
      ∃ c r, app.state.tasks k = none ∧ app.state.client = some c ∧
        triggerOf k app = app.spawnTask k c r := by
  obtain ⟨request, h⟩ := triggerOf_eq_trigger k
  rw [h]
  exact trigger_cases k request app

theorem exists_ite_eq_ok {α : Type} {c : Prop} [Decidable c] {m : String} {x : α} :
    (∃ r, (if c then .error m else .ok x : Except String α) = .ok r) ↔ ¬c := by
  by_cases h : c <;> simp [h]

end LdkServerApp

/-- The form checks of each trigger method as the spec words them: the required trimmed fields
are non-empty and the required amounts parse as `u64`. -/
def FormValid : TaskKey → AppState → Prop
  | .onchainSend, s => Rust.trim s.forms.onchainSend.address ≠ ""
  | .bolt11Send, s => Rust.trim s.forms.bolt11Send.invoice ≠ ""
  | .bolt12Receive, s => Rust.trim s.forms.bolt12Receive.description ≠ ""
  | .bolt12Send, s => Rust.trim s.forms.bolt12Send.offer ≠ ""
  | .openChannel, s =>
    (Rust.parseU64 (Rust.trim s.forms.openChannel.channelAmountSats)).isSome ∧
      Rust.trim s.forms.openChannel.nodePubkey ≠ "" ∧ Rust.trim s.forms.openChannel.address ≠ ""
  | .closeChannel, s | .forceCloseChannel, s =>
    Rust.trim s.forms.closeChannel.userChannelId ≠ "" ∧
      Rust.trim s.forms.closeChannel.counterpartyNodeId ≠ ""
  | .spliceIn, s =>
    (Rust.parseU64 (Rust.trim s.forms.spliceIn.spliceAmountSats)).isSome ∧
      Rust.trim s.forms.spliceIn.userChannelId ≠ "" ∧
      Rust.trim s.forms.spliceIn.counterpartyNodeId ≠ ""
  | .spliceOut, s =>
    (Rust.parseU64 (Rust.trim s.forms.spliceOut.spliceAmountSats)).isSome ∧
      Rust.trim s.forms.spliceOut.userChannelId ≠ "" ∧
      Rust.trim s.forms.spliceOut.counterpartyNodeId ≠ ""
  | .updateChannelConfig, s =>
    Rust.trim s.forms.updateChannelConfig.userChannelId ≠ "" ∧
      Rust.trim s.forms.updateChannelConfig.counterpartyNodeId ≠ ""
  | .connectPeer, s =>
    Rust.trim s.forms.connectPeer.nodePubkey ≠ "" ∧ Rust.trim s.forms.connectPeer.address ≠ ""
  | _, _ => True

open LdkServerApp

theorem triggerOf_trigger (k : TaskKey) :
    ∃ request : AppState → Except String (Request k), triggerOf k = trigger k request ∧
      ∀ s, (∃ r, request s = .ok r) ↔ FormValid k s := by
  cases k <;> refine ⟨_, by unfold triggerOf; rfl, fun s => ?_⟩ <;>
    simp [FormValid, String.isEmpty_iff, exists_ite_eq_ok, not_or]
  all_goals split <;> simp_all [exists_ite_eq_ok, not_or]

end LdkServerGui
