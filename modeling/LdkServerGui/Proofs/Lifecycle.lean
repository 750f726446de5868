import LdkServerGui.Proofs.Delivery
import LdkServerGui.Proofs.Requests

/-!
# The lifecycle of a slot

The spec's machine for one slot: `Empty --trigger--> Occupied --drain(incomplete)--> Occupied
--drain(complete)--> Empty`, and no other transition, in particular no cancellation. Every
operation moves slot `k` along it (`slot_lifecycle`): the slot keeps its handle, is emptied, or
receives the call just spawned for `k`; and an occupied slot loses its handle only to a drain
pass that delivers that call's outcome. Outside a drain pass a slot is left alone or an empty
one is filled (`FillOnly`, transitive, so it composes the three fetches of `connect`); within a
pass, `PassInv` bounds the refill to the one `list_channels` call.

A slot a drain pass has emptied takes a new request: its trigger spawns again, or reports its
form's error (`trigger_after_drain`); the single-flight guard is not latched. Counted in calls:
two triggers in a row spawn one call, two triggers around the call's completion and a drain
pass spawn two (`retrigger_calls`).
-/

namespace LdkServerGui
open LdkServerApp

/-! ### Outside a drain pass -/

/-- Slot `k` and the number of calls of `k` are unchanged, or the slot was empty and now holds the
call spawned next. -/
def FillOnly (k : TaskKey) (app app' : LdkServerApp) : Prop :=
  (app'.state.tasks k = app.state.tasks k ∧ (app'.rt.calls k).length = (app.rt.calls k).length) ∨
    (app.state.tasks k = none ∧ app'.state.tasks k = some ⟨(app.rt.calls k).length⟩)

namespace FillOnly
variable {k : TaskKey} {app app' app'' : LdkServerApp}

theorem refl (k : TaskKey) (app : LdkServerApp) : FillOnly k app app := .inl ⟨rfl, rfl⟩

theorem trans (h : FillOnly k app app') (h' : FillOnly k app' app'') : FillOnly k app app'' := by
  rcases h with ⟨h1, h2⟩ | ⟨h1, h2⟩ <;> rcases h' with ⟨h3, h4⟩ | ⟨h3, h4⟩
  · exact .inl ⟨h3.trans h1, h4.trans h2⟩
  · exact .inr ⟨h1 ▸ h3, h2 ▸ h4⟩
  · exact .inr ⟨h1, h3.trans h2⟩
  · simp [h2] at h3

theorem of_eq (ht : app'.state.tasks k = app.state.tasks k)
    (hl : (app'.rt.calls k).length = (app.rt.calls k).length) : FillOnly k app app' := .inl ⟨ht, hl⟩

theorem trigger (k' : TaskKey) (request : AppState → Except String (Request k')) (app : LdkServerApp) :
    FillOnly k app (LdkServerApp.trigger k' request app) := by
  rcases trigger_cases k' request app with h | ⟨m, h⟩ | ⟨c, r, hk, -, h⟩ <;> rw [h]
  · exact refl _ _
  · exact of_eq rfl rfl
  · by_cases hkk : k = k'
    · subst hkk; exact .inr ⟨hk, by simp⟩
    · exact of_eq (by simp [hkk]) (by simp [hkk])

theorem trigger_right (h : FillOnly k app app') (k' : TaskKey)
    (request : AppState → Except String (Request k')) :
    FillOnly k app (LdkServerApp.trigger k' request app') :=
  h.trans (.trigger k' request app')

theorem occupied (h : FillOnly k app app') {t : ChannelTaskHandle} (ht : app.state.tasks k = some t) :
    app'.state.tasks k = some t := by
  rcases h with ⟨h1, -⟩ | ⟨h1, -⟩
  · rw [h1, ht]
  · simp [ht] at h1

end FillOnly

theorem fillOnly_exec {op : Op} (hop : op ≠ .poll) (app : LdkServerApp) (k : TaskKey) :
    FillOnly k app (exec op app).1 := by
  cases hq : op.quiet
  · cases op <;> simp only [Op.quiet, Bool.true_eq_false] at hq
    case trigger k' =>
      obtain ⟨r, hr⟩ := triggerOf_eq_trigger k'
      simp only [exec, hr]
      exact .trigger k' r app
    case connect target certRead newClient =>
      rcases connect_cases target certRead newClient app with ⟨m, hc⟩ | ⟨e, hc⟩ | ⟨c, hc⟩ <;>
        simp only [exec, hc]
      · exact .of_eq rfl rfl
      · exact .of_eq rfl rfl
      · apply FillOnly.trigger_right; apply FillOnly.trigger_right; apply FillOnly.trigger_right
        exact .of_eq rfl rfl
    case disconnect => exact .of_eq rfl rfl
    case poll => exact absurd rfl hop
    case complete k' i o =>
      simp only [exec, LdkServerApp.complete]
      split
      · exact .of_eq rfl (Runtime.length_calls_modifyCell _ _ _ _ _)
      · exact .refl _ _
    case refreshPayments =>
      simp only [exec, fetchPayments]
      apply FillOnly.trigger_right
      exact .of_eq rfl rfl
  · obtain ⟨hrt, hcore, -⟩ := exec_quiet hq app
    exact .of_eq (congrFun (congrArg Core.tasks hcore) k) (by rw [hrt])

/-! ### A drain pass -/

/-- In a pass, slot `k` keeps its handle, is emptied, or receives the one call spawned in the
pass. -/
theorem pollAll_slot (k : TaskKey) (app0 : LdkServerApp) :
    ∀ (ks : List TaskKey) (app : LdkServerApp), PassInv app0 app →
      (app.state.tasks k = app0.state.tasks k ∨ app.state.tasks k = none ∨
        app.state.tasks k = some ⟨(app0.rt.calls k).length⟩) →
      ((pollAll ks app).1.state.tasks k = app0.state.tasks k ∨ (pollAll ks app).1.state.tasks k = none ∨
        (pollAll ks app).1.state.tasks k = some ⟨(app0.rt.calls k).length⟩)
  | [], _, _, hs => hs
  | k' :: ks, app, hp, hs => by
    rw [pollAll_cons_fst]
    refine pollAll_slot k app0 ks _ (hp.pollTask k') ?_
    rcases pollTask_slot k k' app with h | h | h
    · rwa [h]
    · exact .inr (.inl h)
    · refine .inr (.inr (h.trans ?_))
      by_cases hkc : k = .channels
      · subst hkc
        rcases hp.2 with hl | ⟨hl, -⟩
        · rw [hl]
        · rcases (hp.pollTask k').2 with hl' | ⟨-, hl', -⟩
          · have := length_calls_pollTask .channels k' app; omega
          · rw [h, Option.some_inj, ChannelTaskHandle.mk.injEq] at hl'; omega
      · rw [hp.1 k hkc]

theorem pollTasks_delivers_of_lost {app : LdkServerApp} {k : TaskKey} {t : ChannelTaskHandle}
    (ht : app.state.tasks k = some t) (hl : (pollTasks app).1.state.tasks k ≠ some t) :
    ∃ o, Polled.delivered ⟨k, t.rx, o⟩ ∈ (pollTasks app).2 := by
  rcases hc : app.rt.cell k t.rx with _ | (_ | o | _)
  case some.published =>
    exact ⟨o, (pollAll_drains_published TaskKey.nodup_all (TaskKey.mem_all k) ht hc).1⟩
  all_goals exact absurd (pollAll_keeps_pending ht (by simp [hc])) hl

theorem slot_lifecycle (op : Op) (app : LdkServerApp) (k : TaskKey) :
    ((exec op app).1.state.tasks k = app.state.tasks k ∨ (exec op app).1.state.tasks k = none ∨
      (exec op app).1.state.tasks k = some ⟨(app.rt.calls k).length⟩) ∧
    ∀ t, app.state.tasks k = some t → (exec op app).1.state.tasks k ≠ some t →
      ∃ o, Event.delivered ⟨k, t.rx, o⟩ ∈ (exec op app).2 := by
  by_cases hop : op = .poll
  · subst hop
    rw [exec_poll]
    refine ⟨pollAll_slot k app _ app (.refl app) (.inl rfl), fun t ht hl => ?_⟩
    obtain ⟨o, ho⟩ := pollTasks_delivers_of_lost ht hl
    exact ⟨o, List.mem_append_left _ (Polled.mem_events_of_mem ho)⟩
  · have h := fillOnly_exec hop app k
    refine ⟨?_, fun t ht hl => absurd (h.occupied ht) hl⟩
    rcases h with ⟨h, -⟩ | ⟨-, h⟩
    · exact .inl h
    · exact .inr (.inr h)

/-! ### A drained slot takes a new request -/

theorem triggerOf_of_isSome {k : TaskKey} {app : LdkServerApp} (h : (app.state.tasks k).isSome) :
    triggerOf k app = app := by
  obtain ⟨request, hr⟩ := triggerOf_eq_trigger k
  rw [hr, trigger_of_isSome h]

theorem triggerOf_spawns {k : TaskKey} {app : LdkServerApp} {c : LdkServerClient}
    (ht : app.state.tasks k = none) (hc : app.state.client = some c) (hv : FormValid k app.state) :
    ∃ r, triggerOf k app = app.spawnTask k c r := by
  obtain ⟨request, h, hP⟩ := triggerOf_trigger k
  obtain ⟨r, hr⟩ := (hP app.state).2 hv
  rw [h]
  exact ⟨r, trigger_of_ok ht hc hr⟩

theorem pollTasks_complete {k : TaskKey} {app : LdkServerApp} {i : Nat} (o : Outcome k)
    (hk : k ≠ .channels) (ht : app.state.tasks k = some ⟨i⟩)
    (hrun : app.rt.cell k i = some .running) :
    (pollTasks (complete k i o app).1).1.state.tasks k = none ∧
      ((pollTasks (complete k i o app).1).1.rt.calls k).length = (app.rt.calls k).length ∧
      (pollTasks (complete k i o app).1).1.state.client = app.state.client := by
  have h2 : (complete k i o app).1 = { app with rt := app.rt.publish k i o } := by
    simp only [complete, hrun]
  have hpub : (app.rt.publish k i o).cell k i = some (.published o) := by
    simp only [Runtime.publish, Runtime.cell_modifyCell_self, hrun]; rfl
  rw [h2]
  refine ⟨(@pollAll_drains_published k TaskKey.all { app with rt := app.rt.publish k i o } ⟨i⟩ o
    TaskKey.nodup_all (TaskKey.mem_all k) ht hpub).2.2 hk, ?_, pollAll_client⟩
  rw [pollTasks, ((PassInv.refl _).pollAll TaskKey.all).1 k hk]
  exact Runtime.length_calls_modifyCell _ _ _ _ _

/-- From an empty slot `k` with a client installed and a valid form: two triggers in a row spawn
one call; a trigger, the call finishing, a drain pass and a second trigger spawn two. -/
theorem retrigger_calls (app : LdkServerApp) (k : TaskKey) (o : Outcome k) (c : LdkServerClient)
    (hk : k ≠ .channels) (ht : app.state.tasks k = none) (hc : app.state.client = some c)
    (hv : FormValid k app.state)
    (hv' : FormValid k (run [.trigger k, .complete k (app.rt.calls k).length o, .poll] app).1.state) :
    ((run [.trigger k, .trigger k] app).1.rt.calls k).length = (app.rt.calls k).length + 1 ∧
      ((run [.trigger k, .complete k (app.rt.calls k).length o, .poll, .trigger k] app).1.rt.calls
        k).length = (app.rt.calls k).length + 2 := by
  obtain ⟨r, h1⟩ := triggerOf_spawns ht hc hv
  have hslot : (app.spawnTask k c r).state.tasks k = some ⟨(app.rt.calls k).length⟩ := by simp
  have hlen : ((app.spawnTask k c r).rt.calls k).length = (app.rt.calls k).length + 1 := by simp
  simp only [run_cons_fst, run_nil_fst, exec_trigger, exec_complete, exec_poll] at hv' ⊢
  rw [h1] at hv' ⊢
  refine ⟨by rw [triggerOf_of_isSome (by simp [hslot])]; exact hlen, ?_⟩
  have hrun : (app.spawnTask k c r).rt.cell k (app.rt.calls k).length = some .running := by
    simp [Runtime.cell_spawn_self]
  obtain ⟨hnone, hlen2, hc2⟩ := pollTasks_complete o hk hslot hrun
  obtain ⟨r', h4⟩ := triggerOf_spawns hnone (hc2.trans hc) hv'
  rw [h4, spawnTask_rt, Runtime.calls_spawn_self, List.length_append, hlen2, hlen]
  rfl

def connectedIdle : LdkServerApp := ⟨{ AppState.default with client := some ⟨0⟩ }, .empty⟩

theorem retrigger_calls_balances :
    (TaskKey.balances ≠ .channels ∧ connectedIdle.state.tasks .balances = none ∧
      connectedIdle.state.client = some ⟨0⟩ ∧ FormValid .balances connectedIdle.state ∧
      FormValid .balances (run [.trigger .balances, .complete .balances 0 (.ok ⟨[]⟩), .poll]
        connectedIdle).1.state) ∧
    ((run [.trigger .balances, .trigger .balances] connectedIdle).1.rt.calls .balances).length = 1 ∧
      ((run [.trigger .balances, .complete .balances 0 (.ok ⟨[]⟩), .poll, .trigger .balances]
        connectedIdle).1.rt.calls .balances).length = 2 :=
  ⟨⟨by decide, rfl, rfl, trivial, trivial⟩,
    retrigger_calls connectedIdle .balances (.ok ⟨[]⟩) ⟨0⟩ (by decide) rfl rfl trivial trivial⟩

end LdkServerGui
