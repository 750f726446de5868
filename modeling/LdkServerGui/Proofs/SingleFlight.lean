import LdkServerGui.Proofs.Run

/-!
# Single flight

`SlotInv app k`: slot `k` holds the handle of a call of `k` exactly when that call's outcome has
not been taken. It holds at the start and every operation keeps it: a trigger spawns only into
an empty slot, `poll_task!` clears a slot in the same step as it takes the outcome, a call's
completion only publishes. Counting the calls whose outcome has not been taken
(`countP_eq_of_getElem?`) turns it into the single-flight invariant: at most one such call per
key, and one exactly when the slot is occupied.
-/

namespace LdkServerGui
open LdkServerApp

/-- Slot `k` holds the handle of call `i` of `k` exactly when that call's outcome has not been
taken. -/
def SlotInv (app : LdkServerApp) (k : TaskKey) : Prop :=
  ∀ i, (∃ c, app.rt.cell k i = some c ∧ c.isTaken = false) ↔ app.state.tasks k = some ⟨i⟩

namespace SlotInv
variable {app app' : LdkServerApp} {k : TaskKey}

theorem congr (h : SlotInv app k) (ht : app'.state.tasks k = app.state.tasks k)
    (hc : app'.rt.calls k = app.rt.calls k) : SlotInv app' k := fun i => by
  simpa only [SlotInv, Runtime.cell, ht, hc] using h i

theorem spawnTask (h : SlotInv app k) (hk : app.state.tasks k = none) (c : LdkServerClient)
    (r : Request k) : SlotInv (app.spawnTask k c r) k := fun i => by
  simp only [spawnTask_rt, spawnTask_state, AsyncTasks.set_same, Runtime.cell_spawn_self]
  split_ifs with hi
  · subst hi; simp [Cell.isTaken]
  · rw [h i, hk]; simp [Ne.symm hi]

theorem trigger (h : SlotInv app k) (k' : TaskKey) (request : AppState → Except String (Request k')) :
    SlotInv (LdkServerApp.trigger k' request app) k := by
  rcases trigger_cases k' request app with h1 | ⟨m, h1⟩ | ⟨c, r, hk, -, h1⟩ <;> rw [h1]
  · exact h
  · exact h.congr rfl rfl
  · by_cases hkk : k = k'
    · subst hkk; exact h.spawnTask hk c r
    · exact h.congr (by simp [hkk]) (by simp [hkk])

theorem triggerOf (h : SlotInv app k) (k' : TaskKey) : SlotInv (LdkServerApp.triggerOf k' app) k := by
  obtain ⟨r, hr⟩ := triggerOf_eq_trigger k'
  rw [hr]; exact h.trigger k' r

theorem take {t : ChannelTaskHandle} (h : SlotInv app k) (ht : app.state.tasks k = some t) :
    SlotInv (app.take k t.rx) k := fun i => by
  simp only [take_rt, take_state, AsyncTasks.set_same, Runtime.cell_modifyCell_self]
  split_ifs with hi
  · cases app.rt.cell k i <;> simp [Cell.isTaken]
  · rw [h i, ht]; simp only [reduceCtorEq, iff_false, Option.some.injEq]; rintro rfl; exact hi rfl

theorem handleOutcome (h : SlotInv app k) (k' : TaskKey) (o : Outcome k') :
    SlotInv (LdkServerApp.handleOutcome k' o app) k := by
  have hm : SlotInv (app.modifyState (outcomeState k' o)) k := h.congr (by simp) rfl
  rw [handleOutcome_eq]
  split
  · exact hm.trigger _ _
  · exact hm

theorem pollTask (h : SlotInv app k) (k' : TaskKey) : SlotInv (LdkServerApp.pollTask k' app).1 k := by
  rcases pollTask_cases k' app with ⟨-, hp⟩ | ⟨-, -, -, hp⟩ | ⟨t, o, ht, -, hp⟩ <;> rw [hp]
  · exact h
  · exact h
  · refine SlotInv.handleOutcome ?_ _ _
    by_cases hk : k = k'
    · subst hk; exact h.take ht
    · exact h.congr (by simp [hk]) (by simp [hk])

theorem pollAll (h : SlotInv app k) (ks : List TaskKey) : SlotInv (LdkServerApp.pollAll ks app).1 k := by
  induction ks generalizing app with
  | nil => exact h
  | cons k' ks ih => exact ih (h.pollTask k')

theorem complete (h : SlotInv app k) (k' : TaskKey) (i : Nat) (o : Outcome k') :
    SlotInv (LdkServerApp.complete k' i o app).1 k := by
  unfold LdkServerApp.complete
  split
  · by_cases hk : k = k'
    · subst hk
      intro j
      simp only [Runtime.publish, Runtime.cell_modifyCell_self]
      split_ifs
      · rw [← h j]; cases app.rt.cell k j <;> simp [Cell.isTaken_publish]
      · exact h j
    · exact h.congr rfl (by simp [Runtime.publish, hk])
  · exact h

theorem exec (h : SlotInv app k) (op : Op) : SlotInv (LdkServerGui.exec op app).1 k := by
  cases hq : op.quiet
  · cases op <;> simp only [Op.quiet, Bool.true_eq_false] at hq
    case trigger k' => exact h.triggerOf k'
    case connect target certRead newClient =>
      rcases connect_cases target certRead newClient app with ⟨m, hc⟩ | ⟨e, hc⟩ | ⟨c, hc⟩ <;>
        simp only [LdkServerGui.exec, hc]
      · exact h.congr rfl rfl
      · exact h.congr rfl rfl
      · apply SlotInv.trigger; apply SlotInv.trigger; apply SlotInv.trigger
        exact h.congr rfl rfl
    case disconnect => exact h.congr rfl rfl
    case poll => rw [exec_poll]; exact h.pollAll TaskKey.all
    case complete k' i o => exact h.complete k' i o
    case refreshPayments =>
      simp only [LdkServerGui.exec, fetchPayments]
      apply SlotInv.trigger
      exact h.congr rfl rfl
  · have := exec_quiet hq app
    exact h.congr (congrFun (congrArg Core.tasks this.2.1) k :) (by rw [this.1])

end SlotInv

theorem slotInv_new (found : Option GuiConfig) (k : TaskKey) : SlotInv (.new found) k := by
  have ht : (LdkServerApp.new found).state.tasks k = none := by cases found <;> rfl
  have hc : (LdkServerApp.new found).rt.calls k = [] := by cases found <;> rfl
  intro i
  simp [Runtime.cell, ht, hc]

theorem slotInv_of_reach {ok : AppState → Op → Prop} {app : LdkServerApp} {tr : List Event}
    (h : Reach ok app tr) (k : TaskKey) : SlotInv app k := by
  induction h with
  | init found => exact slotInv_new found k
  | step op _ _ ih => exact ih.exec op

theorem countP_eq_of_getElem? {β : Type} {p : β → Bool} :
    ∀ {l : List β} {o : Option Nat}, (∀ i, (∃ c, l[i]? = some c ∧ p c) ↔ o = some i) →
      l.countP p = if o.isSome then 1 else 0
  | [], o, h => by
    cases o with
    | none => rfl
    | some i => simpa using (h i).2 rfl
  | a :: l, o, h => by
    have h0 : p a ↔ o = some 0 := by simpa using h 0
    have hs : ∀ i, (∃ c, l[i]? = some c ∧ p c) ↔ o = some (i + 1) := fun i => by simpa using h (i + 1)
    rcases o with _ | _ | j
    · rw [List.countP_cons, countP_eq_of_getElem? (o := none) (by simpa using hs)]; simp [h0]
    · rw [List.countP_cons, countP_eq_of_getElem? (o := none) (by simpa using hs)]; simp [h0]
    · rw [List.countP_cons, countP_eq_of_getElem? (o := some j) (by simpa using hs)]; simp [h0]

/-- `SlotInv` counted: the calls of `k` whose outcome has not been taken number one when the slot
is occupied and none otherwise. -/
theorem SlotInv.countP_eq {app : LdkServerApp} {k : TaskKey} (h : SlotInv app k) :
    (app.rt.calls k).countP (fun c => !c.cell.isTaken) = if (app.state.tasks k).isSome then 1 else 0 := by
  rw [countP_eq_of_getElem? (o := (app.state.tasks k).map (·.rx))]
  · cases app.state.tasks k <;> rfl
  · intro i
    have : (app.state.tasks k).map (·.rx) = some i ↔ app.state.tasks k = some ⟨i⟩ := by
      rcases app.state.tasks k with _ | ⟨⟨j⟩⟩ <;> simp
    rw [this, ← h i]
    simp [Runtime.cell]

theorem single_flight {app : LdkServerApp} {tr : List Event} (h : Reach anyOp app tr) (k : TaskKey) :
    (app.rt.calls k).countP (fun c => !c.cell.isTaken) ≤ 1 ∧
      ((app.rt.calls k).countP (fun c => !c.cell.isTaken) = 1 ↔ (app.state.tasks k).isSome) ∧
      ∀ t, app.state.tasks k = some t → ∃ c, app.rt.cell k t.rx = some c ∧ c.isTaken = false := by
  have hi := slotInv_of_reach h k
  rw [hi.countP_eq]
  refine ⟨by split <;> omega, by split <;> simp_all, fun t ht => (hi t.rx).2 (by rw [ht])⟩

def retriggerAndDrain : List Op :=
  [.editSettings "localhost:3002" "key" "", .connect .wasm32 (.ok []) (.ok ⟨0⟩), .trigger .nodeInfo,
    .complete .nodeInfo 0 (.ok ⟨[]⟩), .poll, .poll]

theorem single_flight_after_retrigger :
    Reach anyOp (run retriggerAndDrain (.new none)).1 ([] ++ (run retriggerAndDrain (.new none)).2) ∧
    (((run retriggerAndDrain (.new none)).1.rt.calls .nodeInfo).countP (fun c => !c.cell.isTaken) ≤ 1 ∧
      (((run retriggerAndDrain (.new none)).1.rt.calls .nodeInfo).countP (fun c => !c.cell.isTaken) = 1 ↔
        ((run retriggerAndDrain (.new none)).1.state.tasks .nodeInfo).isSome) ∧
      ∀ t, (run retriggerAndDrain (.new none)).1.state.tasks .nodeInfo = some t →
        ∃ c, (run retriggerAndDrain (.new none)).1.rt.cell .nodeInfo t.rx = some c ∧
          c.isTaken = false) :=
  have h := (Reach.init none).run retriggerAndDrain fun _ _ _ => trivial
  ⟨h, single_flight h .nodeInfo⟩

end LdkServerGui
