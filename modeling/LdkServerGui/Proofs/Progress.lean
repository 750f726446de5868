import LdkServerGui.Proofs.SingleFlight

/-!
# The polling loop comes to rest

`App::update` asks for a repaint while a slot is occupied, so the app keeps polling until every
call it made has been delivered. Once the server has answered every call in flight
(`Answered`), two drain passes empty every slot (`drain_two_passes`). The first delivers every
answer and leaves every slot but the channels slot empty (`pollTasks_answered`); the channels slot
may hold the `list_channels` call that a channel operation's success spawns. Once the server has
answered that call too (`answerChannels`), the second pass delivers it and spawns nothing
(`pollAll_quiet`), and `update` requests no repaint. One pass is not always enough: the
refetch is still in flight after it.
-/

namespace LdkServerGui
open LdkServerApp

/-! ### Answered states -/

/-- Every occupied slot's call has published its outcome: the server has answered every call
in flight. -/
def Answered (app : LdkServerApp) : Prop :=
  ∀ k t, app.state.tasks k = some t → ∃ o, app.rt.cell k t.rx = some (.published o)

def slotAnswered (app : LdkServerApp) (k : TaskKey) : Bool :=
  match app.state.tasks k with
  | none => true
  | some t =>
    match app.rt.cell k t.rx with
    | some (.published _) => true
    | _ => false

theorem slotAnswered_iff (app : LdkServerApp) (k : TaskKey) :
    slotAnswered app k = true ↔
      ∀ t, app.state.tasks k = some t → ∃ o, app.rt.cell k t.rx = some (.published o) := by
  unfold slotAnswered
  split
  · simp_all
  · split <;> simp_all

instance (app : LdkServerApp) : Decidable (Answered app) :=
  decidable_of_iff (TaskKey.all.all (slotAnswered app) = true) <| by
    simp only [List.all_eq_true, slotAnswered_iff, Answered]
    exact ⟨fun h k => h k (TaskKey.mem_all k), fun h k _ => h k⟩

/-! ### The first pass -/

theorem pollTask_keeps_empty {k : TaskKey} {app : LdkServerApp} (hk : k ≠ .channels)
    (h : app.state.tasks k = none) (k' : TaskKey) : (pollTask k' app).1.state.tasks k = none := by
  by_cases hkk : k = k'
  · subst hkk
    rcases pollTask_cases k app with ⟨-, hp⟩ | ⟨t, ht, -⟩ | ⟨t, o, ht, -⟩
    · rw [hp]; exact h
    · simp [h] at ht
    · simp [h] at ht
  · rw [(pollTask_frame hkk (.inl hk)).1, h]

theorem pollAll_keeps_empty {k : TaskKey} (hk : k ≠ .channels) (ks : List TaskKey) {app : LdkServerApp}
    (h : app.state.tasks k = none) : (pollAll ks app).1.state.tasks k = none := by
  induction ks generalizing app with
  | nil => exact h
  | cons k' ks ih => exact ih (pollTask_keeps_empty hk h k')

theorem pollTasks_answered {app : LdkServerApp} (ha : Answered app) {k : TaskKey}
    (hk : k ≠ .channels) : (pollTasks app).1.state.tasks k = none := by
  rw [pollTasks]
  cases ht : app.state.tasks k with
  | none => exact pollAll_keeps_empty hk _ ht
  | some t =>
    obtain ⟨o, hc⟩ := ha k t ht
    exact (pollAll_drains_published TaskKey.nodup_all (TaskKey.mem_all k) ht hc).2.2 hk

/-! ### The server answers the refetch -/

/-- The server answers the call in the channels slot, if there is one, with `o`. -/
def answerChannels (o : Outcome .channels) (app : LdkServerApp) : LdkServerApp :=
  match app.state.tasks .channels with
  | some t => (complete .channels t.rx o app).1
  | none => app

@[simp] theorem complete_state (k : TaskKey) (i : Nat) (o : Outcome k) (app : LdkServerApp) :
    (complete k i o app).1.state = app.state := by
  unfold complete; split <;> rfl

@[simp] theorem answerChannels_state (o : Outcome .channels) (app : LdkServerApp) :
    (answerChannels o app).state = app.state := by
  unfold answerChannels; split <;> simp

theorem complete_published {k : TaskKey} {i : Nat} {app : LdkServerApp} {c : Cell (Outcome k)}
    (hc : app.rt.cell k i = some c) (hn : c.isTaken = false) (o : Outcome k) :
    ∃ o', (complete k i o app).1.rt.cell k i = some (.published o') := by
  unfold complete
  cases c with
  | running => rw [hc]; exact ⟨o, by simp [Runtime.publish, Runtime.cell_modifyCell_self, hc, Cell.publish]⟩
  | published o' => rw [hc]; exact ⟨o', hc⟩
  | taken => cases hn

theorem answered_answerChannels {app : LdkServerApp} (hs : SlotInv app .channels)
    (hk : ∀ k, k ≠ .channels → app.state.tasks k = none) (o : Outcome .channels) :
    Answered (answerChannels o app) := by
  intro k t ht
  rw [answerChannels_state] at ht
  by_cases hkc : k = .channels
  · subst hkc
    obtain ⟨c, hc, hn⟩ := (hs t.rx).2 ht
    simp only [answerChannels, ht]
    exact complete_published hc hn o
  · simp [hk k hkc] at ht

/-! ### The second pass -/

theorem refetches_of_mutatesChannels {k : TaskKey} (hk : k.mutatesChannels = false) (o : Outcome k) :
    refetches k o = false := by
  cases o <;> simp [refetches, hk]

theorem pollTask_settles {k' : TaskKey} {ks : List TaskKey} {app : LdkServerApp}
    (ha : Answered app) (hm : ∀ k, k.mutatesChannels → app.state.tasks k = none)
    (hout : ∀ k ∉ k' :: ks, app.state.tasks k = none) :
    (Answered (pollTask k' app).1 ∧ (∀ k, k.mutatesChannels → (pollTask k' app).1.state.tasks k = none) ∧
      ∀ k ∉ ks, (pollTask k' app).1.state.tasks k = none) ∧ (pollTask k' app).2 ≠ .pending := by
  rcases pollTask_cases k' app with ⟨h0, hp⟩ | ⟨t, ht, hc, -⟩ | ⟨t, o, ht, -, hp⟩
  · rw [hp]
    refine ⟨⟨ha, hm, fun k hk => ?_⟩, nofun⟩
    by_cases hkk : k = k'
    · subst hkk; exact h0
    · exact hout k (by simp [hkk, hk])
  · obtain ⟨o, ho⟩ := ha k' t ht
    exact absurd ho (hc o)
  · have hr : refetches k' o = false := by
      cases hmk : k'.mutatesChannels
      · exact refetches_of_mutatesChannels hmk o
      · simp [hm k' hmk] at ht
    have hf := fun k => @handleOutcome_frame k k' (app.take k' t.rx) o fun h => by simp [hr] at h
    have htasks : ∀ k, k ≠ k' → (pollTask k' app).1.state.tasks k = app.state.tasks k := fun k hkk => by
      rw [hp, (hf k).1]; simp [hkk]
    have hself : (pollTask k' app).1.state.tasks k' = none := by rw [hp, (hf k').1]; simp
    refine ⟨⟨fun k t' ht' => ?_, fun k hk => ?_, fun k hk => ?_⟩, by rw [hp]; nofun⟩
    · by_cases hkk : k = k'
      · subst hkk; simp [hself] at ht'
      · rw [htasks k hkk] at ht'
        rw [hp, Runtime.cell, (hf k).2, take_rt, Runtime.calls_modifyCell_of_ne _ _ _ hkk]
        exact ha k t' ht'
    · by_cases hkk : k = k'
      · subst hkk; exact hself
      · rw [htasks k hkk]; exact hm k hk
    · by_cases hkk : k = k'
      · subst hkk; exact hself
      · rw [htasks k hkk]; exact hout k (by simp [hkk, hk])

theorem pollAll_quiet {ks : List TaskKey} {app : LdkServerApp} (ha : Answered app)
    (hm : ∀ k, k.mutatesChannels → app.state.tasks k = none) (hout : ∀ k ∉ ks, app.state.tasks k = none) :
    (∀ k, (pollAll ks app).1.state.tasks k = none) ∧ Polled.pending ∉ (pollAll ks app).2 := by
  induction ks generalizing app with
  | nil => exact ⟨fun k => hout k (List.not_mem_nil k), List.not_mem_nil _⟩
  | cons k' ks ih =>
    obtain ⟨⟨ha', hm', hout'⟩, hp⟩ := pollTask_settles ha hm hout
    obtain ⟨h1, h2⟩ := ih ha' hm' hout'
    rw [pollAll_cons_fst, pollAll_cons_snd, List.mem_cons, not_or]
    exact ⟨h1, Ne.symm hp, h2⟩

theorem repaints_eq_nil {p : LdkServerApp × List Polled} (hp : Polled.pending ∉ p.2)
    (ht : ∀ k, p.1.state.tasks k = none) : repaints p = [] := by
  have hn : p.1.state.tasks.anyPending = false := by
    rw [← Bool.not_eq_true, anyPending_iff]
    simp [ht]
  rw [repaints, hn, if_neg Bool.false_ne_true, List.append_nil, List.filterMap_eq_nil_iff]
  rintro (_ | _ | _) h
  · rfl
  · exact absurd h hp
  · rfl

/-- Once the server has answered every call in flight: a drain pass, the server's answer to the
`list_channels` call it may have spawned, and a second pass leave every slot empty, and that
`update` requests no repaint. -/
theorem drain_two_passes {ok : AppState → Op → Prop} {app : LdkServerApp} {tr : List Event}
    (h : Reach ok app tr) (ha : Answered app) (o : Outcome .channels) :
    (∀ k, (update (answerChannels o (pollTasks app).1)).1.state.tasks k = none) ∧
      (update (answerChannels o (pollTasks app).1)).2 = [] := by
  have h1 : ∀ k, k ≠ .channels → (pollTasks app).1.state.tasks k = none := fun _ => pollTasks_answered ha
  have hs : SlotInv (pollTasks app).1 .channels := (slotInv_of_reach h .channels).pollAll TaskKey.all
  have hq := pollAll_quiet (answered_answerChannels hs h1 o)
    (fun k hk => by rw [answerChannels_state]; exact h1 k (by rintro rfl; cases hk))
    (fun k (hk : k ∉ TaskKey.all) => absurd (TaskKey.mem_all k) hk)
  generalize answerChannels o (pollTasks app).1 = app' at hq ⊢
  rw [update_eq, pollTasks]
  exact ⟨hq.1, repaints_eq_nil hq.2 hq.1⟩

def closeAnswered : List Op :=
  [.editSettings "localhost:3002" "key" "", .connect .wasm32 (.ok []) (.ok ⟨0⟩),
    .editForms { closeChannel := { userChannelId := "1", counterpartyNodeId := "02ab" } },
    .trigger .closeChannel, .complete .nodeInfo 0 (.ok ⟨[]⟩), .complete .balances 0 (.ok ⟨[]⟩),
    .complete .channels 0 (.ok ⟨[]⟩), .complete .closeChannel 0 (.ok {})]

/-- Here one pass is not enough: the close's success spawned list_channels. -/
theorem closeAnswered_one_pass_channels :
    ((pollTasks (run closeAnswered (.new none)).1).1.state.tasks .channels).isSome := by
  decide

theorem drain_two_passes_after_close :
    (Reach anyOp (run closeAnswered (.new none)).1 ([] ++ (run closeAnswered (.new none)).2) ∧
      Answered (run closeAnswered (.new none)).1) ∧
    ((∀ k, (update (answerChannels (.ok ⟨[]⟩) (pollTasks (run closeAnswered (.new none)).1).1)).1.state.tasks k =
        none) ∧
      (update (answerChannels (.ok ⟨[]⟩) (pollTasks (run closeAnswered (.new none)).1).1)).2 = []) ∧
    ((pollTasks (run closeAnswered (.new none)).1).1.state.tasks .channels).isSome :=
  have h := (Reach.init none).run closeAnswered fun _ _ _ => trivial
  have ha : Answered (run closeAnswered (.new none)).1 := by decide
  ⟨⟨h, ha⟩, drain_two_passes h ha _, closeAnswered_one_pass_channels⟩

end LdkServerGui
