import Mathlib.Data.List.Nodup
import LdkServerGui.Step
import LdkServerGui.Proofs.Drain

/-!
# Error isolation in the drain pass

Run `poll_tasks` twice from one state: once after slot `A`'s call has finished with `o`, once
while it is still pending. The runs differ only in the footprint of `o`: the status line, slot
`A`, and on success the fields `A`'s handler writes, with the channels slot for a channel
operation (`clearFootprint`, `footprintSlot`). A failure on `A` thus touches nothing but slot
`A` and the status line (`poll_tasks_isolation`).

The proof relates the two runs (`Agree`) and carries the relation through the pass one slot at a
time. An expansion for a slot outside the footprint keeps it (`Agree.pollTask`): both runs take
the same arm, and an arm's assignments are overwrites, which only the footprint can tell apart
(`clearFootprint_outcomeState`). The expansion for `A` delivers in one run and not in the other
(`Agree.deliver`); it writes only the footprint (`clearFootprint_outcomeState_self`). The slots
after `A` lie outside the footprint, as the channels slot comes before every channel operation
(`TaskKey.channels_before`).

The status line after a pass is what the deliveries of the pass leave, in slot order: each arm
writes its error or its success text (`okMessage`, which the arms agree with:
`outcomeState_statusMessage`) or, for the four fetches, leaves the line alone; a later write
overwrites an earlier one, and nothing else in the pass writes it (`pollTasks_statusMessage`). A failure thus leaves its message
there, overwritten only by the deliveries after it (`failure_reported`).
-/

namespace LdkServerGui

theorem TaskKey.channels_before {A : TaskKey} (hA : A.mutatesChannels) :
    ¬[A, .channels].Sublist TaskKey.all := by
  cases A <;> simp only [TaskKey.mutatesChannels, Bool.false_eq_true] at hA <;> decide

namespace LdkServerApp

/-! ### The footprint -/

/-- The fields the success arm of `k` writes, the status line apart, cleared: its cached
response or result, and the form it resets and the dialog it closes. -/
def clearHandlerFields : TaskKey → AppState → AppState
  | .nodeInfo, s => { s with nodeInfo := none }
  | .balances, s => { s with balances := none }
  | .channels, s => { s with channels := none }
  | .payments, s => { s with payments := none, paymentsPageToken := none }
  | .onchainReceive, s => { s with onchainAddress := none }
  | .onchainSend, s => { s with lastTxid := none, forms := { s.forms with onchainSend := {} } }
  | .bolt11Receive, s => { s with generatedInvoice := none }
  | .bolt11Send, s => { s with lastPaymentId := none, forms := { s.forms with bolt11Send := {} } }
  | .bolt12Receive, s => { s with generatedOffer := none }
  | .bolt12Send, s => { s with lastPaymentId := none, forms := { s.forms with bolt12Send := {} } }
  | .openChannel, s =>
    { s with lastChannelId := none, forms := { s.forms with openChannel := {} }
             showOpenChannelDialog := false }
  | .closeChannel, s =>
    { s with forms := { s.forms with closeChannel := {} }, showCloseChannelDialog := false }
  | .forceCloseChannel, s =>
    { s with forms := { s.forms with closeChannel := {} }, showCloseChannelDialog := false }
  | .spliceIn, s => { s with forms := { s.forms with spliceIn := {} }, showSpliceInDialog := false }
  | .spliceOut, s => { s with forms := { s.forms with spliceOut := {} }, showSpliceOutDialog := false }
  | .updateChannelConfig, s =>
    { s with forms := { s.forms with updateChannelConfig := {} }, showUpdateConfigDialog := false }
  | .connectPeer, s =>
    { s with forms := { s.forms with connectPeer := {} }, showConnectPeerDialog := false }

/-- The state outside the footprint of outcome `o` of slot `A`, with the slots left out (they are
compared one by one, `footprintSlot`): the status line is cleared, and on success the fields
`A`'s handler writes. -/
def clearFootprint (A : TaskKey) (o : Outcome A) (s : AppState) : AppState :=
  let s := { s with statusMessage := none, tasks := AsyncTasks.default }
  match o with
  | .ok _ => clearHandlerFields A s
  | .error _ => s

/-- The slots in the footprint of outcome `o` of slot `A`: `A`'s own, and the channels slot when
`o` is a success of a channel operation. -/
def footprintSlot (A : TaskKey) (o : Outcome A) (k : TaskKey) : Bool :=
  k == A || match o with
    | .ok _ => k == .channels && A.mutatesChannels
    | .error _ => false

section Footprint
variable {A : TaskKey} {o : Outcome A}

@[simp] theorem clearFootprint_client (s : AppState) : (clearFootprint A o s).client = s.client := by
  cases o
  · rfl
  · cases A <;> rfl

theorem clearFootprint_update (s : AppState) (m : Option StatusMessage) (t : AsyncTasks) :
    clearFootprint A o { s with statusMessage := m, tasks := t } = clearFootprint A o s := by
  cases o
  · rfl
  · cases A <;> rfl

theorem clearFootprint_tasks (s : AppState) (t : AsyncTasks) :
    clearFootprint A o { s with tasks := t } = clearFootprint A o s :=
  clearFootprint_update s s.statusMessage t

theorem clearFootprint_ok (v : Response A) (e : String) (s : AppState) :
    clearFootprint A (.ok v) s = clearHandlerFields A (clearFootprint A (.error e) s) := rfl

theorem clearHandlerFields_clearFootprint_error (k : TaskKey) (e : String) (s : AppState) :
    clearHandlerFields k (clearFootprint A (.error e) s) =
      clearFootprint A (.error e) (clearHandlerFields k s) := by
  cases k <;> rfl

theorem clearFootprint_error_okState (e : String) (k : TaskKey) (v : Response k) (s : AppState) :
    clearFootprint A (.error e) (okState k v (clearFootprint A (.error e) s)) =
      clearFootprint A (.error e) (okState k v s) := by
  cases k <;> rfl

theorem clearHandlerFields_okState (A k : TaskKey) (v : Response k) (s : AppState) :
    clearHandlerFields A (okState k v (clearHandlerFields A s)) =
      clearHandlerFields A (okState k v s) := by
  cases A <;> cases k <;> dsimp only [clearHandlerFields, okState]

/-- An arm's assignments are overwrites: what they make of two states agrees outside the
footprint when the states do. -/
theorem clearFootprint_outcomeState (k : TaskKey) (o' : Outcome k) (s : AppState) :
    clearFootprint A o (outcomeState k o' (clearFootprint A o s)) =
      clearFootprint A o (outcomeState k o' s) := by
  cases o with
  | error e =>
    cases o' with
    | error e' => rfl
    | ok v => exact clearFootprint_error_okState e k v s
  | ok w =>
    cases o' with
    | error e' => cases A <;> rfl
    | ok v =>
      let base := clearFootprint A (.error "")
      calc clearHandlerFields A (base (okState k v (clearHandlerFields A (base s))))
          = base (clearHandlerFields A (okState k v (clearHandlerFields A (base s)))) :=
            clearHandlerFields_clearFootprint_error A "" _
        _ = base (clearHandlerFields A (okState k v (base s))) :=
            congrArg base (clearHandlerFields_okState A k v (base s))
        _ = clearHandlerFields A (base (okState k v (base s))) :=
            (clearHandlerFields_clearFootprint_error A "" _).symm
        _ = clearHandlerFields A (base (okState k v s)) :=
            congrArg (clearHandlerFields A) (clearFootprint_error_okState "" k v s)

theorem clearFootprint_outcomeState_self (s : AppState) :
    clearFootprint A o (outcomeState A o s) = clearFootprint A o s := by
  cases o <;> cases A <;> rfl

theorem footprintSlot_self : footprintSlot A o A = true := by
  simp [footprintSlot]

theorem footprintSlot_channels_of_refetches (h : refetches A o = true) :
    footprintSlot A o .channels = true := by
  cases o <;> simp_all [footprintSlot, refetches]

end Footprint

/-! ### The two runs -/

/-- Two apps agree outside the footprint of outcome `o` of slot `A`, except on the slots `F`
names: on the fields, on the other slots and on their calls. -/
structure Agree (A : TaskKey) (o : Outcome A) (F : TaskKey → Bool) (X Y : LdkServerApp) : Prop where
  fields : clearFootprint A o X.state = clearFootprint A o Y.state
  slots : ∀ k, F k = false → X.state.tasks k = Y.state.tasks k
  calls : ∀ k, F k = false → X.rt.calls k = Y.rt.calls k

namespace Agree
variable {A : TaskKey} {o : Outcome A} {F : TaskKey → Bool} {X Y : LdkServerApp}

theorem symm (h : Agree A o F X Y) : Agree A o F Y X :=
  ⟨h.fields.symm, fun k hk => (h.slots k hk).symm, fun k hk => (h.calls k hk).symm⟩

theorem mono {F' : TaskKey → Bool} (h : Agree A o F X Y) (hF : ∀ k, F' k = false → F k = false) :
    Agree A o F' X Y :=
  ⟨h.fields, fun k hk => h.slots k (hF k hk), fun k hk => h.calls k (hF k hk)⟩

theorem client (h : Agree A o F X Y) : X.state.client = Y.state.client := by
  simpa using congrArg AppState.client h.fields

theorem take_left {k : TaskKey} (h : Agree A o F X Y) (hk : F k = true) (i : Nat) :
    Agree A o F (X.take k i) Y where
  fields := by rw [take_state, clearFootprint_tasks]; exact h.fields
  slots j hj := by
    have hjk : j ≠ k := by rintro rfl; simp [hk] at hj
    simpa [hjk] using h.slots j hj
  calls j hj := by
    have hjk : j ≠ k := by rintro rfl; simp [hk] at hj
    simpa [hjk] using h.calls j hj

theorem take {k : TaskKey} (h : Agree A o F X Y) (i : Nat) : Agree A o F (X.take k i) (Y.take k i) where
  fields := by rw [take_state, take_state, clearFootprint_tasks, clearFootprint_tasks]; exact h.fields
  slots j hj := by
    by_cases hjk : j = k
    · subst hjk; simp
    · simpa [hjk] using h.slots j hj
  calls j hj := by
    by_cases hjk : j = k
    · subst hjk; simp [Runtime.modifyCell, h.calls j hj]
    · simpa [hjk] using h.calls j hj

theorem modifyState (h : Agree A o F X Y) (k : TaskKey) (o' : Outcome k) :
    Agree A o F (X.modifyState (outcomeState k o')) (Y.modifyState (outcomeState k o')) where
  fields := by
    rw [modifyState_state, modifyState_state, ← clearFootprint_outcomeState, h.fields,
      clearFootprint_outcomeState]
  slots j hj := by simpa using h.slots j hj
  calls := h.calls

theorem spawnTask {k : TaskKey} (h : Agree A o F X Y) (hk : F k = false) (c : LdkServerClient)
    (r : Request k) : Agree A o F (X.spawnTask k c r) (Y.spawnTask k c r) where
  fields := by
    rw [spawnTask_state, spawnTask_state, clearFootprint_tasks, clearFootprint_tasks]; exact h.fields
  slots j hj := by
    by_cases hjk : j = k
    · subst hjk; simp [h.calls j hk]
    · simpa [hjk] using h.slots j hj
  calls j hj := by
    by_cases hjk : j = k
    · subst hjk; simp [h.calls j hk]
    · simpa [hjk] using h.calls j hj

theorem fetchChannels_left (h : Agree A o F X Y) (hF : F .channels = true) :
    Agree A o F (LdkServerApp.fetchChannels X) Y where
  fields := by
    obtain ⟨m, t, ht⟩ := trigger_state .channels (fun _ => .ok {}) X
    rw [fetchChannels, ht, clearFootprint_update]; exact h.fields
  slots j hj := by
    have hjc : j ≠ .channels := by rintro rfl; simp [hF] at hj
    rw [fetchChannels, (trigger_frame (.inl hjc)).1]; exact h.slots j hj
  calls j hj := by
    have hjc : j ≠ .channels := by rintro rfl; simp [hF] at hj
    rw [fetchChannels, (trigger_frame (.inl hjc)).2]; exact h.calls j hj

theorem fetchChannels (h : Agree A o F X Y) :
    Agree A o F (LdkServerApp.fetchChannels X) (LdkServerApp.fetchChannels Y) := by
  cases hF : F .channels
  · have hs := h.slots _ hF
    unfold LdkServerApp.fetchChannels trigger
    rw [hs, h.client]
    split
    · exact h
    · split
      · exact h
      · exact h.spawnTask hF _ _
  · exact ((h.fetchChannels_left hF).symm.fetchChannels_left hF).symm

theorem handleOutcome (h : Agree A o F X Y) (k : TaskKey) (o' : Outcome k) :
    Agree A o F (LdkServerApp.handleOutcome k o' X) (LdkServerApp.handleOutcome k o' Y) := by
  rw [handleOutcome_eq, handleOutcome_eq]
  split
  · exact (h.modifyState k o').fetchChannels
  · exact h.modifyState k o'

theorem pollTask {k : TaskKey} (h : Agree A o F X Y) (hk : F k = false) :
    Agree A o F (LdkServerApp.pollTask k X).1 (LdkServerApp.pollTask k Y).1 ∧
      (LdkServerApp.pollTask k X).2 = (LdkServerApp.pollTask k Y).2 := by
  have hs := h.slots k hk
  have hc : ∀ i, X.rt.cell k i = Y.rt.cell k i := fun i => by simp [Runtime.cell, h.calls k hk]
  rcases pollTask_cases k Y with ⟨ht, hp⟩ | ⟨t, ht, hpend, hp⟩ | ⟨t, o', ht, hpub, hp⟩ <;>
    rw [hp]
  · rw [(pollTask_cases k X).resolve_right (by simp [hs, ht]) |>.2]; exact ⟨h, rfl⟩
  · rw [pollTask_of_pending (hs.trans ht) (by simpa [hc] using hpend)]; exact ⟨h, rfl⟩
  · rw [pollTask_of_published (hs.trans ht) ((hc _).trans hpub)]
    exact ⟨(h.take t.rx).handleOutcome k o', rfl⟩

theorem pollAll {ks : List TaskKey} (h : Agree A o F X Y) (hks : ∀ k ∈ ks, F k = false) :
    Agree A o F (LdkServerApp.pollAll ks X).1 (LdkServerApp.pollAll ks Y).1 ∧
      (LdkServerApp.pollAll ks X).2 = (LdkServerApp.pollAll ks Y).2 := by
  induction ks generalizing X Y with
  | nil => exact ⟨h, rfl⟩
  | cons k ks ih =>
    obtain ⟨h1, hp⟩ := h.pollTask (hks k (List.mem_cons_self _ _))
    obtain ⟨h2, hps⟩ := ih h1 fun k' hk' => hks k' (List.mem_cons_of_mem _ hk')
    rw [pollAll_cons_fst, pollAll_cons_fst, pollAll_cons_snd, pollAll_cons_snd, hp, hps]
    exact ⟨h2, rfl⟩

theorem deliver {t : ChannelTaskHandle} (h : Agree A o (· == A) X Y)
    (hX : X.state.tasks A = some t) (hcX : X.rt.cell A t.rx = some (.published o))
    (hY : Y.state.tasks A = some t) (hcY : Y.rt.cell A t.rx = some .running) :
    Agree A o (footprintSlot A o) (LdkServerApp.pollTask A X).1 (LdkServerApp.pollTask A Y).1 := by
  rw [pollTask_of_published hX hcX, pollTask_of_pending hY (by simp [hcY]), handleOutcome_eq]
  have h1 : Agree A o (footprintSlot A o) (X.take A t.rx) Y :=
    @take_left A o (footprintSlot A o) X Y A (h.mono fun k hk => (Bool.or_eq_false_iff.1 hk).1)
      footprintSlot_self t.rx
  have h2 : Agree A o (footprintSlot A o) ((X.take A t.rx).modifyState (outcomeState A o)) Y :=
    ⟨by rw [modifyState_state, clearFootprint_outcomeState_self]; exact h1.fields,
      fun k hk => by simpa using h1.slots k hk, h1.calls⟩
  split
  · exact h2.fetchChannels_left (footprintSlot_channels_of_refetches ‹_›)
  · exact h2

end Agree

theorem pollAll_append_fst (ks ks' : List TaskKey) (app : LdkServerApp) :
    (pollAll (ks ++ ks') app).1 = (pollAll ks' (pollAll ks app).1).1 := by
  induction ks generalizing app with
  | nil => rfl
  | cons k ks ih => exact ih _

theorem footprintSlot_of_after {A k : TaskKey} {pre post : List TaskKey} (o : Outcome A)
    (hall : TaskKey.all = pre ++ A :: post) (hA : A ∉ post) (hk : k ∈ post) :
    footprintSlot A o k = false := by
  have hkA : k ≠ A := fun h => hA (h ▸ hk)
  cases o with
  | error e => simp [footprintSlot, hkA]
  | ok v =>
    cases hm : A.mutatesChannels
    · simp [footprintSlot, hkA, hm]
    · have hkc : k ≠ .channels := by
        rintro rfl
        exact TaskKey.channels_before hm
          (hall ▸ ((List.singleton_sublist.2 hk).cons₂ A).trans (List.sublist_append_right _ _))
      simp [footprintSlot, hkA, hkc]

theorem poll_tasks_isolation (app : LdkServerApp) (A : TaskKey) (t : ChannelTaskHandle)
    (o : Outcome A) (ht : app.state.tasks A = some t) (hc : app.rt.cell A t.rx = some .running) :
    clearFootprint A o (pollTasks (complete A t.rx o app).1).1.state =
        clearFootprint A o (pollTasks app).1.state ∧
      ∀ k, footprintSlot A o k = false →
        (pollTasks (complete A t.rx o app).1).1.state.tasks k = (pollTasks app).1.state.tasks k := by
  have hdone : (complete A t.rx o app).1 = { app with rt := app.rt.publish A t.rx o } := by
    simp [complete, hc]
  have hcell : (complete A t.rx o app).1.rt.cell A t.rx = some (.published o) := by
    simp [hdone, Runtime.publish, Runtime.cell_modifyCell_self, hc]
  obtain ⟨pre, post, hall⟩ := List.append_of_mem (TaskKey.mem_all A)
  have hnd : (pre ++ A :: post).Nodup := hall ▸ TaskKey.nodup_all
  obtain ⟨-, hnd', hdisj⟩ := List.nodup_append.1 hnd
  have hApre : A ∉ pre := fun h => hdisj h (List.mem_cons_self _ _)
  have hApost : A ∉ post := (List.nodup_cons.1 hnd').1
  have h0 : Agree A o (· == A) (complete A t.rx o app).1 app :=
    ⟨by rw [hdone], fun k _ => by rw [hdone], fun k hk => by
      rw [hdone]; exact Runtime.calls_modifyCell_of_ne _ _ _ (by simpa using hk)⟩
  have hpre := (@Agree.pollAll A o _ _ _ pre h0 fun k hk =>
    beq_eq_false_iff_ne.2 fun h => hApre (h ▸ hk)).1
  have hX := @pollAll_frame A pre (complete A t.rx o app).1 hApre (.inr (by simp [hdone, ht]))
  have hY := @pollAll_frame A pre app hApre (.inr (by simp [ht]))
  have hA := hpre.deliver (t := t) (by rw [hX.1, hdone, ht]) (by simpa [Runtime.cell, hX.2] using hcell)
    (by rw [hY.1, ht]) (by simpa [Runtime.cell, hY.2] using hc)
  have hpost := (@Agree.pollAll A o _ _ _ post hA fun k hk =>
    footprintSlot_of_after o hall hApost hk).1
  rw [pollTasks, pollTasks, hall, pollAll_append_fst, pollAll_append_fst, pollAll_cons_fst,
    pollAll_cons_fst]
  exact ⟨hpost.fields, hpost.slots⟩

def openChannelRunning : LdkServerApp :=
  (⟨{ AppState.default with client := some ⟨0⟩ }, .empty⟩ : LdkServerApp).spawnTask .openChannel ⟨0⟩
    ⟨"02ab", "127.0.0.1:9735", 100000, none, none, false⟩

theorem open_channel_failure_isolated :
    (openChannelRunning.state.tasks .openChannel = some ⟨0⟩ ∧
      openChannelRunning.rt.cell .openChannel 0 = some .running) ∧
    clearFootprint .openChannel (.error "timeout")
        (pollTasks (complete .openChannel 0 (.error "timeout") openChannelRunning).1).1.state =
      clearFootprint .openChannel (.error "timeout") (pollTasks openChannelRunning).1.state ∧
    ∀ k, footprintSlot .openChannel (.error "timeout") k = false →
      (pollTasks (complete .openChannel 0 (.error "timeout") openChannelRunning).1).1.state.tasks k =
        (pollTasks openChannelRunning).1.state.tasks k :=
  ⟨⟨rfl, rfl⟩, poll_tasks_isolation openChannelRunning .openChannel ⟨0⟩ (.error "timeout") rfl rfl⟩

/-! ### The status line after a pass -/

/-- The text the success arm of slot `k` puts on the status line; the arms of the four fetches
put none. -/
def okMessage : (k : TaskKey) → Response k → Option String
  | .nodeInfo, _ | .balances, _ | .channels, _ | .payments, _ => none
  | .onchainReceive, _ => some "Address generated"
  | .onchainSend, v => some ("Sent! TXID: " ++ v.txid)
  | .bolt11Receive, _ => some "Invoice generated"
  | .bolt11Send, v => some ("Payment sent! ID: " ++ v.paymentId)
  | .bolt12Receive, _ => some "Offer generated"
  | .bolt12Send, v => some ("Payment sent! ID: " ++ v.paymentId)
  | .openChannel, v => some ("Channel opened! ID: " ++ v.userChannelId)
  | .closeChannel, _ => some "Channel close initiated"
  | .forceCloseChannel, _ => some "Force close initiated"
  | .spliceIn, _ => some "Splice-in initiated"
  | .spliceOut, v => some ("Splice-out initiated to " ++ v.address)
  | .updateChannelConfig, _ => some "Channel config updated"
  | .connectPeer, _ => some "Peer connected successfully"

def statusAfter (d : Delivery) (m : Option StatusMessage) : Option StatusMessage :=
  match d.outcome with
  | .ok v => ((okMessage d.key v).map .success).or m
  | .error e => some (.error e)

def Polled.status (m : Option StatusMessage) : Polled → Option StatusMessage
  | .delivered d => statusAfter d m
  | _ => m

theorem outcomeState_statusMessage (k : TaskKey) (i : Nat) (o : Outcome k) (s : AppState) :
    (outcomeState k o s).statusMessage = statusAfter ⟨k, i, o⟩ s.statusMessage := by
  cases o <;> cases k <;> rfl

theorem fetchChannels_statusMessage (app : LdkServerApp) :
    (fetchChannels app).state.statusMessage = app.state.statusMessage := by
  simp only [fetchChannels, trigger]
  split_ifs
  · rfl
  · split
    · rfl
    · rfl

theorem pollTask_statusMessage (k : TaskKey) (app : LdkServerApp) :
    (pollTask k app).1.state.statusMessage = Polled.status app.state.statusMessage (pollTask k app).2 := by
  rcases pollTask_cases k app with ⟨-, hp⟩ | ⟨-, -, -, hp⟩ | ⟨t, o, -, -, hp⟩ <;> rw [hp]
  · rfl
  · rfl
  · rw [handleOutcome_eq]
    split
    · rw [fetchChannels_statusMessage, modifyState_state, outcomeState_statusMessage k t.rx]; rfl
    · rw [modifyState_state, outcomeState_statusMessage k t.rx]; rfl

theorem pollAll_statusMessage (ks : List TaskKey) (app : LdkServerApp) :
    (pollAll ks app).1.state.statusMessage = (pollAll ks app).2.foldl Polled.status app.state.statusMessage := by
  induction ks generalizing app with
  | nil => rfl
  | cons k ks ih =>
    rw [pollAll_cons_fst, pollAll_cons_snd, List.foldl_cons, ih, pollTask_statusMessage]

theorem pollTasks_statusMessage (app : LdkServerApp) :
    (pollTasks app).1.state.statusMessage = (pollTasks app).2.foldl Polled.status app.state.statusMessage :=
  pollAll_statusMessage _ app

theorem Polled.status_error (m : Option StatusMessage) (A : TaskKey) (i : Nat) (e : String) :
    Polled.status m (.delivered ⟨A, i, .error e⟩) = some (.error e) := rfl

/-- A failure in a pass clears its slot (unless `fetch_channels` refills the channels slot), and
the status line ends with its message, overwritten only by the deliveries after it. -/
theorem failure_reported (app : LdkServerApp) (A : TaskKey) (t : ChannelTaskHandle) (e : String)
    (ht : app.state.tasks A = some t) (hc : app.rt.cell A t.rx = some (.published (.error e))) :
    (A ≠ .channels → (pollTasks app).1.state.tasks A = none) ∧
      ∃ pre post, (pollTasks app).2 = pre ++ .delivered ⟨A, t.rx, .error e⟩ :: post ∧
        (pollTasks app).1.state.statusMessage = post.foldl Polled.status (some (.error e)) := by
  obtain ⟨hd, -, hnone⟩ := pollAll_drains_published TaskKey.nodup_all (TaskKey.mem_all A) ht hc
  obtain ⟨pre, post, hsplit⟩ := List.append_of_mem hd
  refine ⟨hnone, pre, post, hsplit, ?_⟩
  rw [pollTasks, pollAll_statusMessage, hsplit, List.foldl_append, List.foldl_cons,
    Polled.status_error]

def onchainSendFailed : LdkServerApp :=
  let app := (⟨{ AppState.default with client := some ⟨0⟩ }, .empty⟩ : LdkServerApp).spawnTask
    .onchainSend ⟨0⟩ ⟨"bcrt1qexample", some 1000, none, none⟩
  { app with rt := app.rt.publish .onchainSend 0 (.error "insufficient funds") }

theorem failure_reported_onchain_send :
    (onchainSendFailed.state.tasks .onchainSend = some ⟨0⟩ ∧
      onchainSendFailed.rt.cell .onchainSend 0 = some (.published (.error "insufficient funds"))) ∧
    (TaskKey.onchainSend ≠ .channels →
        (pollTasks onchainSendFailed).1.state.tasks .onchainSend = none) ∧
      ∃ pre post, (pollTasks onchainSendFailed).2 =
          pre ++ .delivered ⟨.onchainSend, 0, .error "insufficient funds"⟩ :: post ∧
        (pollTasks onchainSendFailed).1.state.statusMessage =
          post.foldl Polled.status (some (.error "insufficient funds")) :=
  ⟨⟨rfl, rfl⟩, failure_reported onchainSendFailed .onchainSend ⟨0⟩ "insufficient funds" rfl rfl⟩

example : (pollTasks onchainSendFailed).1.state.statusMessage =
    some (.error "insufficient funds") := by
  decide

end LdkServerApp

end LdkServerGui
