import LdkServerGui.Poll
import LdkServerGui.Proofs.Trigger

/-!
# One drain pass

What one `poll_task!` expansion can do (`pollTask_cases`): nothing on an empty slot, a repaint
request on a slot whose call has not published, or, on a published outcome, clear the slot,
take the outcome and run the arm (`handleOutcome_eq`: the arm's assignments `outcomeState`,
then `fetch_channels` for a channel operation's success). The frame (`pollTask_frame`): an
expansion for `k'` leaves every other slot and its calls alone, except that `fetch_channels`
may fill an empty channels slot with a fresh call. By induction over the slots of a pass:
an unpublished call keeps its slot (`pollAll_keeps_pending`), a published one is drained
(`pollAll_drains_published`), and the channels slot only ever receives fresh calls
(`FreshFrom.pollAll`). `update_spec` assembles these with the repaint requests.
-/

namespace LdkServerGui
namespace LdkServerApp

/-! ### The trigger body -/

section Trigger
variable {k k' : TaskKey} {request : AppState → Except String (Request k')} {app : LdkServerApp}

theorem trigger_state (k' : TaskKey) (request : AppState → Except String (Request k'))
    (app : LdkServerApp) :
    ∃ m t, (trigger k' request app).state = { app.state with statusMessage := m, tasks := t } := by
  rcases trigger_cases k' request app with h | ⟨m, h⟩ | ⟨c, r, -, -, h⟩ <;> rw [h] <;>
    exact ⟨_, _, rfl⟩

theorem trigger_frame (h : k ≠ k' ∨ (app.state.tasks k).isSome) :
    (trigger k' request app).state.tasks k = app.state.tasks k ∧
      (trigger k' request app).rt.calls k = app.rt.calls k := by
  rcases trigger_cases k' request app with h1 | ⟨m, h1⟩ | ⟨c, r, hk, -, h1⟩ <;> rw [h1]
  · exact ⟨rfl, rfl⟩
  · exact ⟨rfl, rfl⟩
  · have hne : k ≠ k' := by rintro rfl; simp [hk] at h
    simp [hne]

theorem trigger_slot (k : TaskKey) (request : AppState → Except String (Request k))
    (app : LdkServerApp) :
    (trigger k request app).state.tasks k = app.state.tasks k ∨
      (trigger k request app).state.tasks k = some ⟨(app.rt.calls k).length⟩ := by
  rcases trigger_cases k request app with h | ⟨m, h⟩ | ⟨c, r, -, -, h⟩ <;> rw [h] <;> simp

theorem length_calls_trigger (k : TaskKey) (request : AppState → Except String (Request k'))
    (app : LdkServerApp) : (app.rt.calls k).length ≤ ((trigger k' request app).rt.calls k).length := by
  by_cases hk : k = k'
  · subst hk
    rcases trigger_cases k request app with h | ⟨m, h⟩ | ⟨c, r, -, -, h⟩ <;> simp [h]
  · rw [(trigger_frame (.inl hk)).2]

end Trigger

/-! ### What one expansion does -/

def take (app : LdkServerApp) (k : TaskKey) (i : Nat) : LdkServerApp :=
  ⟨{ app.state with tasks := app.state.tasks.set k none }, app.rt.modifyCell k i fun _ => .taken⟩

@[simp] theorem take_state (app : LdkServerApp) (k : TaskKey) (i : Nat) :
    (app.take k i).state = { app.state with tasks := app.state.tasks.set k none } := rfl
@[simp] theorem take_rt (app : LdkServerApp) (k : TaskKey) (i : Nat) :
    (app.take k i).rt = app.rt.modifyCell k i fun _ => .taken := rfl

/-- The assignments `poll_task!` makes for the outcome `o` of slot `k`: the success arm's, or the
error on the status line. -/
def outcomeState (k : TaskKey) : Outcome k → AppState → AppState
  | .ok v => okState k v
  | .error e => fun s => { s with statusMessage := some (.error e) }

def refetches (k : TaskKey) : Outcome k → Bool
  | .ok _ => k.mutatesChannels
  | .error _ => false

theorem handleOutcome_eq (k : TaskKey) (o : Outcome k) (app : LdkServerApp) :
    handleOutcome k o app =
      if refetches k o then fetchChannels (app.modifyState (outcomeState k o))
      else app.modifyState (outcomeState k o) := by
  cases o <;> rfl

@[simp] theorem outcomeState_tasks (k : TaskKey) (o : Outcome k) (s : AppState) :
    (outcomeState k o s).tasks = s.tasks := by
  cases o <;> cases k <;> rfl

@[simp] theorem outcomeState_client (k : TaskKey) (o : Outcome k) (s : AppState) :
    (outcomeState k o s).client = s.client := by
  cases o <;> cases k <;> rfl

@[simp] theorem outcomeState_connectionStatus (k : TaskKey) (o : Outcome k) (s : AppState) :
    (outcomeState k o s).connectionStatus = s.connectionStatus := by
  cases o <;> cases k <;> rfl

/-- The three arms of `poll_task!`. -/
theorem pollTask_cases (k : TaskKey) (app : LdkServerApp) :
    (app.state.tasks k = none ∧ pollTask k app = (app, .idle)) ∨
    (∃ t, app.state.tasks k = some t ∧ (∀ o, app.rt.cell k t.rx ≠ some (.published o)) ∧
      pollTask k app = (app, .pending)) ∨
    ∃ t o, app.state.tasks k = some t ∧ app.rt.cell k t.rx = some (.published o) ∧
      pollTask k app = (handleOutcome k o (app.take k t.rx), .delivered ⟨k, t.rx, o⟩) := by
  cases ht : app.state.tasks k with
  | none => exact .inl ⟨rfl, by simp [pollTask, ht]⟩
  | some t =>
    rcases hc : app.rt.cell k t.rx with _ | (_ | o | _)
    case some.published =>
      refine .inr (.inr ⟨t, o, rfl, hc, ?_⟩)
      simp [pollTask, ht, Runtime.tryTake_eq, hc, take]
    all_goals exact .inr (.inl ⟨t, rfl, by simp [hc], by simp [pollTask, ht, Runtime.tryTake_eq, hc]⟩)

section Expansion
variable {k k' : TaskKey} {app : LdkServerApp}

theorem pollTask_of_pending {t : ChannelTaskHandle} (ht : app.state.tasks k = some t)
    (hc : ∀ o, app.rt.cell k t.rx ≠ some (.published o)) : pollTask k app = (app, .pending) := by
  rcases pollTask_cases k app with ⟨h, -⟩ | ⟨t', h, -, hp⟩ | ⟨t', o, h, hc', -⟩
  · simp [ht] at h
  · exact hp
  · rw [ht, Option.some_inj] at h; subst h; exact absurd hc' (hc o)

theorem pollTask_of_published {t : ChannelTaskHandle} {o : Outcome k}
    (ht : app.state.tasks k = some t) (hc : app.rt.cell k t.rx = some (.published o)) :
    pollTask k app = (handleOutcome k o (app.take k t.rx), .delivered ⟨k, t.rx, o⟩) := by
  rcases pollTask_cases k app with ⟨h, -⟩ | ⟨t', h, hc', -⟩ | ⟨t', o', h, hc', hp⟩
  · simp [ht] at h
  · rw [ht, Option.some_inj] at h; subst h; exact absurd hc (hc' o)
  · rw [ht, Option.some_inj] at h; subst h
    rw [hc, Option.some_inj, Cell.published.injEq] at hc'; subst hc'; exact hp

theorem handleOutcome_keeps {α : Type} (f : AppState → α)
    (hout : ∀ k o s, f (outcomeState k o s) = f s)
    (hupd : ∀ (s : AppState) m t, f { s with statusMessage := m, tasks := t } = f s)
    (o : Outcome k) : f (handleOutcome k o app).state = f app.state := by
  rw [handleOutcome_eq]
  split
  · obtain ⟨m, t, h⟩ := trigger_state .channels (fun _ => .ok {}) (app.modifyState (outcomeState k o))
    rw [fetchChannels, h, hupd, modifyState_state, hout]
  · rw [modifyState_state, hout]

theorem pollTask_keeps {α : Type} (f : AppState → α) (hout : ∀ k o s, f (outcomeState k o s) = f s)
    (hupd : ∀ (s : AppState) m t, f { s with statusMessage := m, tasks := t } = f s) :
    f (pollTask k app).1.state = f app.state := by
  rcases pollTask_cases k app with ⟨-, hp⟩ | ⟨-, -, -, hp⟩ | ⟨t, o, -, -, hp⟩ <;> rw [hp]
  · rw [handleOutcome_keeps f hout hupd, take_state, hupd]

theorem pollTask_client : (pollTask k app).1.state.client = app.state.client :=
  pollTask_keeps (·.client) (fun _ _ _ => by simp) fun _ _ _ => rfl

theorem pollTask_connectionStatus :
    (pollTask k app).1.state.connectionStatus = app.state.connectionStatus :=
  pollTask_keeps (·.connectionStatus) (fun _ _ _ => by simp) fun _ _ _ => rfl

theorem ne_channels_of_refetches {o : Outcome k} (h : refetches k o = true) : k ≠ .channels := by
  rintro rfl; cases o <;> simp [refetches, TaskKey.mutatesChannels] at h

theorem handleOutcome_frame {o : Outcome k'}
    (h : refetches k' o = true → k ≠ .channels ∨ (app.state.tasks k).isSome) :
    (handleOutcome k' o app).state.tasks k = app.state.tasks k ∧
      (handleOutcome k' o app).rt.calls k = app.rt.calls k := by
  rw [handleOutcome_eq]
  split
  · have := @trigger_frame k .channels (fun _ => .ok {}) (app.modifyState (outcomeState k' o))
      (by simpa using h ‹_›)
    simpa [fetchChannels] using this
  · simp

/-- The frame of an expansion: slot `k ≠ k'` and its calls are left alone, unless `k` is the
empty channels slot. -/
theorem pollTask_frame (hk : k ≠ k') (h : k ≠ .channels ∨ (app.state.tasks k).isSome) :
    (pollTask k' app).1.state.tasks k = app.state.tasks k ∧
      (pollTask k' app).1.rt.calls k = app.rt.calls k := by
  rcases pollTask_cases k' app with ⟨-, hp⟩ | ⟨-, -, -, hp⟩ | ⟨t, o, -, -, hp⟩ <;> rw [hp]
  · exact ⟨rfl, rfl⟩
  · exact ⟨rfl, rfl⟩
  · have hk' : (app.take k' t.rx).state.tasks k = app.state.tasks k := by simp [hk]
    rw [(handleOutcome_frame fun _ => by rwa [hk']).1, (handleOutcome_frame fun _ => by rwa [hk']).2,
      hk']
    simp [hk]

theorem pollTask_slot (k k' : TaskKey) (app : LdkServerApp) :
    (pollTask k' app).1.state.tasks k = app.state.tasks k ∨
      (pollTask k' app).1.state.tasks k = none ∨
      (pollTask k' app).1.state.tasks k = some ⟨(app.rt.calls k).length⟩ := by
  rcases pollTask_cases k' app with ⟨-, hp⟩ | ⟨-, -, -, hp⟩ | ⟨t, o, -, -, hp⟩ <;> rw [hp]
  · exact .inl rfl
  · exact .inl rfl
  · rw [handleOutcome_eq]
    split
    · rcases trigger_slot .channels (fun _ => .ok {})
        ((app.take k' t.rx).modifyState (outcomeState k' o)) with h | h
      all_goals
        by_cases hc : k = .channels
        · subst hc; by_cases hk : TaskKey.channels = k' <;> simp_all [fetchChannels]
        · have := (@trigger_frame k .channels (fun _ => .ok {})
            ((app.take k' t.rx).modifyState (outcomeState k' o)) (.inl hc)).1
          by_cases hk : k = k' <;> simp_all [fetchChannels]
    · by_cases hk : k = k' <;> simp [hk]

theorem length_calls_pollTask (k k' : TaskKey) (app : LdkServerApp) :
    (app.rt.calls k).length ≤ ((pollTask k' app).1.rt.calls k).length := by
  rcases pollTask_cases k' app with ⟨-, hp⟩ | ⟨-, -, -, hp⟩ | ⟨t, o, -, -, hp⟩ <;> rw [hp]
  rw [handleOutcome_eq]
  split
  · exact (length_calls_trigger k _ _).trans' (by simp)
  · simp

end Expansion

/-! ### A pass over a list of slots -/

section Pass
variable {k : TaskKey} {ks : List TaskKey} {app : LdkServerApp}

@[simp] theorem pollAll_nil_fst (app : LdkServerApp) : (pollAll [] app).1 = app := rfl
@[simp] theorem pollAll_cons_fst (k : TaskKey) (ks : List TaskKey) (app : LdkServerApp) :
    (pollAll (k :: ks) app).1 = (pollAll ks (pollTask k app).1).1 := rfl
@[simp] theorem pollAll_nil_snd (app : LdkServerApp) : (pollAll [] app).2 = [] := rfl
@[simp] theorem pollAll_cons_snd (k : TaskKey) (ks : List TaskKey) (app : LdkServerApp) :
    (pollAll (k :: ks) app).2 = (pollTask k app).2 :: (pollAll ks (pollTask k app).1).2 := rfl

theorem pollAll_frame (hk : k ∉ ks) (h : k ≠ .channels ∨ (app.state.tasks k).isSome) :
    (pollAll ks app).1.state.tasks k = app.state.tasks k ∧
      (pollAll ks app).1.rt.calls k = app.rt.calls k := by
  induction ks generalizing app with
  | nil => exact ⟨rfl, rfl⟩
  | cons k' ks ih =>
    rw [List.mem_cons, not_or] at hk
    obtain ⟨h1, h2⟩ := pollTask_frame hk.1 h
    obtain ⟨h3, h4⟩ := ih hk.2 (by rwa [h1])
    exact ⟨h3.trans h1, h4.trans h2⟩

theorem pollAll_client : (pollAll ks app).1.state.client = app.state.client := by
  induction ks generalizing app with
  | nil => rfl
  | cons k' ks ih => exact ih.trans pollTask_client

theorem pollAll_connectionStatus :
    (pollAll ks app).1.state.connectionStatus = app.state.connectionStatus := by
  induction ks generalizing app with
  | nil => rfl
  | cons k' ks ih => exact ih.trans pollTask_connectionStatus

theorem pollAll_keeps_pending {t : ChannelTaskHandle} (ht : app.state.tasks k = some t)
    (hc : ∀ o, app.rt.cell k t.rx ≠ some (.published o)) :
    (pollAll ks app).1.state.tasks k = some t := by
  induction ks generalizing app with
  | nil => exact ht
  | cons k' ks ih =>
    rw [pollAll_cons_fst]
    by_cases hk : k = k'
    · subst hk; rw [pollTask_of_pending ht hc]; exact ih ht hc
    · obtain ⟨h1, h2⟩ := @pollTask_frame k k' app hk (.inr (by simp [ht]))
      exact ih (h1.trans ht) (by simpa [Runtime.cell, h2] using hc)

/-- Slot `k` is empty, or holds a call spawned at index `n` or later (a fresh one when `n` is
the number of calls of `k` at some earlier point). -/
def FreshFrom (k : TaskKey) (n : Nat) (app : LdkServerApp) : Prop :=
  (∀ t, app.state.tasks k = some t → n ≤ t.rx) ∧ n ≤ (app.rt.calls k).length

theorem FreshFrom.pollTask {n : Nat} (k' : TaskKey) (h : FreshFrom k n app) :
    FreshFrom k n (pollTask k' app).1 := by
  refine ⟨fun t ht => ?_, h.2.trans (length_calls_pollTask k k' app)⟩
  rcases pollTask_slot k k' app with h' | h' | h' <;> rw [h'] at ht
  · exact h.1 t ht
  · cases ht
  · cases ht; exact h.2

theorem FreshFrom.pollAll {n : Nat} (h : FreshFrom k n app) : FreshFrom k n (pollAll ks app).1 := by
  induction ks generalizing app with
  | nil => exact h
  | cons k' ks ih => exact ih (h.pollTask k')

theorem pollAll_drains_published {t : ChannelTaskHandle} {o : Outcome k} (hks : ks.Nodup)
    (hmem : k ∈ ks) (ht : app.state.tasks k = some t) (hc : app.rt.cell k t.rx = some (.published o)) :
    Polled.delivered ⟨k, t.rx, o⟩ ∈ (pollAll ks app).2 ∧
      FreshFrom k (app.rt.calls k).length (pollAll ks app).1 ∧
      (k ≠ .channels → (pollAll ks app).1.state.tasks k = none) := by
  induction ks generalizing app with
  | nil => cases hmem
  | cons k' ks ih =>
    rw [List.nodup_cons] at hks
    simp only [pollAll_cons_fst, pollAll_cons_snd]
    by_cases hk : k = k'
    · subst hk
      have hown := @handleOutcome_frame k k (app.take k t.rx) o
        fun hr => .inl (ne_channels_of_refetches hr)
      have hempty : (pollTask k app).1.state.tasks k = none := by
        rw [pollTask_of_published ht hc, hown.1]; simp
      have hlen : (app.rt.calls k).length = ((pollTask k app).1.rt.calls k).length := by
        rw [pollTask_of_published ht hc, hown.2]; simp
      refine ⟨by simp [pollTask_of_published ht hc], FreshFrom.pollAll ⟨by simp [hempty], hlen.le⟩,
        fun hch => ?_⟩
      rw [(pollAll_frame hks.1 (.inl hch)).1, hempty]
    · have hmem' : k ∈ ks := (List.mem_cons.1 hmem).resolve_left hk
      obtain ⟨h1, h2⟩ := @pollTask_frame k k' app hk (.inr (by simp [ht]))
      obtain ⟨hd, hf, hn⟩ := ih hks.2 hmem' (h1.trans ht) (by simpa [Runtime.cell, h2] using hc)
      exact ⟨List.mem_cons_of_mem _ hd, by simpa only [h2] using hf, hn⟩

theorem pollAll_pending_occupied (h : Polled.pending ∈ (pollAll ks app).2) :
    ∃ k, ((pollAll ks app).1.state.tasks k).isSome := by
  induction ks generalizing app with
  | nil => cases h
  | cons k' ks ih =>
    rw [pollAll_cons_snd, List.mem_cons] at h
    rw [pollAll_cons_fst]
    rcases h with h | h
    · rcases pollTask_cases k' app with ⟨-, hp⟩ | ⟨t, ht, hc, hp⟩ | ⟨t, o, -, -, hp⟩ <;>
        rw [hp] at h ⊢ <;> try cases h
      exact ⟨k', by simp [pollAll_keeps_pending ht hc]⟩
    · exact ih h

end Pass

/-! ### `poll_tasks` and `update` -/

theorem anyPending_iff (t : AsyncTasks) : t.anyPending = true ↔ ∃ k, (t k).isSome := by
  constructor
  · intro h
    by_contra hn
    simp only [not_exists, Bool.not_eq_true] at hn
    simp [AsyncTasks.anyPending, hn] at h
  · rintro ⟨k, hk⟩
    cases k <;> simp [AsyncTasks.anyPending, hk]

theorem update_eq (app : LdkServerApp) : update app = ((pollTasks app).1, repaints (pollTasks app)) :=
  rfl

theorem repaints_ne_nil (p : LdkServerApp × List Polled) :
    repaints p ≠ [] ↔ Polled.pending ∈ p.2 ∨ p.1.state.tasks.anyPending = true := by
  cases ha : p.1.state.tasks.anyPending <;> simp [repaints, ha, List.filterMap_eq_nil_iff]
  constructor
  · rintro ⟨a, hm, hfa⟩
    cases a <;> simp_all
  · exact fun h => ⟨_, h, by simp⟩

theorem update_spec (app : LdkServerApp) :
    (∀ k t o, app.state.tasks k = some t → app.rt.cell k t.rx = some (.published o) →
      (update app).1.state.tasks k = none ∨
        (k = .channels ∧ ∃ t', (update app).1.state.tasks k = some t' ∧
          (app.rt.calls k).length ≤ t'.rx)) ∧
    (∀ k t, app.state.tasks k = some t → (∀ o, app.rt.cell k t.rx ≠ some (.published o)) →
      (update app).1.state.tasks k = some t) ∧
    ((update app).2 ≠ [] ↔ ∃ k, ((update app).1.state.tasks k).isSome) ∧
    ∀ tasks : AsyncTasks, tasks.anyPending = true ↔ ∃ k, (tasks k).isSome := by
  rw [update_eq]
  dsimp only
  refine ⟨fun k t o ht hc => ?_, fun k t ht hc => pollAll_keeps_pending ht hc, ?_, anyPending_iff⟩
  · obtain ⟨-, hf, hne⟩ := pollAll_drains_published TaskKey.nodup_all (TaskKey.mem_all k) ht hc
    by_cases hk : k = .channels
    · cases h : (pollTasks app).1.state.tasks k with
      | none => exact .inl rfl
      | some t' => exact .inr ⟨hk, t', rfl, hf.1 t' h⟩
    · exact .inl (hne hk)
  · rw [repaints_ne_nil, anyPending_iff]
    exact ⟨fun h => h.elim pollAll_pending_occupied id, .inr⟩

/-! ### The channel list after a channel operation -/

theorem fetchChannels_occupies {app : LdkServerApp} (h : app.state.client.isSome) :
    ((fetchChannels app).state.tasks .channels).isSome := by
  obtain ⟨c, hc⟩ := Option.isSome_iff_exists.1 h
  cases ht : app.state.tasks .channels with
  | some t => rw [fetchChannels, trigger_of_isSome (by simp [ht]), ht]; rfl
  | none => rw [fetchChannels, trigger_of_ok ht hc rfl]; simp

theorem key_of_delivered {k : TaskKey} {app : LdkServerApp} {d : Delivery}
    (h : (pollTask k app).2 = .delivered d) : d.key = k := by
  rcases pollTask_cases k app with ⟨-, hp⟩ | ⟨-, -, -, hp⟩ | ⟨t, o, -, -, hp⟩ <;> rw [hp] at h <;>
    cases h
  rfl

theorem mem_pollAll_cons_of_ne {k : TaskKey} {ks : List TaskKey} {app : LdkServerApp} {d : Delivery}
    (h : Polled.delivered d ∈ (pollAll (k :: ks) app).2) (hk : d.key ≠ k) :
    Polled.delivered d ∈ (pollAll ks (pollTask k app).1).2 := by
  rw [pollAll_cons_snd, List.mem_cons] at h
  exact h.resolve_left fun h' => hk (key_of_delivered h'.symm)

theorem pollAll_channels_occupied {ks : List TaskKey} {app : LdkServerApp} (hks : .channels ∉ ks)
    (hc : app.state.client.isSome)
    (hd : ∃ k i v, k.mutatesChannels ∧ Polled.delivered ⟨k, i, .ok v⟩ ∈ (pollAll ks app).2) :
    ((pollAll ks app).1.state.tasks .channels).isSome := by
  induction ks generalizing app with
  | nil => simp at hd
  | cons k' ks ih =>
    rw [List.mem_cons, not_or] at hks
    obtain ⟨k, i, v, hm, hd⟩ := hd
    rw [pollAll_cons_snd, List.mem_cons] at hd
    rw [pollAll_cons_fst]
    rcases hd with hd | hd
    · have hk : k = k' := key_of_delivered hd.symm
      subst hk
      rcases pollTask_cases k app with ⟨-, hp⟩ | ⟨-, -, -, hp⟩ | ⟨t, o, -, -, hp⟩ <;> rw [hp] at hd ⊢ <;>
        cases hd
      have hocc : ((handleOutcome k (.ok v) (app.take k t.rx)).state.tasks .channels).isSome := by
        rw [handleOutcome_eq, if_pos (by simpa [refetches] using hm)]
        exact fetchChannels_occupies (by simpa using hc)
      rw [(pollAll_frame hks.2 (.inr hocc)).1]
      exact hocc
    · exact ih hks.2 (by rwa [pollTask_client]) ⟨k, i, v, hm, hd⟩

/-- After a pass in which a channel operation succeeded, with a client installed, the channels
slot holds a `list_channels` call spawned during the pass, unless it held one whose outcome had
not been published at the start of the pass, which it then still holds. -/
theorem channels_refetched (app : LdkServerApp) (hc : app.state.client.isSome)
    (hd : ∃ k i v, k.mutatesChannels ∧ Polled.delivered ⟨k, i, .ok v⟩ ∈ (pollTasks app).2) :
    (∃ t, (pollTasks app).1.state.tasks .channels = some t ∧
        (app.rt.calls .channels).length ≤ t.rx) ∨
      ∃ t, app.state.tasks .channels = some t ∧
        (∀ o, app.rt.cell .channels t.rx ≠ some (.published o)) ∧
        (pollTasks app).1.state.tasks .channels = some t := by
  have hfresh : FreshFrom .channels (app.rt.calls .channels).length (pollTasks app).1 →
      ∃ t, (pollTasks app).1.state.tasks .channels = some t ∧
        (app.rt.calls .channels).length ≤ t.rx := by
    intro hf
    obtain ⟨k, i, v, hm, hd⟩ := hd
    have hne : ∀ k' : TaskKey, k'.mutatesChannels = false → k ≠ k' := by
      rintro k' h' rfl; simp [h'] at hm
    have hocc : ((pollTasks app).1.state.tasks .channels).isSome := by
      rw [pollTasks, TaskKey.all] at hd ⊢
      rw [pollAll_cons_fst, pollAll_cons_fst, pollAll_cons_fst]
      refine pollAll_channels_occupied (by decide) (by simpa only [pollTask_client] using hc)
        ⟨k, i, v, hm, ?_⟩
      exact mem_pollAll_cons_of_ne (mem_pollAll_cons_of_ne (mem_pollAll_cons_of_ne hd
        (hne .nodeInfo rfl)) (hne .balances rfl)) (hne .channels rfl)
    obtain ⟨t, ht⟩ := Option.isSome_iff_exists.1 hocc
    exact ⟨t, ht, hf.1 t ht⟩
  cases ht : app.state.tasks .channels with
  | none => exact .inl (hfresh (FreshFrom.pollAll ⟨by simp [ht], le_rfl⟩))
  | some t =>
    by_cases hp : ∃ o, app.rt.cell .channels t.rx = some (.published o)
    · obtain ⟨o, hp⟩ := hp
      exact .inl (hfresh (pollAll_drains_published TaskKey.nodup_all (TaskKey.mem_all _) ht hp).2.1)
    · push_neg at hp
      exact .inr ⟨t, rfl, hp, pollAll_keeps_pending ht hp⟩

/-- A state with a client installed, an `open_channel` call that has published `Ok`, and, when
`running`, a `list_channels` call still running in the channels slot. -/
def openChannelSucceeded (running : Bool) : LdkServerApp :=
  let app : LdkServerApp := ⟨{ AppState.default with client := some ⟨0⟩ }, .empty⟩
  let app := if running then app.spawnTask .channels ⟨0⟩ {} else app
  let app := app.spawnTask .openChannel ⟨0⟩ ⟨"02ab", "127.0.0.1:9735", 100000, none, none, false⟩
  { app with rt := app.rt.publish .openChannel 0 (.ok ⟨"1"⟩) }

theorem openChannelSucceeded_delivers (running : Bool) :
    Polled.delivered ⟨.openChannel, 0, .ok ⟨"1"⟩⟩ ∈ (pollTasks (openChannelSucceeded running)).2 := by
  have h := fun app => @pollAll_drains_published .openChannel TaskKey.all app ⟨0⟩ (.ok ⟨"1"⟩)
    TaskKey.nodup_all (TaskKey.mem_all _)
  cases running
  · exact (h (openChannelSucceeded false) rfl rfl).1
  · exact (h (openChannelSucceeded true) rfl rfl).1

theorem channels_refetched_after_open :
    ((openChannelSucceeded false).state.client.isSome ∧
      ∃ k i v, k.mutatesChannels ∧
        Polled.delivered ⟨k, i, .ok v⟩ ∈ (pollTasks (openChannelSucceeded false)).2) ∧
    ((∃ t, (pollTasks (openChannelSucceeded false)).1.state.tasks .channels = some t ∧
        ((openChannelSucceeded false).rt.calls .channels).length ≤ t.rx) ∨
      ∃ t, (openChannelSucceeded false).state.tasks .channels = some t ∧
        (∀ o, (openChannelSucceeded false).rt.cell .channels t.rx ≠ some (.published o)) ∧
        (pollTasks (openChannelSucceeded false)).1.state.tasks .channels = some t) :=
  have hd : ∃ k i v, k.mutatesChannels ∧
      Polled.delivered ⟨k, i, .ok v⟩ ∈ (pollTasks (openChannelSucceeded false)).2 :=
    ⟨.openChannel, 0, ⟨"1"⟩, rfl, openChannelSucceeded_delivers false⟩
  ⟨⟨rfl, hd⟩, channels_refetched _ rfl hd⟩

/-- A channel operation's success does not lead to a fresh `list_channels` call when the
channels slot still holds a running one. -/
theorem channels_refetch_skipped :
    ∃ app : LdkServerApp, app.state.client.isSome ∧
      (∃ k i v, k.mutatesChannels ∧ Polled.delivered ⟨k, i, .ok v⟩ ∈ (pollTasks app).2) ∧
      ¬ ∃ t, (pollTasks app).1.state.tasks .channels = some t ∧
        (app.rt.calls .channels).length ≤ t.rx := by
  refine ⟨openChannelSucceeded true, rfl,
    ⟨.openChannel, 0, ⟨"1"⟩, rfl, openChannelSucceeded_delivers true⟩, ?_⟩
  have hrun : (openChannelSucceeded true).rt.cell .channels 0 = some .running := rfl
  rintro ⟨t, ht, hle⟩
  rw [pollTasks, pollAll_keeps_pending (t := ⟨0⟩) rfl (by simp [hrun])] at ht
  cases ht
  exact absurd hle (by decide)

end LdkServerApp

end LdkServerGui
