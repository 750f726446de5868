import LdkServerGui.Proofs.Run

/-!
# The requests the app issues

Every call an operation spawns goes through the client installed when the operation ends
(`exec_calls_through_client`): the triggers spawn with `state.client`, `connect` installs its
client before its three fetches, and a drain pass keeps the client. So no request leaves while
no client is installed. The calls spawned before keep their clients (`SpawnsThrough`).

A drain pass issues at most one request, a `list_channels` call (`pollTasks_at_most_one_call`):
the handlers only ever spawn through `fetch_channels`, and once that has filled the channels
slot with a running call the slot stays occupied to the end of the pass (`PassInv`).
-/

namespace LdkServerGui
open LdkServerApp

theorem List.map_modify_eq {α β : Type} (f : α → α) (g : α → β) (hg : ∀ a, g (f a) = g a) :
    ∀ (l : List α) (i : Nat), (l.modify f i).map g = l.map g
  | [], _ => by simp
  | a :: l, 0 => by simp [List.modify, List.modifyHead, hg]
  | a :: l, i + 1 => by simp [List.modify_succ_cons, List.map_modify_eq f g hg l i]

@[simp] theorem Runtime.map_client_modifyCell (rt : Runtime) (k k' : TaskKey) (i : Nat) (f) :
    ((rt.modifyCell k i f).calls k').map (·.client) = (rt.calls k').map (·.client) := by
  by_cases h : k' = k
  · subst h
    simp only [Runtime.modifyCell, Function.update_same]
    exact List.map_modify_eq (fun c : Call _ => { c with cell := f c.cell }) (·.client) (fun _ => rfl) _ _
  · rw [Runtime.calls_modifyCell_of_ne _ _ _ h]

/-! ### Calls go through the installed client -/

/-- The calls of `rt'` are those of `rt`, with their clients, followed by calls spawned through
`client`. -/
def SpawnsThrough (client : Option LdkServerClient) (rt rt' : Runtime) : Prop :=
  ∀ k, ∃ l, (rt'.calls k).map (·.client) = (rt.calls k).map (·.client) ++ l ∧ ∀ c ∈ l, client = some c

namespace SpawnsThrough
variable {client : Option LdkServerClient} {rt rt' rt'' : Runtime}

theorem refl (client : Option LdkServerClient) (rt : Runtime) : SpawnsThrough client rt rt :=
  fun _ => ⟨[], by simp, by simp⟩

theorem trans (h : SpawnsThrough client rt rt') (h' : SpawnsThrough client rt' rt'') :
    SpawnsThrough client rt rt'' := fun k => by
  obtain ⟨l, hl, hc⟩ := h k
  obtain ⟨l', hl', hc'⟩ := h' k
  refine ⟨l ++ l', by rw [hl', hl, List.append_assoc], fun c hc'' => ?_⟩
  rcases List.mem_append.1 hc'' with h | h
  · exact hc c h
  · exact hc' c h

theorem of_calls_eq (h : ∀ k, rt'.calls k = rt.calls k) : SpawnsThrough client rt rt' :=
  fun k => ⟨[], by simp [h k], by simp⟩

theorem modifyCell (k : TaskKey) (i : Nat) (f) : SpawnsThrough client rt (rt.modifyCell k i f) :=
  fun k' => ⟨[], by simp, by simp⟩

theorem spawn (k : TaskKey) (c : LdkServerClient) (r : Request k) :
    SpawnsThrough (some c) rt (rt.spawn k c r) := fun k' => by
  by_cases h : k' = k
  · subst h; exact ⟨[c], by simp, by simp⟩
  · exact ⟨[], by simp [h], by simp⟩

end SpawnsThrough

theorem spawnsThrough_trigger (k : TaskKey) (request : AppState → Except String (Request k))
    (app : LdkServerApp) :
    (trigger k request app).state.client = app.state.client ∧
      SpawnsThrough app.state.client app.rt (trigger k request app).rt := by
  rcases trigger_cases k request app with h | ⟨m, h⟩ | ⟨c, r, -, hc, h⟩ <;> rw [h]
  · exact ⟨rfl, .refl _ _⟩
  · exact ⟨rfl, .refl _ _⟩
  · exact ⟨rfl, hc ▸ .spawn k c r⟩

theorem SpawnsThrough.trigger_right {rt : Runtime} {app : LdkServerApp}
    (h : SpawnsThrough app.state.client rt app.rt) (k : TaskKey)
    (request : AppState → Except String (Request k)) :
    SpawnsThrough (trigger k request app).state.client rt (trigger k request app).rt := by
  obtain ⟨hc, hs⟩ := spawnsThrough_trigger k request app
  rw [hc]
  exact h.trans hs

theorem spawnsThrough_fetchChannels (app : LdkServerApp) :
    (fetchChannels app).state.client = app.state.client ∧
      SpawnsThrough app.state.client app.rt (fetchChannels app).rt :=
  spawnsThrough_trigger _ _ app

theorem spawnsThrough_pollTask (k : TaskKey) (app : LdkServerApp) :
    SpawnsThrough app.state.client app.rt (pollTask k app).1.rt := by
  rcases pollTask_cases k app with ⟨-, hp⟩ | ⟨-, -, -, hp⟩ | ⟨t, o, -, -, hp⟩ <;> rw [hp]
  · exact .refl _ _
  · exact .refl _ _
  · rw [handleOutcome_eq]
    have htake : SpawnsThrough app.state.client app.rt (app.take k t.rx).rt := by
      rw [take_rt]; exact .modifyCell _ _ _
    dsimp only
    split
    · have h := (spawnsThrough_fetchChannels ((app.take k t.rx).modifyState (outcomeState k o))).2
      rw [modifyState_state, outcomeState_client] at h
      exact htake.trans h
    · exact htake

theorem spawnsThrough_pollAll (ks : List TaskKey) (app : LdkServerApp) :
    SpawnsThrough app.state.client app.rt (pollAll ks app).1.rt := by
  induction ks generalizing app with
  | nil => exact .refl _ _
  | cons k ks ih =>
    have h := ih (pollTask k app).1
    rw [pollTask_client] at h
    rw [pollAll_cons_fst]
    exact (spawnsThrough_pollTask k app).trans h

theorem exec_calls_through_client (op : Op) (app : LdkServerApp) :
    SpawnsThrough (exec op app).1.state.client app.rt (exec op app).1.rt := by
  cases hq : op.quiet
  · cases op <;> simp only [Op.quiet, Bool.true_eq_false] at hq
    case trigger k =>
      obtain ⟨r, hr⟩ := triggerOf_eq_trigger k
      simp only [exec, hr]
      exact (SpawnsThrough.refl _ _).trigger_right k r
    case connect target certRead newClient =>
      rcases connect_cases target certRead newClient app with ⟨m, hc⟩ | ⟨e, hc⟩ | ⟨c, hc⟩ <;>
        simp only [exec, hc]
      · exact .refl _ _
      · exact .refl _ _
      · apply SpawnsThrough.trigger_right; apply SpawnsThrough.trigger_right
        apply SpawnsThrough.trigger_right
        exact .refl _ _
    case disconnect => exact .refl _ _
    case poll =>
      rw [exec_poll]
      dsimp only
      rw [pollTasks, pollAll_client]
      exact spawnsThrough_pollAll _ app
    case complete k i o =>
      simp only [exec, LdkServerApp.complete]
      split
      · exact .modifyCell _ _ _
      · exact .refl _ _
    case refreshPayments =>
      simp only [exec, fetchPayments]
      exact (SpawnsThrough.refl _ _).trigger_right _ _
  · exact .of_calls_eq fun k => by rw [(exec_quiet hq app).1]

/-! ### One request per drain pass -/

/-- Since the start of a pass at `app0`: no key but `channels` has a new call, and the channels
key has at most one, which then sits in the channels slot, still running. -/
def PassInv (app0 app : LdkServerApp) : Prop :=
  (∀ k, k ≠ .channels → (app.rt.calls k).length = (app0.rt.calls k).length) ∧
    ((app.rt.calls .channels).length = (app0.rt.calls .channels).length ∨
      (app.rt.calls .channels).length = (app0.rt.calls .channels).length + 1 ∧
        app.state.tasks .channels = some ⟨(app0.rt.calls .channels).length⟩ ∧
        app.rt.cell .channels (app0.rt.calls .channels).length = some .running)

namespace PassInv
variable {app0 app : LdkServerApp}

theorem refl (app : LdkServerApp) : PassInv app app := ⟨fun _ _ => rfl, .inl rfl⟩

theorem fetchChannels (h : PassInv app0 app) : PassInv app0 (LdkServerApp.fetchChannels app) := by
  rcases trigger_cases .channels (fun _ => .ok {}) app with h1 | ⟨m, h1⟩ | ⟨c, r, hk, -, h1⟩ <;>
    rw [LdkServerApp.fetchChannels, h1]
  · exact h
  · exact h
  · have hn : (app.rt.calls .channels).length = (app0.rt.calls .channels).length := by
      rcases h.2 with h2 | ⟨-, h2, -⟩
      · exact h2
      · simp [hk] at h2
    refine ⟨fun k hk' => by simpa [hk'] using h.1 k hk', .inr ⟨by simp [hn], by simp [hn], ?_⟩⟩
    simp [Runtime.cell_spawn_self, hn]

theorem pollTask (h : PassInv app0 app) (k : TaskKey) : PassInv app0 (LdkServerApp.pollTask k app).1 := by
  rcases pollTask_cases k app with ⟨-, hp⟩ | ⟨-, -, -, hp⟩ | ⟨t, o, ht, hc, hp⟩ <;> rw [hp]
  · exact h
  · exact h
  · have h1 : PassInv app0 ((app.take k t.rx).modifyState (outcomeState k o)) := by
      refine ⟨fun k' hk' => by simpa using h.1 k' hk', ?_⟩
      by_cases hkc : k = .channels
      · subst hkc
        rcases h.2 with h2 | ⟨-, h2, h3⟩
        · exact .inl (by simpa using h2)
        · rw [ht, Option.some_inj] at h2
          subst h2
          simp [h3] at hc
      · simpa [Ne.symm hkc] using h.2
    rw [handleOutcome_eq]
    split
    · exact h1.fetchChannels
    · exact h1

theorem pollAll (h : PassInv app0 app) (ks : List TaskKey) :
    PassInv app0 (LdkServerApp.pollAll ks app).1 := by
  induction ks generalizing app with
  | nil => exact h
  | cons k ks ih => exact ih (h.pollTask k)

end PassInv

theorem pollTasks_at_most_one_call (app : LdkServerApp) : PassInv app (pollTasks app).1 :=
  (PassInv.refl app).pollAll TaskKey.all

end LdkServerGui
