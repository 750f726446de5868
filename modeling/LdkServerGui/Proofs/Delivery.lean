import LdkServerGui.Proofs.SingleFlight

/-!
# Delivery

Each outcome reaches its handler once. `callEvents k i tr` are the events of a run about call
`i` of `k`; `CallLog` says what they are, given the call's cell: nothing while it runs, its
publication once it has published, its publication then its delivery (with the same outcome)
once the outcome has been taken. A drain pass changes a call only as `CallStep` allows
(`pollAll_callStep`); a completion only publishes. With `SlotInv` (every published outcome sits
in its slot), a pass delivers every outcome published before it (`DeliveryInv.drained`).
-/

namespace LdkServerGui
open LdkServerApp

def Event.about (k : TaskKey) (i : Nat) : Event → Bool
  | .published d | .delivered d => d.key == k && d.call == i
  | _ => false

def callEvents (k : TaskKey) (i : Nat) (tr : List Event) : List Event :=
  tr.filter (Event.about k i)

@[simp] theorem callEvents_nil (k : TaskKey) (i : Nat) : callEvents k i [] = [] := rfl

@[simp] theorem callEvents_append (k : TaskKey) (i : Nat) (tr tr' : List Event) :
    callEvents k i (tr ++ tr') = callEvents k i tr ++ callEvents k i tr' :=
  List.filter_append _ _

@[simp] theorem callEvents_delivered (k k' : TaskKey) (i i' : Nat) (o : Outcome k') :
    callEvents k i [.delivered ⟨k', i', o⟩] = if k' = k ∧ i' = i then [.delivered ⟨k', i', o⟩] else [] := by
  by_cases h : k' = k ∧ i' = i <;> simp [callEvents, Event.about, h]

@[simp] theorem callEvents_published (k k' : TaskKey) (i i' : Nat) (o : Outcome k') :
    callEvents k i [.published ⟨k', i', o⟩] = if k' = k ∧ i' = i then [.published ⟨k', i', o⟩] else [] := by
  by_cases h : k' = k ∧ i' = i <;> simp [callEvents, Event.about, h]

/-! ### What a pass does to one call -/

/-- How a drain pass can change call `i` of `k`: its cell `c` becomes `c'` and `es` are the
events about it. Nothing happens, a call is spawned at a free index, or the published outcome
is delivered and taken. -/
def CallStep (k : TaskKey) (i : Nat) (c c' : Option (Cell (Outcome k))) (es : List Event) : Prop :=
  (c' = c ∧ es = []) ∨ (c = none ∧ (c' = none ∨ c' = some .running) ∧ es = []) ∨
    ∃ o, c = some (.published o) ∧ c' = some .taken ∧ es = [.delivered ⟨k, i, o⟩]

namespace CallStep
variable {k : TaskKey} {i : Nat} {c c' c'' : Option (Cell (Outcome k))} {es es' : List Event}

theorem refl (c : Option (Cell (Outcome k))) : CallStep k i c c [] := .inl ⟨rfl, rfl⟩

theorem trans (h : CallStep k i c c' es) (h' : CallStep k i c' c'' es') :
    CallStep k i c c'' (es ++ es') := by
  rcases h with ⟨rfl, rfl⟩ | ⟨rfl, hc', rfl⟩ | ⟨o, rfl, rfl, rfl⟩
  · simpa using h'
  · rcases h' with ⟨rfl, rfl⟩ | ⟨rfl, hc'', rfl⟩ | ⟨o, rfl, -, -⟩
    · exact .inr (.inl ⟨rfl, hc', rfl⟩)
    · exact .inr (.inl ⟨rfl, hc'', rfl⟩)
    · simp at hc'
  · rcases h' with ⟨rfl, rfl⟩ | ⟨h, -, -⟩ | ⟨o', h, -, -⟩
    · exact .inr (.inr ⟨o, rfl, rfl, rfl⟩)
    · cases h
    · cases h

end CallStep

theorem cell_trigger (k' : TaskKey) (request : AppState → Except String (Request k'))
    (app : LdkServerApp) (k : TaskKey) (i : Nat) :
    CallStep k i (app.rt.cell k i) ((trigger k' request app).rt.cell k i) [] := by
  rcases trigger_cases k' request app with h | ⟨m, h⟩ | ⟨c, r, -, -, h⟩ <;> rw [h]
  · exact .refl _
  · exact .refl _
  · by_cases hk : k = k'
    · subst hk
      rw [spawnTask_rt, Runtime.cell_spawn_self]
      split_ifs with hi
      · refine .inr (.inl ⟨?_, .inr rfl, rfl⟩)
        simp [Runtime.cell, hi]
      · exact .refl _
    · rw [spawnTask_rt, Runtime.cell_spawn_of_ne _ _ _ _ hk]; exact .refl _

theorem cell_handleOutcome (k' : TaskKey) (o : Outcome k') (app : LdkServerApp) (k : TaskKey)
    (i : Nat) : CallStep k i (app.rt.cell k i) ((handleOutcome k' o app).rt.cell k i) [] := by
  rw [handleOutcome_eq]
  split
  · exact cell_trigger .channels _ _ k i
  · exact .refl _

theorem pollTask_callStep (k' : TaskKey) (app : LdkServerApp) (k : TaskKey) (i : Nat) :
    CallStep k i (app.rt.cell k i) ((pollTask k' app).1.rt.cell k i)
      (callEvents k i (Polled.events [(pollTask k' app).2])) := by
  rcases pollTask_cases k' app with ⟨-, hp⟩ | ⟨-, -, -, hp⟩ | ⟨t, o, -, hc, hp⟩ <;> rw [hp]
  · exact .refl _
  · exact .refl _
  · simp only [Polled.events, callEvents_delivered]
    by_cases h : k' = k ∧ t.rx = i
    · obtain ⟨rfl, rfl⟩ := h
      have := cell_handleOutcome k' o (app.take k' t.rx) k' t.rx
      rw [take_rt, Runtime.cell_modifyCell_self, if_pos rfl, hc] at this
      rcases this with ⟨h1, -⟩ | ⟨h1, -⟩ | ⟨o', h1, -⟩ <;> simp at h1
      exact .inr (.inr ⟨o, hc, h1, by simp⟩)
    · rw [if_neg h]
      have := cell_handleOutcome k' o (app.take k' t.rx) k i
      by_cases hk : k = k'
      · subst hk
        rwa [take_rt, Runtime.cell_modifyCell_self, if_neg (fun hi => h ⟨rfl, hi⟩)] at this
      · rwa [take_rt, Runtime.cell_modifyCell_of_ne _ _ _ _ hk] at this

@[simp] theorem Polled.events_cons (p : Polled) (ps : List Polled) :
    Polled.events (p :: ps) = Polled.events [p] ++ Polled.events ps := by
  cases p <;> rfl

theorem pollAll_callStep (ks : List TaskKey) (app : LdkServerApp) (k : TaskKey) (i : Nat) :
    CallStep k i (app.rt.cell k i) ((pollAll ks app).1.rt.cell k i)
      (callEvents k i (Polled.events (pollAll ks app).2)) := by
  induction ks generalizing app with
  | nil => exact .refl _
  | cons k' ks ih =>
    rw [pollAll_cons_fst, pollAll_cons_snd, Polled.events_cons, callEvents_append]
    exact (pollTask_callStep k' app k i).trans (ih _)

theorem not_published_of_mem_events {ps : List Polled} {e : Event} (h : e ∈ Polled.events ps) :
    ∃ d, e = .delivered d := by
  induction ps with
  | nil => cases h
  | cons p ps ih =>
    rw [Polled.events_cons, List.mem_append] at h
    rcases h with h | h
    · cases p <;> simp [Polled.events] at h
      exact ⟨_, h⟩
    · exact ih h

/-! ### The log of each call over a run -/

/-- What the events of a run say about call `i` of `k`, given its cell: nothing while it runs
(or before it is spawned), its publication once it has published, and its publication then its
delivery once the outcome has been taken. -/
def CallLog (k : TaskKey) (i : Nat) : Option (Cell (Outcome k)) → List Event → Prop
  | some (.published o), es => es = [.published ⟨k, i, o⟩]
  | some .taken, es => ∃ o, es = [.published ⟨k, i, o⟩, .delivered ⟨k, i, o⟩]
  | _, es => es = []

theorem CallLog.step {k : TaskKey} {i : Nat} {c c' : Option (Cell (Outcome k))} {es es' : List Event}
    (h : CallLog k i c es) (hs : CallStep k i c c' es') : CallLog k i c' (es ++ es') := by
  rcases hs with ⟨rfl, rfl⟩ | ⟨rfl, hc | hc, rfl⟩ | ⟨o, rfl, rfl, rfl⟩
  · simpa using h
  · subst hc; simpa using h
  · subst hc; simpa [CallLog] using h
  · exact ⟨o, by simp [show es = _ from h]⟩

/-- Every outcome published before a drain pass ended was delivered before it. -/
def DrainsDeliver (tr : List Event) : Prop :=
  ∀ n, tr[n]? = some .drained → ∀ d, .published d ∈ tr.take n → .delivered d ∈ tr.take n

/-- The invariant of a run: single flight, the log of every call, and the drain passes. -/
structure DeliveryInv (app : LdkServerApp) (tr : List Event) : Prop where
  slot : ∀ k, SlotInv app k
  log : ∀ k i, CallLog k i (app.rt.cell k i) (callEvents k i tr)
  drained : DrainsDeliver tr

theorem DrainsDeliver.append {tr es : List Event} (h : DrainsDeliver tr) (hes : .drained ∉ es) :
    DrainsDeliver (tr ++ es) := by
  intro n hn d hd
  rcases Nat.lt_or_ge n tr.length with hl | hl
  · rw [List.getElem?_append_left hl] at hn
    rw [List.take_append_of_le_length hl.le] at hd ⊢
    exact h n hn d hd
  · rw [List.getElem?_append_right hl] at hn
    exact absurd (List.getElem?_mem hn) hes

theorem DeliveryInv.complete {app : LdkServerApp} {tr : List Event} (h : DeliveryInv app tr)
    (k' : TaskKey) (i' : Nat) (o : Outcome k') :
    DeliveryInv (LdkServerApp.complete k' i' o app).1 (tr ++ (LdkServerApp.complete k' i' o app).2) := by
  unfold LdkServerApp.complete
  split
  · rename_i hrun
    refine ⟨fun k => (h.slot k).complete k' i' o |> fun hs => ?_, fun k i => ?_,
      h.drained.append (by simp)⟩
    · unfold LdkServerApp.complete at hs; rwa [hrun] at hs
    · have hl := h.log k i
      by_cases hk : k = k'
      · subst hk
        simp only [Runtime.publish, Runtime.cell_modifyCell_self, callEvents_append]
        by_cases hi : i' = i
        · subst hi
          rw [hrun] at hl ⊢
          simp only [CallLog] at hl
          simp [CallLog, hl]
        · rw [if_neg hi]
          simpa [hi] using hl
      · simp only [Runtime.publish, callEvents_append, Runtime.cell_modifyCell_of_ne _ _ _ _ hk]
        simpa [Ne.symm hk] using hl
  · simpa using h

theorem Polled.mem_events_of_mem {ps : List Polled} {d : Delivery} (h : Polled.delivered d ∈ ps) :
    Event.delivered d ∈ Polled.events ps := by
  induction ps with
  | nil => cases h
  | cons p ps ih =>
    rw [Polled.events_cons, List.mem_append]
    rcases List.mem_cons.1 h with rfl | h
    · exact .inl (List.mem_singleton_self _)
    · exact .inr (ih h)

theorem DrainsDeliver.snoc {tr : List Event} (h : DrainsDeliver tr)
    (hd : ∀ d, .published d ∈ tr → .delivered d ∈ tr) : DrainsDeliver (tr ++ [.drained]) := by
  intro n hn d hp
  rcases Nat.lt_or_ge n tr.length with hl | hl
  · rw [List.getElem?_append_left hl] at hn
    rw [List.take_append_of_le_length hl.le] at hp ⊢
    exact h n hn d hp
  · have hn' : n = tr.length := by
      have := (List.getElem?_eq_some_iff.1 hn).1; simp at this; omega
    subst hn'
    rw [List.take_left] at hp ⊢
    exact hd d hp

namespace DeliveryInv
variable {app app' : LdkServerApp} {tr : List Event}

theorem quiet (h : DeliveryInv app tr) (hs : ∀ k, SlotInv app' k)
    (hc : ∀ k i, CallStep k i (app.rt.cell k i) (app'.rt.cell k i) []) {es : List Event}
    (hes : es = [] ∨ es = [.disconnected]) : DeliveryInv app' (tr ++ es) := by
  refine ⟨hs, fun k i => ?_, h.drained.append (by rcases hes with rfl | rfl <;> simp)⟩
  have hl : callEvents k i es = [] := by rcases hes with rfl | rfl <;> rfl
  simpa [hl] using (h.log k i).step (hc k i)

theorem frame (h : DeliveryInv app tr) (ht : app'.state.tasks = app.state.tasks) (hrt : app'.rt = app.rt)
    {es : List Event} (hes : es = [] ∨ es = [.disconnected]) : DeliveryInv app' (tr ++ es) :=
  h.quiet (fun k => (h.slot k).congr (congrFun ht k) (by rw [hrt])) (fun k i => by rw [hrt]; exact .refl _)
    hes

theorem frame' (h : DeliveryInv app tr) (ht : app'.state.tasks = app.state.tasks)
    (hrt : app'.rt = app.rt) : DeliveryInv app' tr := by
  simpa using h.frame ht hrt (Or.inl (rfl : ([] : List Event) = []))

theorem trigger (h : DeliveryInv app tr) (k' : TaskKey)
    (request : AppState → Except String (Request k')) :
    DeliveryInv (LdkServerApp.trigger k' request app) tr := by
  simpa using h.quiet (fun k => (h.slot k).trigger k' request) (cell_trigger k' request app)
    (Or.inl (rfl : ([] : List Event) = []))

theorem delivered_or_published (h : DeliveryInv app tr) {k : TaskKey} {i : Nat} {o : Outcome k}
    (hd : .published ⟨k, i, o⟩ ∈ tr) :
    .delivered ⟨k, i, o⟩ ∈ tr ∨ app.rt.cell k i = some (.published o) := by
  have hm : Event.published ⟨k, i, o⟩ ∈ callEvents k i tr := by simp [callEvents, Event.about, hd]
  have hl := h.log k i
  rcases hc : app.rt.cell k i with _ | (_ | o' | _) <;> rw [hc] at hl <;> simp only [CallLog] at hl
  · simp [hl] at hm
  · simp [hl] at hm
  · simp [hl] at hm; subst hm; exact .inr rfl
  · obtain ⟨o', hl⟩ := hl
    simp [hl] at hm; subst hm
    exact .inl (List.mem_of_mem_filter (p := Event.about k i) (by rw [← callEvents, hl]; simp))

theorem poll (h : DeliveryInv app tr) :
    DeliveryInv (pollTasks app).1 (tr ++ (Polled.events (pollTasks app).2 ++ [.drained])) := by
  refine ⟨fun k => (h.slot k).pollAll _, fun k i => ?_, ?_⟩
  · have := (h.log k i).step (pollAll_callStep TaskKey.all app k i)
    simpa [callEvents, Event.about, List.filter_append] using this
  · rw [← List.append_assoc]
    refine (h.drained.append fun hd => ?_).snoc fun d hd => ?_
    · obtain ⟨_, h'⟩ := not_published_of_mem_events hd; cases h'
    · rw [List.mem_append] at hd ⊢
      rcases hd with hd | hd
      · obtain ⟨k, i, o⟩ := d
        rcases h.delivered_or_published hd with hd | hc
        · exact .inl hd
        · have ht : app.state.tasks k = some ⟨i⟩ := ((h.slot k) i).1 ⟨_, hc, rfl⟩
          exact .inr (Polled.mem_events_of_mem
            (pollAll_drains_published TaskKey.nodup_all (TaskKey.mem_all k) ht hc).1)
      · obtain ⟨_, h'⟩ := not_published_of_mem_events hd; cases h'

theorem exec (h : DeliveryInv app tr) (op : Op) :
    DeliveryInv (LdkServerGui.exec op app).1 (tr ++ (LdkServerGui.exec op app).2) := by
  cases hq : op.quiet
  · cases op <;> simp only [Op.quiet, Bool.true_eq_false] at hq
    case trigger k' =>
      obtain ⟨r, hr⟩ := triggerOf_eq_trigger k'
      simp only [LdkServerGui.exec, hr, List.append_nil]
      exact h.trigger k' r
    case connect target certRead newClient =>
      rcases connect_cases target certRead newClient app with ⟨m, hc⟩ | ⟨e, hc⟩ | ⟨c, hc⟩ <;>
        simp only [LdkServerGui.exec, hc]
      · apply h.frame <;> first | rfl | exact .inl rfl
      · apply h.frame <;> first | rfl | exact .inl rfl
      · rw [List.append_nil]
        apply DeliveryInv.trigger; apply DeliveryInv.trigger; apply DeliveryInv.trigger
        apply h.frame' <;> rfl
    case disconnect => apply h.frame <;> first | rfl | exact .inr rfl
    case poll => rw [exec_poll]; exact h.poll
    case complete k' i o => exact h.complete k' i o
    case refreshPayments =>
      simp only [LdkServerGui.exec, fetchPayments, List.append_nil]
      apply DeliveryInv.trigger
      apply h.frame' <;> rfl
  · obtain ⟨hrt, hcore, hev⟩ := exec_quiet hq app
    rw [hev]
    exact h.frame (congrArg Core.tasks hcore :) hrt (.inl rfl)

end DeliveryInv

end LdkServerGui
