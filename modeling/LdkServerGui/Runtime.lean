import LdkServerGui.State
import LdkServerGui.Task

/-!
# The spawned calls

What the tokio runtime (native) or the browser's event loop (wasm32) holds: every call spawned
so far, per key and in spawn order, with the client it was issued through, its request and the
`Cell` its outcome goes through. `Task.lean` shows both substrates' handles behave as a `Cell`.
Keeping the calls per key is how the typed channels `ChannelTaskHandle<T>` are modelled: a
handle in slot `k` can only read an outcome of type `Outcome k`.
-/

namespace LdkServerGui

structure Call (k : TaskKey) where
  client : LdkServerClient
  request : Request k
  cell : Cell (Outcome k)

/-- Every call spawned so far, per key, in spawn order. -/
structure Runtime where
  calls : (k : TaskKey) → List (Call k)

namespace Runtime

def empty : Runtime := ⟨fun _ => []⟩

/-- Spawn the call of `k` through `client` with `request`; its cell starts running. -/
def spawn (rt : Runtime) (k : TaskKey) (client : LdkServerClient) (request : Request k) : Runtime :=
  ⟨Function.update rt.calls k (rt.calls k ++ [⟨client, request, .running⟩])⟩

def cell (rt : Runtime) (k : TaskKey) (i : Nat) : Option (Cell (Outcome k)) :=
  (rt.calls k)[i]?.map (·.cell)

def modifyCell (rt : Runtime) (k : TaskKey) (i : Nat) (f : Cell (Outcome k) → Cell (Outcome k)) :
    Runtime :=
  ⟨Function.update rt.calls k ((rt.calls k).modify (fun c => { c with cell := f c.cell }) i)⟩

def publish (rt : Runtime) (k : TaskKey) (i : Nat) (o : Outcome k) : Runtime :=
  rt.modifyCell k i (Cell.publish o)

def tryTake (rt : Runtime) (k : TaskKey) (h : ChannelTaskHandle) : Option (Outcome k) × Runtime :=
  match rt.cell k h.rx with
  | some c =>
    match c.tryTake with
    | (some o, c') => (some o, rt.modifyCell k h.rx fun _ => c')
    | (none, _) => (none, rt)
  | none => (none, rt)

@[simp] theorem calls_spawn_self (rt : Runtime) (k : TaskKey) (c : LdkServerClient) (r : Request k) :
    (rt.spawn k c r).calls k = rt.calls k ++ [⟨c, r, .running⟩] := Function.update_same _ _ _

@[simp] theorem calls_spawn_of_ne (rt : Runtime) {k k' : TaskKey} (c : LdkServerClient)
    (r : Request k) (h : k' ≠ k) : (rt.spawn k c r).calls k' = rt.calls k' :=
  Function.update_noteq h _ _

@[simp] theorem calls_modifyCell_of_ne (rt : Runtime) {k k' : TaskKey} (i : Nat) (f) (h : k' ≠ k) :
    (rt.modifyCell k i f).calls k' = rt.calls k' := Function.update_noteq h _ _

@[simp] theorem length_calls_modifyCell (rt : Runtime) (k k' : TaskKey) (i : Nat) (f) :
    ((rt.modifyCell k i f).calls k').length = (rt.calls k').length := by
  by_cases h : k' = k
  · subst h; simp [modifyCell]
  · simp [h]

theorem cell_spawn_self (rt : Runtime) (k : TaskKey) (c : LdkServerClient) (r : Request k) (i : Nat) :
    (rt.spawn k c r).cell k i = if i = (rt.calls k).length then some .running else rt.cell k i := by
  simp only [cell, calls_spawn_self]
  split_ifs with h
  · simp [h]
  · rcases Nat.lt_or_ge i (rt.calls k).length with hi | hi
    · rw [List.getElem?_append_left hi]
    · rw [List.getElem?_append_right hi, List.getElem?_eq_none (by simp; omega),
        List.getElem?_eq_none hi]

@[simp] theorem cell_spawn_of_ne (rt : Runtime) {k k' : TaskKey} (c : LdkServerClient)
    (r : Request k) (i : Nat) (h : k' ≠ k) : (rt.spawn k c r).cell k' i = rt.cell k' i := by
  simp [cell, h]

theorem cell_modifyCell_self (rt : Runtime) (k : TaskKey) (i j : Nat) (f) :
    (rt.modifyCell k i f).cell k j = if i = j then (rt.cell k j).map f else rt.cell k j := by
  simp only [cell, modifyCell, Function.update_same, List.getElem?_modify]
  split_ifs <;> cases (rt.calls k)[j]? <;> rfl

@[simp] theorem cell_modifyCell_of_ne (rt : Runtime) {k k' : TaskKey} (i j : Nat) (f) (h : k' ≠ k) :
    (rt.modifyCell k i f).cell k' j = rt.cell k' j := by
  simp [cell, h]

theorem tryTake_eq (rt : Runtime) (k : TaskKey) (h : ChannelTaskHandle) :
    rt.tryTake k h = match rt.cell k h.rx with
      | some (.published o) => (some o, rt.modifyCell k h.rx fun _ => .taken)
      | _ => (none, rt) := by
  unfold tryTake
  rcases rt.cell k h.rx with _ | (_ | o | _) <;> rfl

end Runtime

/-- `LdkServerApp`: the state, and the runtime the calls are spawned on. -/
structure LdkServerApp where
  state : AppState
  rt : Runtime

end LdkServerGui
