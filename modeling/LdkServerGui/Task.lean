import Mathlib.Data.List.Basic

/-!
# Task handles on the two substrates (`task.rs`)

`spawn_with_runtime` (native) hands the outcome of the spawned future over a
`std::sync::mpsc` channel, `spawn_local` (wasm32) through an `Rc<RefCell<Option<_>>>`; the app
only ever calls `try_take` on the handle. Each substrate is a state machine driven by two
events, the spawned computation running to its end (`finish`) and one `try_take` call (`poll`).

Both are images of `Cell`, a one-shot cell (`NativeTask.ofCell`, `WasmTask.ofCell` commute with
both events), so `results` agrees on every interleaving (`results_ofCell`); the cell's own
results are the ones `promised` describes: `none` until the computation finishes, the outcome
at the first call after, `none` from then on. The app (`Runtime`) is built on `Cell`.
-/

namespace LdkServerGui

/-- The lifecycle of one outcome as `try_take` sees it: the computation is still running, it
has published an outcome nobody has taken, or the outcome has been taken. -/
inductive Cell (α : Type) where
  | running
  | published (o : α)
  | taken
deriving DecidableEq, Repr

namespace Cell
variable {α : Type}

def publish (o : α) : Cell α → Cell α
  | running => published o
  | c => c

def tryTake : Cell α → Option α × Cell α
  | published o => (some o, taken)
  | c => (none, c)

def isTaken : Cell α → Bool
  | taken => true
  | _ => false

@[simp] theorem publish_running (o : α) : (running : Cell α).publish o = published o := rfl
@[simp] theorem tryTake_published (o : α) : (published o).tryTake = (some o, taken) := rfl
@[simp] theorem tryTake_running : (running : Cell α).tryTake = (none, running) := rfl
@[simp] theorem tryTake_taken : (taken : Cell α).tryTake = (none, taken) := rfl

theorem isTaken_publish (o : α) (c : Cell α) : (c.publish o).isTaken = c.isTaken := by
  cases c <;> rfl

theorem tryTake_eq_some {c c' : Cell α} {o : α} (h : c.tryTake = (some o, c')) :
    c = published o ∧ c' = taken := by
  cases c <;> simp_all [tryTake]

theorem tryTake_eq_none {c c' : Cell α} (h : c.tryTake = (none, c')) :
    c' = c ∧ ∀ o, c ≠ published o := by
  cases c <;> cases h <;> simp

end Cell

/-- The two events of a handle's life: the spawned computation runs to its end, or the app
calls `try_take`. -/
inductive TaskEvent where
  | finish
  | poll
deriving DecidableEq, Repr

def results {σ α : Type} (finish : σ → σ) (take : σ → Option α × σ) : σ → List TaskEvent → List (Option α)
  | _, [] => []
  | s, .finish :: evs => results finish take (finish s) evs
  | s, .poll :: evs => (take s).1 :: results finish take (take s).2 evs

/-- What the spec promises for the calls in `evs` on a fresh handle of a computation that
finishes with `o`: `none` for every call before it finishes, `some o` at the first call after,
`none` on every later call. -/
def promised {α : Type} (o : α) : List TaskEvent → List (Option α)
  | [] => []
  | .poll :: evs => none :: promised o evs
  | .finish :: evs =>
    match evs.count .poll with
    | 0 => []
    | m + 1 => some o :: List.replicate m none

section Refinement
variable {σ α : Type} {finish : σ → σ} {take : σ → Option α × σ}

theorem results_embed (o : α) (emb : Cell α → σ) (hf : ∀ c, finish (emb c) = emb (c.publish o))
    (ht : ∀ c, take (emb c) = (c.tryTake.1, emb c.tryTake.2)) (c : Cell α) (evs : List TaskEvent) :
    results finish take (emb c) evs = results (Cell.publish o) Cell.tryTake c evs := by
  induction evs generalizing c with
  | nil => rfl
  | cons e evs ih => cases e <;> simp [results, hf, ht, ih]

theorem results_taken (o : α) (evs : List TaskEvent) :
    results (Cell.publish o) Cell.tryTake .taken evs = List.replicate (evs.count .poll) none := by
  induction evs with
  | nil => rfl
  | cons e evs ih => cases e <;> simp [results, Cell.publish, ih, List.replicate_succ]

theorem results_published (o : α) (evs : List TaskEvent) :
    results (Cell.publish o) Cell.tryTake (.published o) evs =
      match evs.count .poll with
      | 0 => []
      | m + 1 => some o :: List.replicate m none := by
  induction evs with
  | nil => rfl
  | cons e evs ih =>
    cases e with
    | finish => simpa [results, Cell.publish] using ih
    | poll => simp [results, results_taken]

theorem results_running (o : α) (evs : List TaskEvent) :
    results (Cell.publish o) Cell.tryTake .running evs = promised o evs := by
  induction evs with
  | nil => rfl
  | cons e evs ih =>
    cases e with
    | finish => simp [results, promised, results_published]
    | poll => simp [results, promised, ih]

end Refinement

/-- A native task (`spawn_with_runtime`): the `std::sync::mpsc` channel between the spawned
future and the handle, as the messages it buffers and whether its sender is still alive. The
sender lives until the future has run to its end. -/
structure NativeTask (α : Type) where
  buffer : List α
  senderAlive : Bool
deriving DecidableEq, Repr

inductive TryRecvError where
  | empty
  | disconnected
deriving DecidableEq, Repr

namespace NativeTask
variable {α : Type}

def spawnWithRuntime : NativeTask α := ⟨[], true⟩

def finish (res : α) (t : NativeTask α) : NativeTask α :=
  if t.senderAlive then ⟨t.buffer ++ [res], false⟩ else t

/-- `Receiver::try_recv`: the oldest buffered message, else `Empty` while a sender lives and
`Disconnected` once none does. -/
def tryRecv (t : NativeTask α) : Except TryRecvError α × NativeTask α :=
  match t.buffer with
  | r :: rest => (.ok r, { t with buffer := rest })
  | [] => (.error (if t.senderAlive then .empty else .disconnected), t)

def tryTake (t : NativeTask α) : Option α × NativeTask α :=
  match t.tryRecv with
  | (.ok r, t') => (some r, t')
  | (.error _, t') => (none, t')

def ofCell : Cell α → NativeTask α
  | .running => ⟨[], true⟩
  | .published o => ⟨[o], false⟩
  | .taken => ⟨[], false⟩

theorem finish_ofCell (o : α) (c : Cell α) : (ofCell c).finish o = ofCell (c.publish o) := by
  cases c <;> rfl

theorem tryTake_ofCell (c : Cell α) : (ofCell c).tryTake = (c.tryTake.1, ofCell c.tryTake.2) := by
  cases c <;> rfl

end NativeTask

/-- A wasm32 task (`spawn_local`): whether the spawned future has run to its end, and the shared
`Rc<RefCell<Option<Result<T, String>>>>` it writes its outcome into. -/
structure WasmTask (α : Type) where
  done : Bool
  result : Option α
deriving DecidableEq, Repr

namespace WasmTask
variable {α : Type}

def spawnLocal : WasmTask α := ⟨false, none⟩

def finish (res : α) (t : WasmTask α) : WasmTask α :=
  if t.done then t else ⟨true, some res⟩

def tryTake (t : WasmTask α) : Option α × WasmTask α :=
  (t.result, { t with result := none })

def ofCell : Cell α → WasmTask α
  | .running => ⟨false, none⟩
  | .published o => ⟨true, some o⟩
  | .taken => ⟨true, none⟩

theorem finish_ofCell (o : α) (c : Cell α) : (ofCell c).finish o = ofCell (c.publish o) := by
  cases c <;> rfl

theorem tryTake_ofCell (c : Cell α) : (ofCell c).tryTake = (c.tryTake.1, ofCell c.tryTake.2) := by
  cases c <;> rfl

end WasmTask

/-- The native and the wasm32 handle, each fresh from its spawn function, give the same result
for every `try_take` call in every interleaving with the computation's completion: the sequence
`promised` describes. -/
theorem results_ofCell {α : Type} (o : α) (evs : List TaskEvent) :
    results (NativeTask.finish o) NativeTask.tryTake NativeTask.spawnWithRuntime evs = promised o evs ∧
      results (WasmTask.finish o) WasmTask.tryTake WasmTask.spawnLocal evs = promised o evs :=
  ⟨(results_embed o NativeTask.ofCell (NativeTask.finish_ofCell o) NativeTask.tryTake_ofCell
      .running evs).trans (results_running o evs),
    (results_embed o WasmTask.ofCell (WasmTask.finish_ofCell o) WasmTask.tryTake_ofCell
      .running evs).trans (results_running o evs)⟩

end LdkServerGui
