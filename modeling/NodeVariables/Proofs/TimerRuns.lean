import Mathlib.Data.List.Induction
import NodeVariables.Timer

namespace NodeVariables.Timer

inductive Op where
  | start (now : Instant)
  | stop
  | nodeInit (now : Instant) (node : NodeId)
  | due (now : Instant)
deriving DecidableEq, Repr

def apply (t : Timer) : Op → List Reason × Timer
  | .start now => ([], t.start now)
  | .stop => ([], t.stop)
  | .nodeInit now node => ([], t.deferNodeInit now node)
  | .due now => t.due now

def run (t : Timer) (ops : List Op) : Timer := ops.foldl (fun t op => (t.apply op).2) t

/-- What the operation number `j` of a run returns. -/
def returned (t : Timer) (ops : List Op) (j : Nat) : List Reason :=
  match ops[j]? with
  | some op => ((t.run (ops.take j)).apply op).1
  | none => []

def running (ops : List Op) : Bool :=
  ops.foldl (fun on op =>
    match op with
    | .start _ => true
    | .stop => false
    | _ => on) false

variable {t : Timer} {ops : List Op} {op : Op}

theorem run_concat (t : Timer) (ops : List Op) (op : Op) :
    t.run (ops ++ [op]) = ((t.run ops).apply op).2 := by
  simp [run]

theorem run_append (t : Timer) (first rest : List Op) :
    t.run (first ++ rest) = (t.run first).run rest :=
  List.foldl_append

theorem running_concat (ops : List Op) (op : Op) : running (ops ++ [op]) =
    match op with
    | .start _ => true
    | .stop => false
    | _ => running ops := by
  simp [running]

theorem returned_concat_of_lt {j : Nat} (h : j < ops.length) (t : Timer) (op : Op) :
    t.returned (ops ++ [op]) j = t.returned ops j := by
  rw [returned, returned, List.getElem?_append_left h,
    List.take_append_of_le_length (Nat.le_of_lt h)]

theorem returned_concat_length (t : Timer) (ops : List Op) (op : Op) :
    t.returned (ops ++ [op]) ops.length = ((t.run ops).apply op).1 := by
  simp [returned]

section Apply

theorem isRunning_start (t : Timer) (now : Instant) : (t.start now).isRunning = true := by
  unfold start
  split
  · assumption
  · rfl

theorem isRunning_advance (t : Timer) (now : Instant) :
    (t.advance now).isRunning = t.isRunning := by
  simp [isRunning, advance]

def delays (t : Timer) : Duration × Duration × Duration :=
  (t.interval, t.startupDelay, t.nodeInitDelay)

theorem delays_apply (t : Timer) (op : Op) : (t.apply op).2.delays = t.delays := by
  cases op with
  | start now =>
    rw [apply, start]
    split <;> rfl
  | stop => rfl
  | nodeInit now node => rfl
  | due now => rfl

end Apply

theorem delays_run (t : Timer) (ops : List Op) : (t.run ops).delays = t.delays := by
  induction ops using List.reverseRecOn with
  | nil => rfl
  | append_singleton ops op ih => rw [run_concat, delays_apply, ih]

theorem interval_run (t : Timer) (ops : List Op) : (t.run ops).interval = t.interval :=
  congrArg Prod.fst (t.delays_run ops)

theorem startupDelay_run (t : Timer) (ops : List Op) :
    (t.run ops).startupDelay = t.startupDelay :=
  congrArg (·.2.1) (t.delays_run ops)

theorem nodeInitDelay_run (t : Timer) (ops : List Op) :
    (t.run ops).nodeInitDelay = t.nodeInitDelay :=
  congrArg (·.2.2) (t.delays_run ops)

theorem isRunning_run (h : t.isRunning = false) (ops : List Op) :
    (t.run ops).isRunning = running ops := by
  induction ops using List.reverseRecOn with
  | nil => exact h
  | append_singleton ops op ih =>
    rw [run_concat, running_concat]
    cases op with
    | start now => exact isRunning_start ..
    | stop => rfl
    | nodeInit now node => exact ih
    | due now => exact (isRunning_advance ..).trans ih

/-- The interval is the given one, but not below the shortest. -/
theorem toNanos_interval_new (interval startupDelay nodeInitDelay : Duration) :
    (new interval startupDelay nodeInitDelay).interval.toNanos =
      max minInterval.toNanos interval.toNanos := by
  unfold new
  split <;> dsimp only <;> omega

theorem isRunning_new (interval startupDelay nodeInitDelay : Duration) :
    (new interval startupDelay nodeInitDelay).isRunning = false := by
  unfold new
  split <;> rfl

theorem waiting_new (interval startupDelay nodeInitDelay : Duration) :
    (new interval startupDelay nodeInitDelay).waiting = [] := by
  unfold new
  split <;> rfl

end NodeVariables.Timer
