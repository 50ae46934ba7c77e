import NodeVariables.Graph.Slot
import NodeVariables.Settings

namespace NodeVariables

inductive Reason where
  | startup
  /-- A node was added or loaded a while ago. -/
  | nodeInit (node : NodeId)
  | periodic
  | execution
deriving DecidableEq, Repr

structure Deferred where
  due : Instant
  reason : Reason
deriving DecidableEq, Repr

/-- Puts a sweep behind all that are due no later. -/
def enqueue (d : Deferred) : List Deferred → List Deferred
  | [] => [d]
  | e :: es => if d.due < e.due then d :: e :: es else e :: enqueue d es

theorem mem_enqueue {d e : Deferred} {es : List Deferred} :
    e ∈ enqueue d es ↔ e = d ∨ e ∈ es := by
  induction es with
  | nil => simp [enqueue]
  | cons x xs ih => rw [enqueue]; split <;> grind

theorem pairwise_enqueue (d : Deferred) {es : List Deferred}
    (h : es.Pairwise (fun a b => a.due ≤ b.due)) :
    (enqueue d es).Pairwise (fun a b => a.due ≤ b.due) := by
  induction es with
  | nil => simp [enqueue]
  | cons x xs ih =>
    obtain ⟨hx, hxs⟩ := List.pairwise_cons.1 h
    rw [enqueue]
    split
    · next hlt =>
      refine List.pairwise_cons.2 ⟨fun e he => ?_, h⟩
      rcases List.mem_cons.1 he with rfl | he
      · exact Nat.le_of_lt hlt
      · exact Nat.le_trans (Nat.le_of_lt hlt) (hx e he)
    · next hge =>
      refine List.pairwise_cons.2 ⟨fun e he => ?_, ih hxs⟩
      rcases mem_enqueue.1 he with rfl | he
      · exact Nat.le_of_not_lt hge
      · exact hx e he

structure Timer where
  interval : Duration
  startupDelay : Duration
  nodeInitDelay : Duration
  /-- The next periodic sweep, while the timer runs. -/
  nextSweep : Option Instant := none
  /-- Single sweeps by their deadlines; of equal deadlines the one deferred first comes first. -/
  waiting : List Deferred := []
  interval_pos : 0 < interval.toNanos
  ordered : waiting.Pairwise (fun a b => a.due ≤ b.due) := by exact .nil

namespace Timer

def minInterval : Duration := .ofMillis 1

/-- A timer that does not run yet; the interval is at least the shortest one. -/
def new (interval startupDelay nodeInitDelay : Duration) : Timer :=
  if h : minInterval.toNanos ≤ interval.toNanos then
    { interval, startupDelay, nodeInitDelay
      interval_pos := Nat.lt_of_lt_of_le (by decide) h }
  else { interval := minInterval, startupDelay, nodeInitDelay, interval_pos := by decide }

def ofSettings (s : Settings) : Timer := new s.refreshInterval s.startupDelay s.nodeInitDelay

def isRunning (t : Timer) : Bool := t.nextSweep.isSome

def pending (t : Timer) : Nat := t.waiting.length

def defer (t : Timer) (due : Instant) (reason : Reason) : Timer :=
  { t with
    waiting := enqueue ⟨due, reason⟩ t.waiting
    ordered := pairwise_enqueue _ t.ordered }

/-- Defers the startup sweep and begins the periodic ones; a running timer is left alone. -/
def start (t : Timer) (now : Instant) : Timer :=
  if t.isRunning then t
  else
    { t.defer (now + t.startupDelay.toNanos) .startup with
      nextSweep := some (now + t.interval.toNanos) }

def stop (t : Timer) : Timer := { t with nextSweep := none, waiting := [], ordered := .nil }

def deferNodeInit (t : Timer) (now : Instant) (node : NodeId) : Timer :=
  t.defer (now + t.nodeInitDelay.toNanos) (.nodeInit node)

def nextDeadline (t : Timer) : Option Instant :=
  (t.waiting.map (·.due) ++ t.nextSweep.toList).min?

/-- The time since the last tick of the periodic sweeps, one of whose ticks was at `next`. -/
def sinceTick (t : Timer) (next now : Instant) : Duration :=
  .ofNanos ((now - next) % t.interval.toNanos)

/-- The first tick after `now` of the periodic sweeps, one of whose ticks was at `next`. -/
def nextTick (t : Timer) (next now : Instant) : Instant :=
  now - (t.sinceTick next now).toNanos + t.interval.toNanos

def sweepIsDue (t : Timer) (now : Instant) : Bool :=
  match t.nextSweep with
  | some next => next ≤ now
  | none => false

def advance (t : Timer) (now : Instant) : Timer :=
  { t with
    nextSweep := t.nextSweep.map fun next => if next ≤ now then t.nextTick next now else next
    waiting := t.waiting.dropWhile (·.due ≤ now)
    ordered := t.ordered.sublist (List.dropWhile_sublist _) }

/-- Takes what is due: the single sweeps by their deadlines, then at most one periodic sweep, which
stands for all its missed ticks. -/
def due (t : Timer) (now : Instant) : List Reason × Timer :=
  let single := (t.waiting.takeWhile (·.due ≤ now)).map (·.reason)
  (single ++ (if t.sweepIsDue now then [.periodic] else []), t.advance now)

end Timer

end NodeVariables
