import Mathlib.Order.Bounds.Defs
import NodeVariables.Proofs.SingleSweeps

namespace NodeVariables.Timer

section NextTick

theorem toNanos_div_lt (d : Duration) : d.toNanos / nanosPerSecond < UInt64.size := by
  have hs := d.seconds.toNat_lt
  have hn := d.nanos_lt
  simp only [Duration.toNanos, nanosPerSecond, UInt64.size] at hn ⊢
  omega

/-- No part of the time since the last tick is lost in seconds and nanoseconds. -/
theorem toNanos_sinceTick (t : Timer) (next now : Instant) :
    (t.sinceTick next now).toNanos = (now - next) % t.interval.toNanos := by
  apply Duration.toNanos_ofNanos
  have hmod := Nat.mod_lt (now - next) t.interval_pos
  exact Nat.lt_of_le_of_lt (Nat.div_le_div_right (Nat.le_of_lt hmod)) (toNanos_div_lt _)

/-- Taking the remainder off and adding an interval counts on by whole intervals. -/
theorem sub_mod_add {next now : Nat} (h : next ≤ now) (interval : Nat) :
    now - (now - next) % interval + interval =
      next + ((now - next) / interval + 1) * interval := by
  have hdiv := Nat.div_add_mod' (now - next) interval
  rw [Nat.add_mul, Nat.one_mul]
  omega

theorem nextTick_eq (t : Timer) {next now : Instant} (h : next ≤ now) : t.nextTick next now =
    next + ((now - next) / t.interval.toNanos + 1) * t.interval.toNanos := by
  rw [nextTick, toNanos_sinceTick]
  exact sub_mod_add h _

/-- What is taken off the time of the call is no more than that time. -/
theorem sinceTick_le (t : Timer) (next now : Instant) : (t.sinceTick next now).toNanos ≤ now := by
  rw [toNanos_sinceTick]
  exact Nat.le_trans (Nat.mod_le ..) (Nat.sub_le ..)

theorem lt_nextTick (t : Timer) (next now : Instant) : now < t.nextTick next now := by
  have hmod : (t.sinceTick next now).toNanos < t.interval.toNanos := by
    rw [toNanos_sinceTick]
    exact Nat.mod_lt _ t.interval_pos
  have hadd := Nat.sub_add_cancel (t.sinceTick_le next now)
  calc now = now - (t.sinceTick next now).toNanos + (t.sinceTick next now).toNanos := hadd.symm
    _ < now - (t.sinceTick next now).toNanos + t.interval.toNanos := Nat.add_lt_add_left hmod _

/-- The tick after a time is the first one of its series. -/
theorem isLeast_nextTick (t : Timer) {next now : Instant} (h : next ≤ now) :
    IsLeast {tick | ∃ k, tick = next + k * t.interval.toNanos ∧ now < tick}
      (t.nextTick next now) := by
  refine ⟨⟨_, t.nextTick_eq h, ?_⟩, ?_⟩
  · exact t.lt_nextTick next now
  · rintro tick ⟨k, rfl, hlt⟩
    rw [t.nextTick_eq h]
    refine Nat.add_le_add_left (Nat.mul_le_mul_right _ ?_) _
    exact (Nat.div_lt_iff_lt_mul t.interval_pos).2 (Nat.sub_lt_left_of_lt_add h hlt)

end NextTick

def polls (ops : List Op) : List Instant :=
  ops.filterMap fun op =>
    match op with
    | .due now => some now
    | _ => none

/-- The whole numbers of intervals after a start that lie after all of some times. -/
def ticksAfter (start : Instant) (interval : Nat) (times : List Instant) : Set Instant :=
  {tick | ∃ k, 1 ≤ k ∧ tick = start + k * interval ∧ ∀ now ∈ times, now < tick}

/-- What the periodic sweeps of a timer that was started at a time go by, after further
operations. -/
structure Ticking (t : Timer) (interval : Nat) (start : Instant) (ops : List Op) : Prop where
  interval_pos : 0 < interval
  interval_eq : (t.run ops).interval.toNanos = interval
  /-- The next deadline is a tick after all calls; a call that reaches it, and no other, returns a
  periodic sweep. -/
  next : ∃ next, (t.run ops).nextSweep = some next ∧
    IsLeast (ticksAfter start interval (polls ops)) next ∧
    ∀ now, ((t.run ops).due now).1.count .periodic = if next ≤ now then 1 else 0
  /-- A call that reaches the deadline counts back from its own time to the last tick. That takes it
  neither below zero nor to another remainder. -/
  exact : ∀ next now, (t.run ops).nextSweep = some next → next ≤ now →
    ((t.run ops).due now).2.nextSweep = some ((t.run ops).nextTick next now) ∧
    ((t.run ops).sinceTick next now).toNanos = (now - next) % interval ∧
    ((t.run ops).sinceTick next now).toNanos ≤ now
  /-- Two calls return a periodic sweep for different ticks. -/
  once : ∀ i j, i < j → .periodic ∈ t.returned ops i → .periodic ∈ t.returned ops j →
    ∃ earlier later, (t.run (ops.take i)).nextSweep = some earlier ∧
      (t.run (ops.take j)).nextSweep = some later ∧ earlier < later

variable {t : Timer} {ops : List Op} {start next : Instant}

theorem polls_concat (ops : List Op) (op : Op) : polls (ops ++ [op]) = polls ops ++ polls [op] :=
  List.filterMap_append

section TicksAfter

variable {times : List Instant} {now : Instant}

theorem isLeast_ticksAfter_of_lt {interval : Nat}
    (h : IsLeast (ticksAfter start interval times) next) (hlt : now < next) :
    IsLeast (ticksAfter start interval (times ++ [now])) next := by
  obtain ⟨⟨k, hk, rfl, hafter⟩, hleast⟩ := h
  refine ⟨⟨k, hk, rfl, ?_⟩, ?_⟩
  · intro time htime
    rcases List.mem_append.1 htime with htime | htime
    · exact hafter time htime
    · exact List.mem_singleton.1 htime ▸ hlt
  · rintro tick ⟨j, hj, rfl, htimes⟩
    exact hleast ⟨j, hj, rfl, fun time htime => htimes time (List.mem_append_left _ htime)⟩

/-- A tick of a series is a tick of the whole series from the start on. -/
theorem isLeast_ticksAfter_nextTick (t : Timer)
    (h : IsLeast (ticksAfter start t.interval.toNanos times) next) (hle : next ≤ now) :
    IsLeast (ticksAfter start t.interval.toNanos (times ++ [now])) (t.nextTick next now) := by
  obtain ⟨⟨k, hk, rfl, hafter⟩, -⟩ := h
  obtain ⟨⟨m, hm, hlt⟩, hfirst⟩ := t.isLeast_nextTick hle
  refine ⟨⟨k + m, Nat.le_add_right_of_le hk, ?_, ?_⟩, ?_⟩
  · rw [hm, Nat.add_mul, Nat.add_assoc]
  · intro time htime
    rcases List.mem_append.1 htime with htime | htime
    · exact Nat.lt_trans (Nat.lt_of_lt_of_le (hafter time htime) hle) hlt
    · exact List.mem_singleton.1 htime ▸ hlt
  · rintro tick ⟨j, hj, rfl, htimes⟩
    have hnow : now < start + j * t.interval.toNanos := htimes now (by simp)
    have hkj : k ≤ j := by
      refine Nat.le_of_lt (Nat.lt_of_mul_lt_mul_right (a := t.interval.toNanos) ?_)
      exact Nat.lt_of_add_lt_add_left (Nat.lt_of_le_of_lt hle hnow)
    refine hfirst ⟨j - k, ?_, hnow⟩
    rw [Nat.add_assoc, ← Nat.add_mul, Nat.add_sub_cancel' hkj]

end TicksAfter

theorem nextSweep_due (h : t.nextSweep = some next) (now : Instant) :
    (t.due now).2.nextSweep = some (if next ≤ now then t.nextTick next now else next) := by
  simp [due, advance, h]

/-- Until the next stop, the deadline is the first tick after all calls. -/
theorem nextSweep_run (hstart : t.nextSweep = some (start + t.interval.toNanos))
    (hstop : .stop ∉ ops) : ∃ next, (t.run ops).nextSweep = some next ∧
      IsLeast (ticksAfter start t.interval.toNanos (polls ops)) next := by
  induction ops using List.reverseRecOn with
  | nil =>
    refine ⟨_, hstart, ⟨1, Nat.le_refl 1, by simp, by simp [polls]⟩, ?_⟩
    rintro tick ⟨k, hk, rfl, -⟩
    exact Nat.add_le_add_left (Nat.le_mul_of_pos_left _ hk) _
  | append_singleton ops op ih =>
    simp only [List.mem_append, List.mem_singleton, not_or] at hstop
    obtain ⟨next, hnext, hleast⟩ := ih hstop.1
    rw [run_concat, polls_concat]
    cases op with
    | start now =>
      have hon : (t.run ops).isRunning := by simp [isRunning, hnext]
      simpa [apply, Timer.start, hon, polls] using ⟨next, hnext, hleast⟩
    | stop => exact absurd rfl hstop.2
    | nodeInit now node =>
      simpa [apply, deferNodeInit, defer, polls] using ⟨next, hnext, hleast⟩
    | due now =>
      refine ⟨_, nextSweep_due hnext now, ?_⟩
      rw [← t.interval_run ops] at hleast ⊢
      split
      · next hle => exact isLeast_ticksAfter_nextTick _ hleast hle
      · next hgt => exact isLeast_ticksAfter_of_lt hleast (Nat.lt_of_not_le hgt)

section Returned

variable (hrun : t.isRunning = false) (hwait : t.waiting = [])

include hrun hwait

/-- A call returns a periodic sweep when it reaches the deadline, and then only one. -/
theorem count_periodic_due (hnext : (t.run ops).nextSweep = some next) (now : Instant) :
    ((t.run ops).due now).1.count .periodic = if next ≤ now then 1 else 0 := by
  obtain ⟨q, h⟩ := exists_queue hrun hwait ops
  have hsingle : ((q.filter (·.sweep.due ≤ now)).map (·.sweep.reason)).count .periodic = 0 := by
    rw [List.count_eq_zero]
    intro hmem
    obtain ⟨x, hx, hreason⟩ := List.mem_map.1 hmem
    have hdeferred := ((h.mem x).1 (List.mem_filter.1 hx).1).1
    exact reason_ne_periodic hdeferred hreason
  rw [h.due_eq, List.count_append, hsingle, Nat.zero_add]
  by_cases hle : next ≤ now <;> simp [sweepIsDue, hnext, hle]

/-- Only a call that has reached the deadline returns a periodic sweep. -/
theorem reached_of_periodic_mem {first : List Op} {i : Nat}
    (h : .periodic ∈ (t.run first).returned ops i)
    (hnext : (t.run (first ++ ops.take i)).nextSweep = some next) :
    ∃ now, ops[i]? = some (.due now) ∧ next ≤ now := by
  unfold Timer.returned at h
  cases hop : ops[i]? with
  | none => simp [hop] at h
  | some op =>
    cases op with
    | due now =>
      have hmem : .periodic ∈ ((t.run (first ++ ops.take i)).due now).1 := by
        simpa [hop, apply, run_append] using h
      have hcount := List.count_pos_iff.2 hmem
      rw [count_periodic_due hrun hwait hnext] at hcount
      refine ⟨now, rfl, ?_⟩
      by_contra hlt
      simp [hlt] at hcount
    | _ => simp [hop, apply] at h

end Returned

theorem mem_polls_take {i j : Nat} {now : Instant} (hij : i < j)
    (h : ops[i]? = some (.due now)) : now ∈ polls (ops.take j) := by
  refine List.mem_filterMap.2 ⟨.due now, ?_, rfl⟩
  exact List.mem_of_getElem? ((List.getElem?_take_of_lt hij).trans h)

/-- From a start to the next stop a timer keeps to its ticks. -/
theorem ticking_of_start (interval startupDelay nodeInitDelay : Duration) (history : List Op)
    (start : Instant) (ops : List Op) (hidle : running history = false) (hon : .stop ∉ ops) :
    ((new interval startupDelay nodeInitDelay).run (history ++ [.start start])).Ticking
      (max 1000000 interval.toNanos) start ops := by
  have hrun := isRunning_new interval startupDelay nodeInitDelay
  have hwait := waiting_new interval startupDelay nodeInitDelay
  have hmax := toNanos_interval_new interval startupDelay nodeInitDelay
  generalize new interval startupDelay nodeInitDelay = t at hrun hwait hmax ⊢
  have hinterval : (t.run (history ++ [.start start])).interval = t.interval := t.interval_run _
  have hstarted : (t.run (history ++ [.start start])).nextSweep =
      some (start + (t.run (history ++ [.start start])).interval.toNanos) := by
    have hoff : (t.run history).isRunning = false := (isRunning_run hrun history).trans hidle
    rw [hinterval, run_concat, apply, Timer.start, if_neg (by simp [hoff]), t.interval_run]
  have htick (ops : List Op) (hon : .stop ∉ ops) := nextSweep_run hstarted hon
  rw [hinterval, hmax] at htick
  refine ⟨?_, ?_, ?_, ?_, ?_⟩
  · exact Nat.lt_of_lt_of_le (by decide) (Nat.le_max_left ..)
  · rw [interval_run, hinterval]
    exact hmax
  · obtain ⟨next, hnext, hleast⟩ := htick ops hon
    refine ⟨next, hnext, hleast, fun now => ?_⟩
    rw [← run_append] at hnext ⊢
    exact count_periodic_due hrun hwait hnext now
  · intro next now hnext hle
    refine ⟨?_, ?_, sinceTick_le ..⟩
    · rw [nextSweep_due hnext, if_pos hle]
    · rw [toNanos_sinceTick, interval_run, hinterval, hmax]
      rfl
  · intro i j hij hi hj
    have hearly (k : Nat) : .stop ∉ ops.take k := fun hmem => hon (List.mem_of_mem_take hmem)
    obtain ⟨earlier, hearlier, -⟩ := htick (ops.take i) (hearly i)
    obtain ⟨later, hlater, ⟨-, -, -, hafter⟩, -⟩ := htick (ops.take j) (hearly j)
    refine ⟨earlier, later, hearlier, hlater, ?_⟩
    rw [← run_append] at hearlier
    obtain ⟨now, hop, hle⟩ := reached_of_periodic_mem hrun hwait hi hearlier
    exact Nat.lt_of_le_of_lt hle (hafter now (mem_polls_take hij hop))

/-- A timer that was stopped is started again a second later. A call in between two ticks, one that
goes back and one exactly on a tick. -/
theorem ticking_restarted :
    let history := [.start 0, .due 900000000, .stop]
    let ops := [.due 5300000000, .due 1000000000, .nodeInit 2000000000 4, .due 7000000000]
    let t := (ofSettings .standard).run (history ++ [.start 1000000000])
    running history = false ∧ .stop ∉ ops ∧ t.Ticking 2000000000 1000000000 ops ∧
      t.returned ops 3 = [.nodeInit 4, .periodic] ∧ (t.run ops).nextSweep = some 9000000000 := by
  intro history ops t
  have hidle : running history = false := by decide
  have hon : .stop ∉ ops := by decide
  have hmax : max 1000000 Settings.standard.refreshInterval.toNanos = 2000000000 := by decide
  have hticking := ticking_of_start Settings.standard.refreshInterval
    Settings.standard.startupDelay Settings.standard.nodeInitDelay history 1000000000 ops hidle hon
  rw [hmax] at hticking
  exact ⟨hidle, hon, hticking, by decide, by decide⟩

end NodeVariables.Timer
