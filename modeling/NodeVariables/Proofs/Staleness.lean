import NodeVariables.Proofs.Refresh

namespace NodeVariables

namespace Timer

def SweepsBy (t : Timer) (limit : Instant) : Prop := ∃ next, t.nextSweep = some next ∧ next ≤ limit

variable {t : Timer} {last now limit : Instant}

theorem sweepsBy_start (h : t.nextSweep = none) (now : Instant) :
    (t.start now).SweepsBy (now + t.interval.toNanos) := by
  rw [start, if_neg (by simp [isRunning, h])]
  exact ⟨_, rfl, Nat.le_refl _⟩

theorem nextTick_le (t : Timer) (next now : Instant) :
    t.nextTick next now ≤ now + t.interval.toNanos :=
  Nat.add_le_add_right (Nat.sub_le ..) _

theorem sweepsBy_advance (h : t.SweepsBy (last + t.interval.toNanos)) (hnow : last ≤ now) :
    (t.advance now).SweepsBy (now + t.interval.toNanos) := by
  obtain ⟨next, hnext, hle⟩ := h
  have hadvance : (t.advance now).nextSweep =
      some (if next ≤ now then t.nextTick next now else next) := by
    rw [advance, hnext, Option.map_some]
  refine ⟨_, hadvance, ?_⟩
  split
  · exact t.nextTick_le next now
  · exact Nat.le_trans hle (Nat.add_le_add_right hnow _)

theorem length_due_pos (h : t.SweepsBy limit) (hnow : limit ≤ now) :
    0 < (t.due now).1.length := by
  obtain ⟨next, hnext, hle⟩ := h
  have hdue : t.sweepIsDue now := by simp [sweepIsDue, hnext, Nat.le_trans hle hnow]
  simp [due, hdue]

end Timer

namespace Session

open NodeVariables.Graph (valuePort)

/-- What happens from the start of a session on, with the time of the last poll or of the start.
Between the polls the editor changes the graph as it likes. -/
inductive Run (s₀ : Session) (start : Instant) : Session → Graph → Instant → Prop where
  | start {g : Graph} (idle : s₀.timer.nextSweep = none) (keyed : g.Keyed) :
      Run s₀ start (s₀.start start) g start
  | edit {s : Session} {g g' : Graph} {last : Instant} (keyed : g'.Keyed) :
      Run s₀ start s g last → Run s₀ start s g' last
  | handle {s : Session} {g : Graph} {last : Instant} (event : Event) (now : Instant) :
      Run s₀ start s g last →
      Run s₀ start (s.handle g event now).1 (s.handle g event now).2 last
  | present {s : Session} {g : Graph} {last : Instant} {α : Type} (hooks : List Hook) (busy : Bool)
      (r : Request) (openMenu : Overrides → Graph → α × Graph)
      (keyed : (present hooks busy r s g openMenu).2.2.Keyed) :
      Run s₀ start s g last →
      Run s₀ start (present hooks busy r s g openMenu).2.1
        (present hooks busy r s g openMenu).2.2 last
  | poll {s : Session} {g : Graph} {last now : Instant} (later : last ≤ now) :
      Run s₀ start s g last → Run s₀ start (s.poll g now).2.1 (s.poll g now).2.2 now

/-- The state before the last of the sweeps that a poll runs. -/
def beforeLastSweep (s : Session) (g : Graph) (now : Instant) : Session × Graph :=
  sweeps ((s.poll g now).1 - 1) { s with timer := s.timer.advance now } g

variable {s₀ s : Session} {g : Graph} {start last now : Instant}

section Clock

def clock (s : Session) : Option Instant × Duration := (s.timer.nextSweep, s.timer.interval)

theorem CacheOnly.clock_eq {s' : Session} (h : s.CacheOnly s') : s'.clock = s.clock := by
  rw [clock, h.timer_eq, clock]

/-- Events add single sweeps at most. -/
theorem clock_handle (s : Session) (g : Graph) (event : Event) (now : Instant) :
    (s.handle g event now).1.clock = s.clock := by
  have hadded (node : NodeId) : (s.handleAdded g node now).clock = s.clock := by
    unfold handleAdded
    split <;> rfl
  cases event with
  | nodeCreated node => exact hadded node
  | nodeLoaded node => exact hadded node
  | connectionsChanged node side slot connected =>
    rw [handle]
    split
    · exact (cacheOnly_updateSet ..).clock_eq
    · rfl
  | renamed node previous => exact (cacheOnly_handleRenamed ..).clock_eq
  | nodeRemoved node => exact (cacheOnly_handleRemoved ..).clock_eq
  | announced a => exact (cacheOnly_handleAnnounced ..).clock_eq
  | executed => rfl

end Clock

/-- What every state of a run satisfies. -/
structure OnTime (s₀ s : Session) (g : Graph) (last : Instant) : Prop where
  keyed : g.Keyed
  interval : s.timer.interval = s₀.timer.interval
  sweepsBy : s.timer.SweepsBy (last + s.timer.interval.toNanos)

theorem OnTime.of_clock {s' : Session} {g' : Graph} (h : OnTime s₀ s g last)
    (hc : s'.clock = s.clock) (hk : g'.Keyed) : OnTime s₀ s' g' last := by
  obtain ⟨hnext, hinterval⟩ := Prod.mk.inj hc
  refine ⟨hk, hinterval.trans h.interval, ?_⟩
  obtain ⟨next, hn, hle⟩ := h.sweepsBy
  exact ⟨next, hnext.trans hn, hinterval ▸ hle⟩

theorem OnTime.poll (h : OnTime s₀ s g last) (hnow : last ≤ now) :
    OnTime s₀ (s.poll g now).2.1 (s.poll g now).2.2 now := by
  have htimer : (s.poll g now).2.1.timer = s.timer.advance now :=
    (cacheOnly_sweeps ..).timer_eq
  refine ⟨keyed_sweeps h.keyed _, ?_, ?_⟩
  · rw [htimer]
    exact h.interval
  · rw [htimer]
    exact Timer.sweepsBy_advance h.sweepsBy hnow

theorem Run.onTime (h : Run s₀ start s g last) : OnTime s₀ s g last := by
  induction h with
  | start idle keyed =>
    have hinterval : (s₀.timer.start start).interval = s₀.timer.interval := by
      unfold Timer.start
      split <;> rfl
    exact ⟨keyed, hinterval, hinterval ▸ Timer.sweepsBy_start idle start⟩
  | edit keyed _ ih => exact ih.of_clock rfl keyed
  | handle event now _ ih =>
    exact ih.of_clock (clock_handle ..)
      (Graph.keyed_of_bare_eq (bare_handle ih.keyed _ event now) ih.keyed)
  | present hooks busy r openMenu keyed _ ih =>
    exact ih.of_clock (cacheOnly_runAll busy r hooks .none _ _).clock_eq keyed
  | poll later _ ih => exact ih.poll later

theorem poll_eq_sweep (h : 0 < (s.poll g now).1) : (s.poll g now).2 =
    (s.beforeLastSweep g now).1.sweep (s.beforeLastSweep g now).2 := by
  obtain ⟨n, hn⟩ := Nat.exists_eq_succ_of_ne_zero (Nat.ne_of_gt h)
  have hpoll : (s.poll g now).2 =
      sweeps (s.poll g now).1 { s with timer := s.timer.advance now } g := rfl
  rw [hpoll, beforeLastSweep, hn, sweeps_succ]
  rfl

/-- Types are at most one interval old. -/
theorem fresh_of_poll (h : Run s₀ start s g last) (now : Instant) :
    (last + s₀.timer.interval.toNanos ≤ now → 0 < (s.poll g now).1) ∧
    (0 < (s.poll g now).1 →
      (∀ id n name, (s.poll g now).2.2.node? id = some n → n.isGet → n.variableName? = some name →
        (s.poll g now).2.2.Shows s.palette (valuePort id)
          (((s.poll g now).2.1.cache.get? name).getD .wildcard)) ∧
      (∀ name, (s.poll g now).2.2.binds name →
        ((s.beforeLastSweep g now).2.variableType? name).isSome ∧
        (s.poll g now).2.1.cache.get? name =
          (s.beforeLastSweep g now).2.variableType? name)) := by
  have hstate := h.onTime
  refine ⟨fun hlate => ?_, fun hswept => ?_⟩
  · exact Timer.length_due_pos hstate.sweepsBy (hstate.interval ▸ hlate)
  -- the last sweep starts from a graph whose nodes carry their keys, like any sweep of the poll
  have hkb : (s.beforeLastSweep g now).2.Keyed := keyed_sweeps hstate.keyed _
  have hb := bare_sweep (s.beforeLastSweep g now).1 hkb
  have hpalette : (s.beforeLastSweep g now).1.palette = s.palette := palette_sweeps ..
  rw [poll_eq_sweep hswept]
  generalize s.beforeLastSweep g now = before at hkb hb hpalette ⊢
  constructor
  · intro id n name hn hg hv
    have hr : before.2.reads? id = some name := by
      rw [← Graph.reads?_of_bare_eq hb]
      simp [Graph.reads?, Node.reads?, hn, hg, hv]
    intro look hlook
    rw [look?_sweep_of_reads? _ hkb hr] at hlook
    obtain ⟨-, -, rfl⟩ := Option.map_eq_some_iff.1 hlook
    rw [hpalette]
    rfl
  · intro name hbinds
    apply Graph.get?_recorded_of_binds
    rwa [← Graph.binds_of_bare_eq hb]

/-- The standard session on the chained graph after a poll that has run the startup sweep. -/
def swept : Session × Graph := ((standard.start 0).poll chained 600000000).2

/-- The editor then takes the links of the graph apart; the poll two seconds later sweeps. -/
theorem fresh_loose :
    Run standard 0 swept.1 loose 600000000 ∧
    0 < (swept.1.poll loose 2600000000).1 ∧
    (swept.1.poll loose 2600000000).2.1.cache.get? "copy" = some .wildcard ∧
    (swept.1.poll loose 2600000000).2.2.Shows .builtin (valuePort 4) .wildcard := by
  have hrun : Run standard 0 swept.1 loose 600000000 :=
    .edit (by decide) (.poll (by decide) (.start rfl (by decide)))
  obtain ⟨hdue, hfresh⟩ := fresh_of_poll hrun 2600000000
  have hswept := hdue (by decide)
  obtain ⟨hgets, hbound⟩ := hfresh hswept
  have hcopy : (swept.1.poll loose 2600000000).2.1.cache.get? "copy" = some .wildcard := by
    rw [(hbound "copy" (by decide)).2]
    decide
  have hshows := hgets 4 _ "copy" rfl (by decide) (by decide)
  rw [hcopy] at hshows
  exact ⟨hrun, hswept, hcopy, hshows⟩

end Session

end NodeVariables
