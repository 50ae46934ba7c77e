import Mathlib.Data.List.Nodup
import NodeVariables.Proofs.TimerRuns
/-!
Single sweeps are delivered exactly once and in order. What waits after a run are the sweeps that
were deferred and neither taken nor dropped since, by their deadlines and then in the order in which
they were deferred; so each of them is returned by the first call that finds it due, unless the
timer is stopped before.
-/
namespace NodeVariables

section Ordered

variable {es : List Deferred} (h : es.Pairwise fun a b => a.due ≤ b.due)

include h

theorem takeWhile_due_eq (now : Instant) :
    es.takeWhile (·.due ≤ now) = es.filter (·.due ≤ now) := by
  induction es with
  | nil => rfl
  | cons e rest ih =>
    obtain ⟨he, hrest⟩ := List.pairwise_cons.1 h
    by_cases hdue : e.due ≤ now
    · simp [hdue, ih hrest]
    · have hlate : ∀ x ∈ rest, ¬x.due ≤ now := by
        intro x hx hle
        exact hdue (Nat.le_trans (he x hx) hle)
      have hnone : rest.filter (·.due ≤ now) = [] := by simpa using hlate
      simp [hdue, hnone]

theorem dropWhile_due_eq (now : Instant) :
    es.dropWhile (·.due ≤ now) = es.filter fun e => !decide (e.due ≤ now) := by
  induction es with
  | nil => rfl
  | cons e rest ih =>
    obtain ⟨he, hrest⟩ := List.pairwise_cons.1 h
    by_cases hdue : e.due ≤ now
    · simp [hdue, ih hrest]
    · have hlate : ∀ x ∈ rest, now < x.due := by
        intro x hx
        exact Nat.lt_of_lt_of_le (Nat.not_le.1 hdue) (he x hx)
      have hall : (rest.filter fun e => !decide (e.due ≤ now)) = rest := by simpa using hlate
      simp [hdue, hall]

theorem enqueue_eq (d : Deferred) : enqueue d es =
    es.filter (·.due ≤ d.due) ++ d :: es.filter fun e => !decide (e.due ≤ d.due) := by
  rw [← takeWhile_due_eq h, ← dropWhile_due_eq h]
  clear h
  induction es with
  | nil => rfl
  | cons e rest ih =>
    rw [enqueue]
    by_cases hlt : d.due < e.due
    · simp [hlt, Nat.not_le.2 hlt]
    · simp [hlt, Nat.not_lt.1 hlt, ih]

end Ordered

namespace Timer

/-- A single sweep with the number of the operation that deferred it. -/
structure Ticket where
  number : Nat
  sweep : Deferred
deriving DecidableEq, Repr

/-- The single sweep that an operation defers after other operations. A start of a running timer
defers none. -/
def Op.deferral? (t : Timer) (earlier : List Op) : Op → Option Deferred
  | .start now =>
    if running earlier then none else some ⟨now + t.startupDelay.toNanos, .startup⟩
  | .nodeInit now node => some ⟨now + t.nodeInitDelay.toNanos, .nodeInit node⟩
  | _ => none

def Op.ends (d : Deferred) : Op → Bool
  | .stop => true
  | .due now => d.due ≤ now
  | _ => false

def deferred? (t : Timer) (ops : List Op) (i : Nat) : Option Deferred :=
  ops[i]?.bind (Op.deferral? t (ops.take i))

def tickets (t : Timer) (ops : List Op) : List Ticket :=
  (List.range ops.length).filterMap fun i => (t.deferred? ops i).map (Ticket.mk i)

/-- The number of the first later operation that takes or drops a single sweep. -/
def Ticket.end? (ops : List Op) (x : Ticket) : Option Nat :=
  ((ops.drop (x.number + 1)).findIdx? (·.ends x.sweep)).map (· + (x.number + 1))

def Ticket.endedBy? (ops : List Op) (x : Ticket) : Option Op := (x.end? ops).bind (ops[·]?)

/-- By deadline, and then in the order of deferral. -/
def Ticket.Before (x y : Ticket) : Prop :=
  x.sweep.due < y.sweep.due ∨ x.sweep.due = y.sweep.due ∧ x.number < y.number

def delivered (t : Timer) (ops : List Op) : Nat :=
  ((List.range ops.length).flatMap (t.returned ops)).countP (· ≠ .periodic)

def dropped (t : Timer) (ops : List Op) : Nat :=
  (t.tickets ops).countP fun x => x.endedBy? ops = some .stop

def startups (t : Timer) : Nat := t.waiting.countP (·.reason = .startup)

/-- How the single sweeps of a run fare. -/
structure Delivers (t : Timer) (ops : List Op) : Prop where
  /-- A call returns the sweeps whose waiting it ends, then at most one periodic sweep. -/
  returned : ∀ j now, ops[j]? = some (.due now) → ∃ taken : List Ticket, ∃ periodic,
    t.returned ops j = taken.map (·.sweep.reason) ++ periodic ∧
    (periodic = [] ∨ periodic = [.periodic]) ∧
    taken.Pairwise Ticket.Before ∧
    ∀ x, x ∈ taken ↔ t.deferred? ops x.number = some x.sweep ∧ x.end? ops = some j
  silent : ∀ j op, ops[j]? = some op → (∀ now, op ≠ .due now) → t.returned ops j = []
  pending : (t.run ops).pending + t.delivered ops + t.dropped ops = (t.tickets ops).length
  startups : (t.run ops).startups ≤ 1
  isRunning : (t.run ops).isRunning = running ops

variable {t : Timer} {ops : List Op} {op : Op} {x : Ticket} {i j : Nat}

theorem Ticket.before_irrefl (x : Ticket) : ¬x.Before x := by
  simp [Before]

theorem nodup_of_before {q : List Ticket} (h : q.Pairwise Ticket.Before) : q.Nodup := by
  apply h.imp
  rintro a b hab rfl
  exact a.before_irrefl hab

section Tickets

theorem deferred?_concat_of_lt (h : i < ops.length) (t : Timer) (op : Op) :
    t.deferred? (ops ++ [op]) i = t.deferred? ops i := by
  rw [deferred?, deferred?, List.getElem?_append_left h,
    List.take_append_of_le_length (Nat.le_of_lt h)]

theorem deferred?_concat_length (t : Timer) (ops : List Op) (op : Op) :
    t.deferred? (ops ++ [op]) ops.length = op.deferral? t ops := by
  simp [deferred?]

theorem lt_length_of_deferred? {d : Deferred} (h : t.deferred? ops i = some d) :
    i < ops.length := by
  obtain ⟨op, hop, -⟩ := Option.bind_eq_some_iff.1 h
  exact (List.getElem?_eq_some_iff.1 hop).1

theorem mem_tickets : x ∈ t.tickets ops ↔ t.deferred? ops x.number = some x.sweep := by
  obtain ⟨i, d⟩ := x
  simp only [tickets, List.mem_filterMap, List.mem_range, Option.map_eq_some_iff, Ticket.mk.injEq]
  constructor
  · rintro ⟨i, -, d, hd, rfl, rfl⟩
    exact hd
  · intro hd
    exact ⟨i, lt_length_of_deferred? hd, d, hd, rfl, rfl⟩

theorem tickets_concat (t : Timer) (ops : List Op) (op : Op) : t.tickets (ops ++ [op]) =
    t.tickets ops ++ ((op.deferral? t ops).map (Ticket.mk ops.length)).toList := by
  have hlen : (ops ++ [op]).length = ops.length + 1 := by simp
  rw [tickets, hlen, List.range_succ, List.filterMap_append]
  congr 1
  · apply List.filterMap_congr
    intro i hi
    rw [deferred?_concat_of_lt (List.mem_range.1 hi)]
  · simp only [List.filterMap_cons, List.filterMap_nil, deferred?_concat_length]
    cases op.deferral? t ops <;> rfl

theorem nodup_tickets (t : Timer) (ops : List Op) : (t.tickets ops).Nodup := by
  refine List.Nodup.filterMap (fun i j x hi hj => ?_) List.nodup_range
  rw [Option.mem_def, Option.map_eq_some_iff] at hi hj
  obtain ⟨d, -, rfl⟩ := hi
  obtain ⟨e, -, heq⟩ := hj
  exact (congrArg Ticket.number heq).symm

end Tickets

section End

theorem lt_of_end? (h : x.end? ops = some j) : x.number < j ∧ j < ops.length := by
  obtain ⟨k, hk, rfl⟩ := Option.map_eq_some_iff.1 h
  have hlt := (List.findIdx?_eq_some_iff_getElem.1 hk).1
  rw [List.length_drop] at hlt
  omega

theorem end?_append {first : List Op} (h : x.number < first.length) (rest : List Op) :
    x.end? (first ++ rest) =
      (x.end? first).or ((rest.findIdx? (·.ends x.sweep)).map (· + first.length)) := by
  have hlen : x.number + 1 ≤ first.length := h
  simp only [Ticket.end?, List.drop_append_of_le_length hlen, List.findIdx?_append,
    List.length_drop]
  cases (first.drop (x.number + 1)).findIdx? (·.ends x.sweep) with
  | some k => rfl
  | none =>
    cases rest.findIdx? (·.ends x.sweep) with
    | none => rfl
    | some k =>
      simp
      omega

theorem end?_concat (h : x.number < ops.length) (op : Op) : x.end? (ops ++ [op]) =
    (x.end? ops).or (if op.ends x.sweep then some ops.length else none) := by
  rw [end?_append h]
  cases he : op.ends x.sweep <;> simp [List.findIdx?_cons, he]

theorem end?_of_length_le (h : ops.length ≤ x.number + 1) : x.end? ops = none := by
  simp [Ticket.end?, List.drop_eq_nil_of_le h]

theorem endedBy?_concat (h : x.number < ops.length) (op : Op) : x.endedBy? (ops ++ [op]) =
    (x.endedBy? ops).or (if op.ends x.sweep then some op else none) := by
  rw [Ticket.endedBy?, end?_concat h, Ticket.endedBy?]
  cases hend : x.end? ops with
  | some j =>
    have hj := (lt_of_end? hend).2
    simp [List.getElem?_append_left hj, List.getElem?_eq_getElem hj]
  | none => cases op.ends x.sweep <;> simp

theorem endedBy?_eq_none_iff : x.endedBy? ops = none ↔ x.end? ops = none := by
  cases hend : x.end? ops with
  | some j => simp [Ticket.endedBy?, hend, List.getElem?_eq_getElem (lt_of_end? hend).2]
  | none => simp [Ticket.endedBy?, hend]

/-- An operation ends the waiting of what has waited until then and is due or dropped by it. -/
theorem end?_eq_some_iff (hj : ops[j]? = some op) : x.end? ops = some j ↔
    x.number < j ∧ x.end? (ops.take j) = none ∧ op.ends x.sweep := by
  obtain ⟨hlt, hop⟩ := List.getElem?_eq_some_iff.1 hj
  have hsplit : ops.take j ++ op :: ops.drop (j + 1) = ops := by simp [← hop]
  have htake : (ops.take j).length = j := List.length_take_of_le (Nat.le_of_lt hlt)
  by_cases hx : x.number < j
  · have hinside : x.number < (ops.take j).length := by omega
    have happ := end?_append hinside (op :: ops.drop (j + 1))
    rw [hsplit, htake] at happ
    rw [happ]
    cases hend : x.end? (ops.take j) with
    | some k =>
      have hk := lt_of_end? hend
      simp
      omega
    | none =>
      rw [Option.none_or, List.findIdx?_cons]
      cases he : op.ends x.sweep with
      | true => simp [hx]
      | false =>
        -- an operation behind this one has a greater number
        have hlater :
            ((List.findIdx? (·.ends x.sweep) (ops.drop (j + 1))).map (· + 1)).map (· + j) ≠
              some j := by
          intro heq
          obtain ⟨k, hk, hkj⟩ := Option.map_eq_some_iff.1 heq
          obtain ⟨i, -, rfl⟩ := Option.map_eq_some_iff.1 hk
          omega
        exact ⟨fun h => absurd h hlater, fun h => absurd h.2.2 (by simp)⟩
  · constructor
    · intro h
      exact absurd (lt_of_end? h).1 hx
    · intro h
      exact absurd h.1 hx

end End

/-- An operation defers a single sweep or keeps what it does not end. -/
theorem waiting_concat (h : t.isRunning = false) (ops : List Op) (op : Op) :
    (t.run (ops ++ [op])).waiting =
      match op.deferral? t ops with
      | some d => enqueue d (t.run ops).waiting
      | none => (t.run ops).waiting.filter fun d => !op.ends d := by
  rw [run_concat]
  cases op with
  | start now =>
    have hon := isRunning_run h ops
    cases hr : running ops with
    | true => simp [apply, start, hon, hr, Op.deferral?, Op.ends]
    | false => simp [apply, start, hon, hr, Op.deferral?, defer, startupDelay_run]
  | stop => simp [apply, stop, Op.deferral?, Op.ends]
  | nodeInit now node => simp [apply, deferNodeInit, Op.deferral?, defer, nodeInitDelay_run]
  | due now =>
    have hleft := dropWhile_due_eq (t.run ops).ordered now
    simpa [apply, due, advance, Op.deferral?, Op.ends] using hleft

theorem ends_eq_false_of_deferral? {d : Deferred} (h : op.deferral? t ops = some d)
    (e : Deferred) : op.ends e = false := by
  cases op with
  | start now => rfl
  | stop => simp [Op.deferral?] at h
  | nodeInit now node => rfl
  | due now => simp [Op.deferral?] at h

/-- What waits after a run, with the numbers of the operations that deferred it. -/
structure Queue (t : Timer) (ops : List Op) (q : List Ticket) : Prop where
  waiting : (t.run ops).waiting = q.map (·.sweep)
  ordered : q.Pairwise Ticket.Before
  mem : ∀ x, x ∈ q ↔ t.deferred? ops x.number = some x.sweep ∧ x.end? ops = none

namespace Queue

variable {q : List Ticket}

theorem lt_length (h : t.Queue ops q) (hx : x ∈ q) : x.number < ops.length :=
  lt_length_of_deferred? ((h.mem x).1 hx).1

theorem length_eq (h : t.Queue ops q) :
    q.length = (t.tickets ops).countP fun x => x.end? ops = none := by
  rw [List.countP_eq_length_filter]
  refine List.Perm.length_eq ((List.perm_ext_iff_of_nodup (nodup_of_before h.ordered)
    ((nodup_tickets t ops).filter _)).2 fun x => ?_)
  simp [h.mem, mem_tickets]

/-- An operation leaves what it does not end, and adds what it defers. -/
theorem mem_concat (h : t.Queue ops q) (op : Op) (x : Ticket) :
    t.deferred? (ops ++ [op]) x.number = some x.sweep ∧ x.end? (ops ++ [op]) = none ↔
      (x ∈ q ∧ op.ends x.sweep = false) ∨
        x.number = ops.length ∧ op.deferral? t ops = some x.sweep := by
  rw [h.mem]
  rcases Nat.lt_trichotomy x.number ops.length with hlt | heq | hgt
  · rw [deferred?_concat_of_lt hlt, end?_concat hlt, Option.or_eq_none_iff]
    cases op.ends x.sweep <;> simp [Nat.ne_of_lt hlt]
  · have hnone : t.deferred? ops ops.length = none := by simp [deferred?]
    have hend : x.end? (ops ++ [op]) = none := end?_of_length_le (by simp [heq])
    simp [heq, hnone, hend, deferred?_concat_length]
  · have hnone : t.deferred? ops x.number = none := by
      simp [deferred?, List.getElem?_eq_none (Nat.le_of_lt hgt)]
    have hnone' : t.deferred? (ops ++ [op]) x.number = none := by
      have hlen : (ops ++ [op]).length ≤ x.number := by
        rw [List.length_append]
        exact hgt
      simp [deferred?, List.getElem?_eq_none hlen]
    simp [hnone, hnone', Nat.ne_of_gt hgt]

theorem kept (h : t.Queue ops q) (hrun : t.isRunning = false)
    (hd : op.deferral? t ops = none) :
    t.Queue (ops ++ [op]) (q.filter fun x => !op.ends x.sweep) where
  waiting := by
    rw [waiting_concat hrun, hd, h.waiting, List.filter_map]
    rfl
  ordered := h.ordered.filter _
  mem x := by
    rw [h.mem_concat, hd, List.mem_filter, Bool.not_eq_true']
    simp

theorem enqueued (h : t.Queue ops q) (hrun : t.isRunning = false) {d : Deferred}
    (hd : op.deferral? t ops = some d) :
    t.Queue (ops ++ [op]) (q.filter (·.sweep.due ≤ d.due) ++
      ⟨ops.length, d⟩ :: q.filter fun x => !decide (x.sweep.due ≤ d.due)) where
  waiting := by
    rw [waiting_concat hrun, hd, List.map_append, List.map_cons]
    refine (enqueue_eq (t.run ops).ordered d).trans ?_
    rw [h.waiting, List.filter_map, List.filter_map]
    rfl
  ordered := by
    rw [List.pairwise_append, List.pairwise_cons]
    refine ⟨h.ordered.filter _, ⟨?_, h.ordered.filter _⟩, ?_⟩
    · intro y hy
      exact .inl (by simpa using (List.mem_filter.1 hy).2)
    · intro x hx y hy
      obtain ⟨hxq, hxd⟩ := List.mem_filter.1 hx
      have hle : x.sweep.due ≤ d.due := by simpa using hxd
      rcases List.mem_cons.1 hy with rfl | hy
      -- what was deferred before has a smaller number, so a tie goes to it
      · rcases Nat.lt_or_eq_of_le hle with hlt | heq
        · exact .inl hlt
        · exact .inr ⟨heq, h.lt_length hxq⟩
      · have hlt : d.due < y.sweep.due := by simpa using (List.mem_filter.1 hy).2
        exact .inl (Nat.lt_of_le_of_lt hle hlt)
  mem x := by
    obtain ⟨i, e⟩ := x
    rw [h.mem_concat, hd, List.mem_append, List.mem_cons, List.mem_filter, List.mem_filter]
    have hends := ends_eq_false_of_deferral? hd e
    by_cases hle : e.due ≤ d.due <;> simp [hends, hle, eq_comm (a := d), or_comm]

end Queue

theorem exists_queue (hrun : t.isRunning = false) (hwait : t.waiting = []) (ops : List Op) :
    ∃ q, t.Queue ops q := by
  induction ops using List.reverseRecOn with
  | nil => exact ⟨[], hwait, .nil, by simp [deferred?]⟩
  | append_singleton ops op ih =>
    obtain ⟨q, h⟩ := ih
    cases hd : op.deferral? t ops with
    | none => exact ⟨_, h.kept hrun hd⟩
    | some d => exact ⟨_, h.enqueued hrun hd⟩

theorem reason_ne_periodic {d : Deferred} (h : t.deferred? ops i = some d) :
    d.reason ≠ .periodic := by
  obtain ⟨op, -, hd⟩ := Option.bind_eq_some_iff.1 h
  cases op with
  | start now =>
    simp only [Op.deferral?] at hd
    split at hd
    · simp at hd
    · obtain rfl := Option.some.inj hd
      simp
  | nodeInit now node =>
    obtain rfl := Option.some.inj hd
    simp
  | stop => simp [Op.deferral?] at hd
  | due now => simp [Op.deferral?] at hd

section Returned

variable {q : List Ticket}

theorem Queue.due_eq (h : t.Queue ops q) (now : Instant) : ((t.run ops).due now).1 =
    (q.filter (·.sweep.due ≤ now)).map (·.sweep.reason) ++
      if (t.run ops).sweepIsDue now then [.periodic] else [] := by
  rw [due, takeWhile_due_eq (t.run ops).ordered, h.waiting, List.filter_map, List.map_map]
  rfl

theorem Queue.countP_due (h : t.Queue ops q) (now : Instant) :
    ((t.run ops).due now).1.countP (· ≠ .periodic) = (q.filter (·.sweep.due ≤ now)).length := by
  have hperiodic : (if (t.run ops).sweepIsDue now then [Reason.periodic] else []).countP
      (· ≠ .periodic) = 0 := by
    split <;> rfl
  rw [h.due_eq, List.countP_append, hperiodic, Nat.add_zero, List.countP_map, List.countP_eq_length]
  intro x hx
  have hdeferred := ((h.mem x).1 (List.mem_filter.1 hx).1).1
  simpa using reason_ne_periodic hdeferred

theorem returned_of_due (hrun : t.isRunning = false) (hwait : t.waiting = []) {now : Instant}
    (hj : ops[j]? = some (.due now)) : ∃ taken : List Ticket, ∃ periodic,
      t.returned ops j = taken.map (·.sweep.reason) ++ periodic ∧
      (periodic = [] ∨ periodic = [.periodic]) ∧
      taken.Pairwise Ticket.Before ∧
      ∀ x, x ∈ taken ↔ t.deferred? ops x.number = some x.sweep ∧ x.end? ops = some j := by
  obtain ⟨q, h⟩ := exists_queue hrun hwait (ops.take j)
  have hreturned : t.returned ops j = ((t.run (ops.take j)).due now).1 := by
    simp [returned, hj, apply]
  refine ⟨_, _, hreturned.trans (h.due_eq now), ?_, h.ordered.filter _, ?_⟩
  · split
    · exact .inr rfl
    · exact .inl rfl
  · intro x
    rw [List.mem_filter, h.mem, end?_eq_some_iff hj]
    by_cases hx : x.number < j
    · have htake : t.deferred? (ops.take j) x.number = t.deferred? ops x.number := by
        simp [deferred?, List.getElem?_take_of_lt hx, List.take_take,
          Nat.min_eq_left (Nat.le_of_lt hx)]
      simp [htake, hx, Op.ends, and_assoc]
    · have hnone : t.deferred? (ops.take j) x.number = none := by
        rw [deferred?, List.getElem?_take, if_neg hx]
        rfl
      simp [hnone, hx]

end Returned

section Accounting

theorem countP_or {α : Type} {p q : α → Bool} {l : List α} (h : ∀ a ∈ l, ¬(p a ∧ q a)) :
    (l.countP fun a => p a || q a) = l.countP p + l.countP q := by
  induction l with
  | nil => rfl
  | cons a rest ih =>
    have hrest := ih fun b hb => h b (List.mem_cons_of_mem _ hb)
    have ha := h a (by simp)
    simp only [List.countP_cons, hrest]
    cases hp : p a <;> cases hq : q a <;> simp_all <;> omega

theorem delivered_concat (t : Timer) (ops : List Op) (op : Op) :
    t.delivered (ops ++ [op]) =
      t.delivered ops + ((t.run ops).apply op).1.countP (· ≠ .periodic) := by
  have hlen : (ops ++ [op]).length = ops.length + 1 := by simp
  have hold : (List.range ops.length).map (t.returned (ops ++ [op])) =
      (List.range ops.length).map (t.returned ops) :=
    List.map_congr_left fun j hj => returned_concat_of_lt (List.mem_range.1 hj) t op
  rw [delivered, hlen, List.range_succ, List.flatMap_append, List.countP_append, List.flatMap_def,
    hold, List.flatMap_singleton, returned_concat_length]
  rfl

theorem dropped_concat (t : Timer) (ops : List Op) (op : Op) : t.dropped (ops ++ [op]) =
    t.dropped ops +
      if op = .stop then (t.tickets ops).countP fun x => x.end? ops = none else 0 := by
  have hnew : (((op.deferral? t ops).map (Ticket.mk ops.length)).toList).countP (fun x =>
      x.endedBy? (ops ++ [op]) = some .stop) = 0 := by
    cases op.deferral? t ops with
    | none => rfl
    | some d => simp [Ticket.endedBy?, end?_of_length_le]
  have hold (x : Ticket) (hx : x ∈ t.tickets ops) :
      x.endedBy? (ops ++ [op]) = some .stop ↔
        x.endedBy? ops = some .stop ∨ x.end? ops = none ∧ op = .stop := by
    rw [endedBy?_concat (lt_length_of_deferred? (mem_tickets.1 hx)), ← endedBy?_eq_none_iff]
    cases x.endedBy? ops with
    | some other => simp
    | none => cases op <;> simp [Op.ends]
  have hsplit : t.dropped (ops ++ [op]) = (t.tickets ops).countP fun x =>
      decide (x.endedBy? ops = some .stop) || decide (x.end? ops = none ∧ op = .stop) := by
    rw [dropped, tickets_concat, List.countP_append, hnew, Nat.add_zero]
    apply List.countP_congr
    intro x hx
    simpa using hold x hx
  rw [hsplit, countP_or, dropped]
  · split
    · next hstop => simp [hstop]
    · next hstop => simp [hstop]
  · intro x _
    simp only [decide_eq_true_eq]
    rintro ⟨hstop, hnone, -⟩
    simp [endedBy?_eq_none_iff.2 hnone] at hstop

theorem pending_add_delivered_add_dropped (hrun : t.isRunning = false) (hwait : t.waiting = [])
    (ops : List Op) :
    (t.run ops).pending + t.delivered ops + t.dropped ops = (t.tickets ops).length := by
  induction ops using List.reverseRecOn with
  | nil => simp [run, pending, hwait, delivered, dropped, tickets]
  | append_singleton ops op ih =>
    obtain ⟨q, h⟩ := exists_queue hrun hwait ops
    have hlength {q' : List Ticket} {ops' : List Op} (h' : t.Queue ops' q') :
        (t.run ops').pending = q'.length := by
      simp [pending, h'.waiting]
    rw [hlength h] at ih
    rw [delivered_concat, dropped_concat, tickets_concat, List.length_append, ← h.length_eq]
    cases hd : op.deferral? t ops with
    | some d =>
      have hsplit := q.length_eq_length_filter_add fun x => x.sweep.due ≤ d.due
      have hquiet : ((t.run ops).apply op).1 = [] ∧ op ≠ .stop := by
        cases op <;> simp_all [apply, Op.deferral?]
      simp [hlength (h.enqueued hrun hd), hquiet]
      omega
    | none =>
      rw [hlength (h.kept hrun hd)]
      cases op with
      | start now =>
        simp [apply, Op.ends]
        omega
      | stop =>
        simp [apply, Op.ends]
        omega
      | nodeInit now node => simp [Op.deferral?] at hd
      | due now =>
        have hsplit := q.length_eq_length_filter_add fun x => x.sweep.due ≤ now
        have htaken : ((t.run ops).apply (.due now)).1.countP (· ≠ .periodic) = _ :=
          h.countP_due now
        rw [htaken]
        simp [Op.ends]
        omega

theorem countP_enqueue (p : Deferred → Bool) (d : Deferred) (es : List Deferred) :
    (enqueue d es).countP p = (d :: es).countP p := by
  induction es with
  | nil => rfl
  | cons e rest ih =>
    rw [enqueue]
    split
    · rfl
    · simp only [List.countP_cons] at ih ⊢
      omega

/-- At most one startup sweep waits, and none while the timer is stopped. -/
theorem startups_run (hrun : t.isRunning = false) (hwait : t.waiting = []) (ops : List Op) :
    (t.run ops).startups ≤ 1 ∧ (running ops = false → (t.run ops).startups = 0) := by
  induction ops using List.reverseRecOn with
  | nil => simp [run, startups, hwait]
  | append_singleton ops op ih =>
    have hwaiting := waiting_concat hrun ops op
    rw [startups, hwaiting, running_concat]
    cases hd : op.deferral? t ops with
    | some d =>
      simp only [countP_enqueue, List.countP_cons]
      cases op with
      | start now =>
        cases hr : running ops with
        | true => simp [Op.deferral?, hr] at hd
        | false =>
          have hnone : (t.run ops).waiting.countP (·.reason = .startup) = 0 := ih.2 hr
          rw [hnone]
          split <;> simp
      | stop => simp [Op.deferral?] at hd
      | nodeInit now node =>
        obtain rfl := Option.some.inj hd
        simpa [startups] using ih
      | due now => simp [Op.deferral?] at hd
    | none =>
      have hle : ((t.run ops).waiting.filter fun d => !op.ends d).countP
          (·.reason = .startup) ≤ (t.run ops).startups :=
        List.filter_sublist.countP_le
      cases op with
      | start now => exact ⟨Nat.le_trans hle ih.1, by simp⟩
      | stop => simp [Op.ends]
      | nodeInit now node => simp [Op.deferral?] at hd
      | due now => exact ⟨Nat.le_trans hle ih.1, fun hr => Nat.le_zero.1 (ih.2 hr ▸ hle)⟩

end Accounting

/-- Every run of a new timer delivers the single sweeps that it defers. -/
theorem delivers_new (interval startupDelay nodeInitDelay : Duration) (ops : List Op) :
    (new interval startupDelay nodeInitDelay).Delivers ops where
  returned _ _ hj := returned_of_due (isRunning_new ..) (waiting_new ..) hj
  silent j op hj hdue := by
    simp only [Timer.returned, hj]
    cases op with
    | due now => exact absurd rfl (hdue now)
    | _ => rfl
  pending := pending_add_delivered_add_dropped (isRunning_new ..) (waiting_new ..) ops
  startups := (startups_run (isRunning_new ..) (waiting_new ..) ops).1
  isRunning := isRunning_run (isRunning_new ..) ops

/-- Three sweeps with one deadline come in the order in which they were deferred. -/
example : (ofSettings .standard).returned [.start 0, .nodeInit 400000000 7, .nodeInit 400000000 8,
    .due 499999999, .due 500000000] 4 = [.startup, .nodeInit 7, .nodeInit 8] := by decide

end Timer

end NodeVariables
