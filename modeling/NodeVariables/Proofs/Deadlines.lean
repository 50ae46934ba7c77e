import NodeVariables.Proofs.Ticks

namespace NodeVariables.Timer

variable {t : Timer} {now d : Instant}

def deadlines (t : Timer) : List Instant := t.waiting.map (·.due) ++ t.nextSweep.toList

/-- What a host that looks at the next deadline can rely on at a time. -/
structure Punctual (t : Timer) (now : Instant) : Prop where
  /-- Nothing is returned just if no deadline has been reached. -/
  due_eq_nil_iff : (t.due now).1 = [] ↔ ∀ d, t.nextDeadline = some d → now < d
  later : ∀ d, (t.due now).2.nextDeadline = some d → now < d
  quiet : ∀ time ≤ now, ((t.due now).2.due time).1 = []
  notEarlier : ∀ d, (t.due now).2.nextDeadline = some d → ∃ e, t.nextDeadline = some e ∧ e ≤ d

def reasons (t : Timer) (ops : List Op) : List Reason :=
  (List.range ops.length).flatMap (t.returned ops)

def isEarly (t : Timer) : Op → Bool
  | .due now => t.nextDeadline.all (now < ·)
  | _ => false

/-- The operations of a host that sleeps until the next deadline: those of a run without the calls
that come too early. -/
def awake (t : Timer) : List Op → List Op
  | [] => []
  | op :: ops => if t.isEarly op then t.awake ops else op :: (t.apply op).2.awake ops

section Deadlines

theorem mem_deadlines_iff :
    d ∈ t.deadlines ↔ (∃ e ∈ t.waiting, e.due = d) ∨ t.nextSweep = some d := by
  simp [deadlines]

theorem nextDeadline_eq_some_iff :
    t.nextDeadline = some d ↔ d ∈ t.deadlines ∧ ∀ e ∈ t.deadlines, d ≤ e :=
  List.min?_eq_some_iff

theorem exists_nextDeadline (h : d ∈ t.deadlines) : ∃ e, t.nextDeadline = some e ∧ e ≤ d := by
  obtain ⟨e, he⟩ := Option.isSome_iff_exists.1 (List.isSome_min?_of_mem h)
  exact ⟨e, he, (nextDeadline_eq_some_iff.1 he).2 d h⟩

/-- A time is before the next deadline if it is before all of them. -/
theorem lt_nextDeadline_iff :
    (∀ d, t.nextDeadline = some d → now < d) ↔ ∀ d ∈ t.deadlines, now < d := by
  constructor
  · intro h d hd
    obtain ⟨e, he, hle⟩ := exists_nextDeadline hd
    exact Nat.lt_of_lt_of_le (h e he) hle
  · intro h d hd
    exact h d (nextDeadline_eq_some_iff.1 hd).1

end Deadlines

section Due

theorem due_eq_nil_iff : (t.due now).1 = [] ↔ ∀ d ∈ t.deadlines, now < d := by
  have hsingle : (t.waiting.takeWhile (·.due ≤ now)).map (·.reason) = [] ↔
      ∀ e ∈ t.waiting, now < e.due := by
    rw [takeWhile_due_eq t.ordered, List.map_eq_nil_iff, List.filter_eq_nil_iff]
    simp
  have hsweep : (if t.sweepIsDue now then [Reason.periodic] else []) = [] ↔
      ∀ next, t.nextSweep = some next → now < next := by
    cases hnext : t.nextSweep <;> simp [sweepIsDue, hnext]
  rw [due, List.append_eq_nil_iff, hsingle, hsweep]
  constructor
  · rintro ⟨hwaiting, hnext⟩ d hd
    rcases mem_deadlines_iff.1 hd with ⟨e, he, rfl⟩ | hd
    · exact hwaiting e he
    · exact hnext d hd
  · intro h
    exact ⟨fun e he => h _ (mem_deadlines_iff.2 (.inl ⟨e, he, rfl⟩)),
      fun next hnext => h next (mem_deadlines_iff.2 (.inr hnext))⟩

theorem waiting_advance (t : Timer) (now : Instant) :
    (t.advance now).waiting = t.waiting.filter fun e => !decide (e.due ≤ now) :=
  dropWhile_due_eq t.ordered now

/-- What is left after a call is due later than the call, and no earlier than something was
before. -/
theorem deadlines_advance (hd : d ∈ (t.advance now).deadlines) :
    now < d ∧ ∃ e ∈ t.deadlines, e ≤ d := by
  rcases mem_deadlines_iff.1 hd with ⟨e, he, rfl⟩ | hd
  · rw [waiting_advance, List.mem_filter] at he
    have hlate : now < e.due := by simpa using he.2
    exact ⟨hlate, e.due, mem_deadlines_iff.2 (.inl ⟨e, he.1, rfl⟩), Nat.le_refl _⟩
  · obtain ⟨next, hnext, htick⟩ := Option.map_eq_some_iff.1 hd
    have hmem : next ∈ t.deadlines := mem_deadlines_iff.2 (.inr hnext)
    split at htick
    · next hle =>
      have hlt := t.lt_nextTick next now
      rw [htick] at hlt
      exact ⟨hlt, next, hmem, Nat.le_trans hle (Nat.le_of_lt hlt)⟩
    · next hgt =>
      rw [← htick]
      exact ⟨Nat.lt_of_not_le hgt, next, hmem, Nat.le_refl _⟩

/-- A call before all deadlines takes nothing and leaves the timer as it is. -/
theorem advance_eq_self (h : ∀ d ∈ t.deadlines, now < d) : t.advance now = t := by
  have hwaiting : (t.advance now).waiting = t.waiting := by
    rw [waiting_advance, List.filter_eq_self]
    intro e he
    have hlt := h e.due (mem_deadlines_iff.2 (.inl ⟨e, he, rfl⟩))
    simpa using hlt
  have hnext : (t.advance now).nextSweep = t.nextSweep := by
    rw [advance]
    cases hs : t.nextSweep with
    | none => rfl
    | some next =>
      have hlt := h next (mem_deadlines_iff.2 (.inr hs))
      rw [Option.map_some, if_neg (Nat.not_le.2 hlt)]
  cases t
  simp only [advance, mk.injEq, true_and] at hwaiting hnext ⊢
  exact ⟨hnext, hwaiting⟩

theorem punctual (t : Timer) (now : Instant) : t.Punctual now where
  due_eq_nil_iff := due_eq_nil_iff.trans lt_nextDeadline_iff.symm
  later := lt_nextDeadline_iff.2 fun _ hd => (deadlines_advance hd).1
  quiet time htime :=
    due_eq_nil_iff.2 fun _ hd => Nat.lt_of_le_of_lt htime (deadlines_advance hd).1
  notEarlier d hd := by
    obtain ⟨-, e, he, hle⟩ := deadlines_advance (nextDeadline_eq_some_iff.1 hd).1
    obtain ⟨first, hfirst, hle'⟩ := exists_nextDeadline he
    exact ⟨first, hfirst, Nat.le_trans hle' hle⟩

end Due

section Sleeping

variable {op : Op}

theorem reasons_cons (t : Timer) (op : Op) (ops : List Op) :
    t.reasons (op :: ops) = (t.apply op).1 ++ (t.apply op).2.reasons ops := by
  rw [reasons, List.length_cons, List.range_succ_eq_map, List.flatMap_cons, List.flatMap_map]
  rfl

theorem apply_of_isEarly (h : t.isEarly op) : t.apply op = ([], t) := by
  cases op with
  | due now =>
    have hearly : ∀ d, t.nextDeadline = some d → now < d := by
      simpa [isEarly, Option.all_eq_true] using h
    refine Prod.ext ((t.punctual now).due_eq_nil_iff.2 hearly) ?_
    exact advance_eq_self (lt_nextDeadline_iff.1 hearly)
  | _ => simp [isEarly] at h

theorem awake_frame (t : Timer) (ops : List Op) :
    t.run (t.awake ops) = t.run ops ∧ t.reasons (t.awake ops) = t.reasons ops := by
  induction ops generalizing t with
  | nil => exact ⟨rfl, rfl⟩
  | cons op ops ih =>
    rw [awake]
    split
    · next hearly =>
      have hrun : t.run (op :: ops) = (t.apply op).2.run ops := rfl
      rw [hrun, reasons_cons, apply_of_isEarly hearly]
      exact ih t
    · obtain ⟨hrun, hreasons⟩ := ih (t.apply op).2
      refine ⟨hrun, ?_⟩
      rw [reasons_cons, reasons_cons, hreasons]

/-- A host can sleep until the next deadline. In whatever state a run leaves a timer, a call returns
something just if the deadline has been reached, and then leaves a later one and never an earlier
one; and a run without the calls that come too early returns the same and ends in the same state. -/
theorem sleeps_until_nextDeadline (t : Timer) (ops : List Op) :
    (∀ now, (t.run ops).Punctual now) ∧
    t.run (t.awake ops) = t.run ops ∧ t.reasons (t.awake ops) = t.reasons ops :=
  ⟨(t.run ops).punctual, t.awake_frame ops⟩

end Sleeping

end NodeVariables.Timer
