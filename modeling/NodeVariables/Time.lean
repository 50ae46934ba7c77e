namespace NodeVariables

def nanosPerSecond : Nat := 1000000000

structure Duration where
  seconds : UInt64
  nanos : UInt32
  nanos_lt : nanos.toNat < nanosPerSecond

namespace Duration

def toNanos (d : Duration) : Nat := d.seconds.toNat * nanosPerSecond + d.nanos.toNat

/-- The span of some nanoseconds; its seconds must fit 64 bits. -/
def ofNanos (n : Nat) : Duration where
  seconds := .ofNat (n / nanosPerSecond)
  nanos := .ofNat (n % nanosPerSecond)
  nanos_lt := by
    have : n % nanosPerSecond < nanosPerSecond := Nat.mod_lt _ (by decide)
    simp only [UInt32.toNat_ofNat', nanosPerSecond] at this ⊢
    omega

def ofMillis (ms : UInt64) : Duration := ofNanos (ms.toNat * 1000000)

theorem toNanos_ofNanos {n : Nat} (h : n / nanosPerSecond < UInt64.size) :
    (ofNanos n).toNanos = n := by
  have hm : n % nanosPerSecond < 2 ^ 32 :=
    Nat.lt_trans (Nat.mod_lt _ (by decide)) (by decide)
  simp only [toNanos, ofNanos, UInt64.toNat_ofNat', UInt32.toNat_ofNat', Nat.mod_eq_of_lt h,
    Nat.mod_eq_of_lt hm]
  exact Nat.div_add_mod' n nanosPerSecond

theorem toNanos_ofMillis (ms : UInt64) : (ofMillis ms).toNanos = ms.toNat * 1000000 :=
  toNanos_ofNanos (by have := ms.toNat_lt; simp only [nanosPerSecond, UInt64.size]; omega)

end Duration

/-- Nanoseconds since the origin. There is no last instant: the sum of an instant and a span is
assumed to be one that the clock can tell. -/
abbrev Instant := Nat

end NodeVariables
