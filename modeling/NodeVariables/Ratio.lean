namespace NodeVariables

structure Ratio where
  num : Nat
  den : Nat
  den_pos : 0 < den := by decide

namespace Ratio

def ofNat (n : Nat) : Ratio := ⟨n, 1, by decide⟩

def mul (a b : Ratio) : Ratio := ⟨a.num * b.num, a.den * b.den, Nat.mul_pos a.den_pos b.den_pos⟩

/-- The ratio times a power of the base; a negative exponent divides. -/
def scale (a : Ratio) (base : Nat) (h : 0 < base) : Int → Ratio
  | .ofNat n => ⟨a.num * Nat.pow base n, a.den, a.den_pos⟩
  | .negSucc n => ⟨a.num, a.den * Nat.pow base (n + 1), Nat.mul_pos a.den_pos (Nat.pow_pos h)⟩

def lt (a b : Ratio) : Bool := a.num * b.den < b.num * a.den

def le (a b : Ratio) : Bool := a.num * b.den ≤ b.num * a.den

def floor (a : Ratio) : Nat := a.num / a.den

/-- The nearest natural number; a half goes to the even neighbour. -/
def round (a : Ratio) : Nat :=
  let q := a.num / a.den
  let twice := 2 * (a.num % a.den)
  if twice < a.den then q
  else if a.den < twice then q + 1
  else q + q % 2

end Ratio

end NodeVariables
