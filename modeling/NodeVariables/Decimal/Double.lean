import NodeVariables.Ratio

namespace NodeVariables.Decimal

/-- A finite double without its sign: `significand · 2 ^ exponent`. -/
structure Double where
  significand : Nat
  exponent : Int
deriving DecidableEq, Repr

namespace Double

def minExponent : Int := -1074

def maxExponent : Int := 971

def zero : Double := ⟨0, minExponent⟩

def isZero (x : Double) : Bool := x.significand = 0

def toRatio (x : Double) : Ratio := (Ratio.ofNat x.significand).scale 2 (by decide) x.exponent

/-- The exponent at which a ratio has a significand of 53 bits, or the least one. -/
def exponentOf (a : Ratio) : Int :=
  let bits : Int := (Nat.log2 a.num : Int) - Nat.log2 a.den
  let reaches := ((Ratio.ofNat 1).scale 2 (by decide) bits).le a
  max minExponent (if reaches then bits - 52 else bits - 53)

/-- The nearest double; none when it would exceed every finite one. -/
def nearest? (a : Ratio) : Option Double :=
  if a.num = 0 then some zero
  else
    let e := exponentOf a
    let m := (a.scale 2 (by decide) (-e)).round
    let x : Double := if m = Nat.pow 2 53 then ⟨Nat.pow 2 52, e + 1⟩ else ⟨m, e⟩
    if x.exponent ≤ maxExponent then some x else none

def pow10 (n : Nat) : Ratio :=
  match nearest? (Ratio.ofNat (Nat.pow 10 n)) with
  | some x => x.toRatio
  | none => Ratio.ofNat (Nat.pow 10 n)

def mulPow10? (x : Double) (n : Nat) : Option Double := nearest? (x.toRatio.mul (pow10 n))

def divPow10 (x : Double) (n : Nat) : Double :=
  let p := pow10 n
  if h : 0 < p.num then (nearest? (x.toRatio.mul ⟨p.den, p.num, h⟩)).getD zero else zero

def maxPow10 : Nat := 308

/-- A decimal significand times a power of ten, each step rounded: the significand first, then
one multiplication, or as many divisions as the exponent needs. None when out of range. -/
def ofDecimal? (significand : Nat) (exponent : Int) : Option Double := do
  let x ← nearest? (Ratio.ofNat significand)
  match exponent with
  | .ofNat n =>
    if x.isZero then return zero
    else if n ≤ maxPow10 then x.mulPow10? n
    else none
  | .negSucc n =>
    if n + 1 ≤ maxPow10 then return x.divPow10 (n + 1)
    else if n + 1 ≤ 2 * maxPow10 then
      return (x.divPow10 maxPow10).divPow10 (n + 1 - maxPow10)
    else return zero

end Double

end NodeVariables.Decimal
