import NodeVariables.Decimal.Double
/-!
The text of a double with the fewest digits that read back as the same number. For each count of
digits from one up, the neighbours of the value on that decimal grid are tested against the
interval of reals that round to it; the first grid with a hit decides.
-/
namespace NodeVariables.Decimal

def digitCount (n : Nat) : Nat := (Nat.toDigits 10 n).length

def leadingExponent (a : Ratio) : Int :=
  if a.den ≤ a.num then (digitCount a.floor : Int) - 1
  else -(digitCount ((a.den + a.num - 1) / a.num - 1) : Int)

/-- The reals that round to a double: between the midpoints to its neighbours, which belong to it
when its significand is even. Below a power of two the neighbour is half as far. -/
structure Interval where
  low : Ratio
  high : Ratio
  closed : Bool

def Interval.contains (i : Interval) (a : Ratio) : Bool :=
  if i.closed then i.low.le a && a.le i.high else i.low.lt a && a.lt i.high

def Double.interval (x : Double) : Interval :=
  let quarter (n : Nat) := (Ratio.ofNat n).scale 2 Nat.two_pos (x.exponent - 2)
  let m := 4 * x.significand
  let below := if x.significand = Nat.pow 2 52 ∧ x.exponent ≠ minExponent then m - 1 else m - 2
  ⟨quarter below, quarter (m + 2), x.significand % 2 = 0⟩

structure Scientific where
  digits : Nat
  exponent : Int
deriving DecidableEq, Repr

def Scientific.toRatio (s : Scientific) : Ratio :=
  (Ratio.ofNat s.digits).scale 10 (by decide) s.exponent

/-- The neighbour of a double on the grid of spacing `10 ^ e` that reads back as the double: the
nearer one if both do, the even one if they are equally near. -/
def onGrid? (x : Double) (e : Int) : Option Scientific :=
  let v := x.toRatio.scale 10 (by decide) (-e)
  let below : Scientific := ⟨v.floor, e⟩
  let above : Scientific := ⟨v.floor + 1, e⟩
  let nearest : Scientific := ⟨v.round, e⟩
  match x.interval.contains below.toRatio, x.interval.contains above.toRatio with
  | true, true => some nearest
  | true, false => some below
  | false, true => some above
  | false, false => none

/-- The shortest decimal of a double; seventeen digits always suffice. -/
def Double.shortest (x : Double) : Scientific :=
  let k := leadingExponent x.toRatio
  ((List.range 17).findSome? fun n : Nat => onGrid? x (k - n)).getD ⟨0, 0⟩

/-- How a format writes a decimal: the exponents of the leading digit between which it shows no
exponent, and the marks before the digits of all other exponents. -/
structure Layout where
  leastPositional : Int
  greatestPositional : Int
  positiveMark : String
  negativeMark : String

def withPoint (digits : List Char) (n : Nat) : List Char :=
  let whole := (digits ++ List.replicate (n - digits.length) '0').take n
  let part := digits.drop n
  whole ++ '.' :: (if part.isEmpty then ['0'] else part)

/-- A number without its trailing zeros, of which at most a given count is removed. -/
def trimZeros (n : Nat) : Nat → Nat
  | 0 => n
  | k + 1 => if n % 10 = 0 ∧ n ≠ 0 then trimZeros (n / 10) k else n

def Layout.write (l : Layout) (s : Scientific) : List Char :=
  let lead := s.exponent + digitCount s.digits - 1
  let digits := Nat.toDigits 10 (trimZeros s.digits (digitCount s.digits))
  if l.leastPositional ≤ lead ∧ lead ≤ l.greatestPositional then
    if 0 ≤ lead then withPoint digits (lead.toNat + 1)
    else '0' :: '.' :: List.replicate ((-lead).toNat - 1) '0' ++ digits
  else
    let mantissa := match digits with
      | [d] => [d]
      | ds => withPoint ds 1
    let mark := if 0 ≤ lead then l.positiveMark else l.negativeMark
    mantissa ++ mark.toList ++ Nat.toDigits 10 lead.natAbs

def Layout.text (l : Layout) (negative : Bool) (x : Double) : String :=
  let magnitude := if x.isZero then ['0', '.', '0'] else l.write x.shortest
  String.ofList (if negative then '-' :: magnitude else magnitude)

end NodeVariables.Decimal
