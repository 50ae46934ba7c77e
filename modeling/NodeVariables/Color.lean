import NodeVariables.Ratio
import NodeVariables.Text
/-!
Slot colors: their notation as six hexadecimal digits, and the stored form of a translucent color. A
channel of it is turned into linear light, dimmed by the alpha and turned back, with rounding to the
nearest byte. The curve between the two is linear for dark values and a power of 12/5 above; light
is compared by its fifth power, which keeps the computation in whole numbers.
-/
namespace NodeVariables

structure Color where
  red : UInt8
  green : UInt8
  blue : UInt8
  alpha : UInt8
deriving DecidableEq, Repr

namespace Color

open Text (hexDigit hexDigit?)

def rgb (red green blue : UInt8) : Color := ⟨red, green, blue, 255⟩

/-- Two characters as a hexadecimal number: two digits, or a plus sign and one digit. -/
def channel? (c d : Char) : Option UInt8 :=
  if c = '+' then (hexDigit? d).map UInt8.ofNat
  else do return UInt8.ofNat (16 * (← hexDigit? c) + (← hexDigit? d))

/-- Reads six hexadecimal places, after a number sign or without one. -/
def ofHex? (s : String) : Option Color :=
  let places := match s.toList with
    | '#' :: r => r
    | r => r
  match places with
  | [a, b, c, d, e, f] => do return rgb (← channel? a b) (← channel? c d) (← channel? e f)
  | _ => none

def hexByte (b : UInt8) : List Char := [hexDigit (b.toNat / 16), hexDigit (b.toNat % 16)]

/-- Upper-case notation; the alpha is not shown. -/
def toHex (c : Color) : String :=
  String.ofList ('#' :: (hexByte c.red ++ hexByte c.green ++ hexByte c.blue))

def lastLinear : Nat := 10

/-- The fifth power of the light of a channel dimmed by an alpha: `v / 3294.6` on the linear part,
`((v + 14.025) / 269.025) ^ (12/5)` above it, times `a / 255`. -/
def lightPow5 (v a : Nat) : Ratio :=
  if v ≤ lastLinear then ⟨Nat.pow (10 * v * a) 5, Nat.pow (32946 * 255) 5, by decide⟩
  else
    ⟨Nat.pow a 5 * Nat.pow (1000 * v + 14025) 12, Nat.pow 255 5 * Nat.pow 269025 12, by decide⟩

def linearLightPow5 : Ratio := ⟨Nat.pow 31308 5, Nat.pow 10000000 5, by decide⟩

/-- The fifth power of the least light that is written as a channel of `k` or more, which is half
a step below `k`. -/
def stepPow5 (linear : Bool) (k : Nat) : Ratio :=
  if linear then ⟨Nat.pow (10 * (2 * k - 1)) 5, Nat.pow (2 * 32946) 5, by decide⟩
  else ⟨Nat.pow (1000 * k + 13525) 12, Nat.pow 269025 12, by decide⟩

/-- The greatest channel of at most `bound` whose step the light reaches. -/
def channelAtMost (light : Ratio) (linear : Bool) : Nat → Nat
  | 0 => 0
  | k + 1 =>
    if (stepPow5 linear (k + 1)).le light then k + 1 else channelAtMost light linear k

def dim (v a : UInt8) : UInt8 :=
  let light := lightPow5 v.toNat a.toNat
  UInt8.ofNat (channelAtMost light (light.le linearLightPow5) 255)

/-- The stored form of a color given by its undimmed channels. Full alpha keeps them, no alpha
leaves nothing of them. -/
def ofStraight (red green blue alpha : UInt8) : Color :=
  if alpha = 255 then rgb red green blue
  else if alpha = 0 then ⟨0, 0, 0, 0⟩
  else ⟨dim red alpha, dim green alpha, dim blue alpha, alpha⟩

end Color

end NodeVariables
