import NodeVariables.Json.Reader.Basic
/-!
Numbers. A significand holds 64 bits: digits of a whole number that do not fit raise its power of
ten, and digits after the point that do not fit are dropped.
-/
namespace NodeVariables.Json

open Decimal (Double)

def isDigit (c : Char) : Bool := '0' ≤ c && c ≤ '9'

def digitValue (c : Char) : Nat := c.toNat - '0'.toNat

def startsWithDigit : List Char → Bool
  | c :: _ => isDigit c
  | [] => false

def dropDigits (s : List Char) : List Char := s.dropWhile isDigit

/-- The fault of a text that goes on without a digit where one must stand. -/
def noDigit : List Char → Fault
  | [] => .endInValue
  | _ => .badNumber

structure Digits where
  significand : Nat
  count : Nat
  rest : List Char

/-- Takes digits as long as the significand stays below `2 ^ 64`. -/
def takeDigits (significand count : Nat) : List Char → Digits
  | [] => ⟨significand, count, []⟩
  | c :: rest =>
    if isDigit c ∧ 10 * significand + digitValue c < UInt64.size then
      takeDigits (10 * significand + digitValue c) (count + 1) rest
    else ⟨significand, count, c :: rest⟩

def leadingDigits (value : Nat) : List Char → Nat
  | [] => value
  | c :: rest => if isDigit c then leadingDigits (10 * value + digitValue c) rest else value

def real (minus : Bool) (significand : Nat) (exponent : Int) : Except Fault Number :=
  match Double.ofDecimal? significand exponent with
  | some x => .ok (.real minus x)
  | none => .error .outOfRange

def exponentEnd (minus : Bool) (significand : Nat) (exponent : Int) : Reader Number := fun s =>
  let (sign, digits) : Int × List Char := match s with
    | '+' :: r => (1, r)
    | '-' :: r => (-1, r)
    | r => (1, r)
  if startsWithDigit digits then do
    return (← real minus significand (exponent + sign * leadingDigits 0 digits), dropDigits digits)
  else .error (noDigit digits)

def scaledEnd (minus : Bool) (significand : Nat) (exponent : Int) : Reader Number := fun s =>
  match s with
  | 'e' :: r => exponentEnd minus significand exponent r
  | 'E' :: r => exponentEnd minus significand exponent r
  | r => do return (← real minus significand exponent, r)

def fractionEnd (minus : Bool) (significand : Nat) (exponent : Int) : Reader Number := fun s =>
  if startsWithDigit s then
    let digits := takeDigits significand 0 s
    scaledEnd minus digits.significand (exponent - digits.count) (dropDigits digits.rest)
  else .error (noDigit s)

/-- A whole number of 64 bits, or the double nearest to a negative one out of range; minus zero
is a double. -/
def wholeNumber (minus : Bool) (n : Nat) : Except Fault Number :=
  if !minus then .ok (.natural n)
  else if n = 0 ∨ UInt64.size / 2 < n then real true n 0
  else .ok (.negative n)

/-- A number from the end of its whole part on; `dropped` digits did not fit. -/
def wholeEnd (minus : Bool) (significand dropped : Nat) : Reader Number := fun s =>
  match s with
  | '.' :: r => fractionEnd minus significand dropped r
  | 'e' :: r => exponentEnd minus significand dropped r
  | 'E' :: r => exponentEnd minus significand dropped r
  | r =>
    if dropped = 0 then do return (← wholeNumber minus significand, r)
    else do return (← real minus significand dropped, r)

def unsignedNumber (minus : Bool) : Reader Number := fun s =>
  match s with
  | '0' :: r => if startsWithDigit r then .error .badNumber else wholeEnd minus 0 0 r
  | c :: r =>
    if isDigit c then
      let digits := takeDigits (digitValue c) 1 r
      let rest := dropDigits digits.rest
      wholeEnd minus digits.significand (digits.rest.length - rest.length) rest
    else .error .badNumber
  | [] => .error .endInValue

/-- A number, or none if the text starts with neither a digit nor a minus sign. -/
def number? (s : List Char) : Option (Except Fault (Number × List Char)) :=
  match s with
  | '-' :: r => some (unsignedNumber true r)
  | c :: r => if isDigit c then some (unsignedNumber false (c :: r)) else none
  | [] => none

def skipExponent (s : List Char) : Except Fault (List Char) :=
  let digits := match s with
    | '+' :: r => r
    | '-' :: r => r
    | r => r
  if startsWithDigit digits then .ok (dropDigits digits) else .error .badNumber

def skipScaled : List Char → Except Fault (List Char)
  | 'e' :: r => skipExponent r
  | 'E' :: r => skipExponent r
  | r => .ok r

def skipWholeEnd : List Char → Except Fault (List Char)
  | '.' :: r => if startsWithDigit r then skipScaled (dropDigits r) else .error .badNumber
  | r => skipScaled r

/-- Passes over a number after its sign; its range is not looked at. -/
def skipUnsigned : List Char → Except Fault (List Char)
  | '0' :: r => if startsWithDigit r then .error .badNumber else skipWholeEnd r
  | r => if startsWithDigit r then skipWholeEnd (dropDigits r) else .error .badNumber

end NodeVariables.Json
