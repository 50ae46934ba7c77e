import NodeVariables.Json.Reader.Basic
import NodeVariables.Text

namespace NodeVariables.Json

inductive Scan where
  | plain
  /-- After a backslash. -/
  | escape
  /-- Inside the digits of a unit, with the high unit before it, if there is one. -/
  | unit (high : Option Nat) (digitsLeft : Nat) (value : Nat)
  | afterHigh (high : Nat)
  /-- After a high unit and a backslash. -/
  | afterHighEscape (high : Nat)
deriving DecidableEq, Repr

def isHighUnit (n : Nat) : Bool := 0xD800 ≤ n && n ≤ 0xDBFF

def isLowUnit (n : Nat) : Bool := 0xDC00 ≤ n && n ≤ 0xDFFF

/-- The character of a high and a low unit. -/
def pairedChar (high low : Nat) : Char :=
  Char.ofNat (0x10000 + (high - 0xD800) * 0x400 + (low - 0xDC00))

def escaped? (c : Char) : Option Char :=
  if c = '"' ∨ c = '\\' ∨ c = '/' then some c
  else if c = 'b' then some '\x08'
  else if c = 'f' then some '\x0c'
  else if c = 'n' then some '\n'
  else if c = 'r' then some '\r'
  else if c = 't' then some '\t'
  else none

/-- The rest of the text is too short for the digits of a unit, counted in bytes. -/
def tooShortForUnit (rest : List Char) : Bool :=
  ((rest.take 4).map Char.utf8Size).foldl (· + ·) 0 < 4

def beginUnit (high : Option Nat) (rest : List Char) : Except Fault Scan :=
  if tooShortForUnit rest then .error .endInText else .ok (.unit high 4 0)

def endUnit (high : Option Nat) (value : Nat) : Except Fault (Scan × Option Char) :=
  match high with
  | some h =>
    if isLowUnit value then .ok (.plain, some (pairedChar h value)) else .error .unpairedLow
  | none =>
    if isLowUnit value then .error .unpairedLow
    else if isHighUnit value then .ok (.afterHigh value, none)
    else .ok (.plain, some (Char.ofNat value))

/-- One step: the state after a character, and the character of the text that it completes. A text
that is only passed over (`paired = false`) may hold units of any kind. -/
def Scan.step (paired : Bool) (c : Char) (rest : List Char) :
    Scan → Except Fault (Scan × Option Char)
  | .plain =>
    if c = '\\' then .ok (.escape, none)
    else if c.toNat < 0x20 then .error .controlCharacter
    else .ok (.plain, some c)
  | .escape =>
    match escaped? c with
    | some d => .ok (.plain, some d)
    | none => if c = 'u' then return (← beginUnit none rest, none) else .error .badEscape
  | .unit high digitsLeft value =>
    match Text.hexDigit? c with
    | none => .error .badEscape
    | some d =>
      if 1 < digitsLeft then .ok (.unit high (digitsLeft - 1) (16 * value + d), none)
      else if paired then endUnit high (16 * value + d)
      else .ok (.plain, none)
  | .afterHigh high =>
    if c = '\\' then .ok (.afterHighEscape high, none) else .error .unpairedHigh
  | .afterHighEscape high =>
    if c = 'u' then return (← beginUnit (some high) rest, none) else .error .unpairedHigh

/-- Runs the machine to the closing quote. The characters read so far are in reverse order. -/
def scan (paired : Bool) (state : Scan) (read : List Char) :
    List Char → Except Fault (List Char × List Char)
  | [] => .error .endInText
  | c :: rest =>
    if state = .plain ∧ c = '"' then .ok (read.reverse, rest)
    else
      match state.step paired c rest with
      | .error fault => .error fault
      | .ok (next, some d) => scan paired next (d :: read) rest
      | .ok (next, none) => scan paired next read rest

def textEnd : Reader String := fun s => do
  let (cs, rest) ← scan true .plain [] s
  return (String.ofList cs, rest)

def skipTextEnd (s : List Char) : Except Fault (List Char) := do
  return (← scan false .plain [] s).2

end NodeVariables.Json
