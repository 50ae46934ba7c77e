import NodeVariables.Json.Reader.Skip

namespace NodeVariables.Json

/-- The fault of a text that starts with a value of another kind than the one asked for. A fault
inside that value comes first; lists and objects are not looked into. -/
def unexpected (want : Want) (s : List Char) : Fault :=
  let found (read : Except Fault Found) : Fault :=
    match read with
    | .ok f => .kind f want
    | .error fault => fault
  match s with
  | [] => .endInValue
  | 'n' :: r => found ((wordEnd "ull".toList r).map fun _ => .null)
  | 't' :: r => found ((wordEnd "rue".toList r).map fun _ => .flag true)
  | 'f' :: r => found ((wordEnd "alse".toList r).map fun _ => .flag false)
  | '"' :: r => found ((textEnd r).map fun t => .text t.1)
  | '[' :: _ => .kind .list want
  | '\x7b' :: _ => .kind .map want
  | s =>
    match number? s with
    | some read => found (read.map fun n => .number n.1)
    | none => .noValue

def readText : Reader String := fun s =>
  match dropBlanks s with
  | '"' :: r => textEnd r
  | r => .error (unexpected .text r)

def readFlag : Reader Bool := fun s =>
  match dropBlanks s with
  | 't' :: r => do return (true, ← wordEnd "rue".toList r)
  | 'f' :: r => do return (false, ← wordEnd "alse".toList r)
  | r => .error (unexpected .flag r)

def Number.toNatBelow (bound : Nat) (want : Want) : Number → Except Fault Nat
  | .natural n => if n < bound then .ok n else .error (.range (.natural n) want)
  | .negative n => .error (.range (.negative n) want)
  | .real minus x => .error (.kind (.number (.real minus x)) want)

def readNatBelow (bound : Nat) (want : Want) : Reader Nat := fun s =>
  let r := dropBlanks s
  match number? r with
  | some read => do
    let (n, rest) ← read
    return (← n.toNatBelow bound want, rest)
  | none => .error (unexpected want r)

def readIndex : Reader UInt64 := UInt64.ofNat <$> readNatBelow UInt64.size .index

def readWord : Reader UInt64 := UInt64.ofNat <$> readNatBelow UInt64.size .word

def readByte : Reader UInt8 := UInt8.ofNat <$> readNatBelow UInt8.size .byte

def readOptional {α : Type} (read : Reader α) : Reader (Option α) := fun s =>
  match dropBlanks s with
  | 'n' :: r => do return (none, ← wordEnd "ull".toList r)
  | r => do
    let (a, rest) ← read r
    return (some a, rest)

def readColon : Reader Unit := fun s => do return ((), ← skipColon s)

/-- The content of a named choice, which carries none. -/
def readUnit : Reader Unit := fun s =>
  match dropBlanks s with
  | 'n' :: r => do return ((), ← wordEnd "ull".toList r)
  | r => .error (unexpected .unit r)

/-- One of some named choices: its name, or an object with `null` under its name and nothing
else. -/
def readChoice {α : Type} (choices : List (String × α)) (list : String) : Reader α := fun s =>
  let pick (name : String) : Except Fault α :=
    match choices.lookup name with
    | some a => .ok a
    | none => .error (.variant name list)
  match dropBlanks s with
  | [] => .error .endInValue
  | '"' :: r => do
    let (name, rest) ← textEnd r
    return (← pick name, rest)
  | '\x7b' :: r => do
    match dropBlanks r with
    | '"' :: r =>
      let (name, r) ← textEnd r
      let a ← pick name
      let (_, r) ← readColon r
      let (_, r) ← readUnit r
      match dropBlanks r with
      | '\x7d' :: r => return (a, r)
      | [] => .error .endInObject
      | _ => .error .noValue
    | [] => .error .endInObject
    | '\x7d' :: _ => .error .noValue
    | _ => .error .keyNotText
  | _ => .error .noValue

end NodeVariables.Json
