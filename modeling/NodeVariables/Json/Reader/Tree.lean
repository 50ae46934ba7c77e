import NodeVariables.Json.Reader.Scalar
import NodeVariables.Json.Value
import NodeVariables.Table

namespace NodeVariables.Json

/-- Whether a list has another element; the bracket that closes it is left in place. -/
def elementFollows (first : Bool) : Reader Bool := fun s =>
  match dropBlanks s with
  | [] => .error .endInList
  | ']' :: r => .ok (false, ']' :: r)
  | c :: r =>
    if first then .ok (true, c :: r)
    else if c = ',' then
      match dropBlanks r with
      | [] => .error .endInValue
      | ']' :: _ => .error .trailingComma
      | r => .ok (true, r)
    else .error .noCommaInList

def listEnd : Reader Unit := fun s =>
  match dropBlanks s with
  | [] => .error .endInList
  | ']' :: r => .ok ((), r)
  | ',' :: r =>
    match dropBlanks r with
    | ']' :: _ => .error .trailingComma
    | _ => .error .trailingText
  | _ => .error .trailingText

/-- Whether an object has another member; its opening quote is taken, or the closing brace. -/
def memberFollows (first : Bool) : Reader Bool := fun s =>
  match dropBlanks s with
  | [] => .error .endInObject
  | '\x7d' :: r => .ok (false, r)
  | c :: r =>
    if first then if c = '"' then .ok (true, r) else .error .keyNotText
    else if c = ',' then
      match dropBlanks r with
      | [] => .error .endInValue
      | '"' :: r => .ok (true, r)
      | '\x7d' :: _ => .error .trailingComma
      | _ => .error .keyNotText
    else .error .noCommaInObject

/-- The elements up to the end of a list, at most `fuel - 1` of them. -/
def readElements {α : Type} (read : Reader α) : (fuel : Nat) → (first : Bool) → Reader (List α)
  | 0, _ => throw .endInList
  | fuel + 1, first => do
    if ← elementFollows first then
      let a ← read
      return a :: (← readElements read fuel false)
    else return []

def readList {α : Type} (read : Reader α) : Reader (List α) := fun s =>
  match dropBlanks s with
  | '[' :: r => (do
      let items ← readElements read (r.length + 1) true
      listEnd
      return items : Reader (List α)) r
  | r => .error (unexpected .list r)

def readMembers {κ ν : Type} (key : Reader κ) (value : Reader ν) :
    (fuel : Nat) → (first : Bool) → Reader (List (κ × ν))
  | 0, _ => throw .endInObject
  | fuel + 1, first => do
    if ← memberFollows first then
      let k ← key
      readColon
      let v ← value
      return (k, v) :: (← readMembers key value fuel false)
    else return []

/-- An object as a table; `key` reads a name after its opening quote. Of two members with one name
the later is kept. -/
def readTable {κ ν : Type} [LT κ] [DecidableEq κ] [DecidableLT κ] [KeyOrder κ]
    (key : Reader κ) (value : Reader ν) : Reader (Table κ ν) := fun s =>
  match dropBlanks s with
  | '\x7b' :: r => (Table.ofList <$> readMembers key value (r.length + 1) true) r
  | r => .error (unexpected .map r)

def numericKey (read : Reader UInt64) : Reader UInt64 := fun s =>
  match number? s with
  | none => .error .keyNotNumber
  | some _ => do
    let (n, rest) ← read s
    match rest with
    | '"' :: r => return (n, r)
    | _ => .error .noKeyEnd

def Reader.whole {α : Type} (read : Reader α) (s : String) : Except Fault α := do
  let (a, rest) ← read s.toList
  if (dropBlanks rest).isEmpty then return a else .error .trailingText

/-- A value with fewer than `depth` lists and objects around any part of it. -/
def readNested : (depth : Nat) → Reader Value
  | 0 => throw .endInValue
  | depth + 1 => fun s =>
    match dropBlanks s with
    | [] => .error .endInValue
    | 'n' :: r => do return (.null, ← wordEnd "ull".toList r)
    | 't' :: r => (.flag <$> readFlag) ('t' :: r)
    | 'f' :: r => (.flag <$> readFlag) ('f' :: r)
    | '"' :: r => (.text <$> textEnd) r
    | '[' :: r => (.list <$> readList (readNested depth)) ('[' :: r)
    | '\x7b' :: r =>
      ((.object ·.entries) <$> readTable textEnd (readNested depth)) ('\x7b' :: r)
    | r =>
      match number? r with
      | some read => do
        let (n, rest) ← read
        return (.number n, rest)
      | none => .error .noValue

/-- A value of any kind. No value is nested deeper than its text is long. -/
def readValue : Reader Value := fun s => readNested (s.length + 1) s

end NodeVariables.Json
