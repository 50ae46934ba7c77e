import NodeVariables.Decimal.Shortest
import NodeVariables.Table

namespace NodeVariables.Json

/-- A number as it is read: a whole number of 64 bits, or anything else as a double. -/
inductive Number where
  | natural (n : Nat)
  /-- The number `-n`. -/
  | negative (n : Nat)
  | real (minus : Bool) (magnitude : Decimal.Double)
deriving DecidableEq, Repr

/-- How a double is written. Whole numbers keep `.0`; an exponent has its sign and no leading
zero. -/
def Number.layout : Decimal.Layout := ⟨-5, 15, "e+", "e-"⟩

def Number.text : Number → String
  | .natural n => toString n
  | .negative n => "-" ++ toString n
  | .real minus x => layout.text minus x

/-- A JSON value. Members are listed in their written order. -/
inductive Value where
  | null
  | flag (b : Bool)
  | number (n : Number)
  | text (s : String)
  | list (items : List Value)
  | object (members : List (String × Value))
deriving Inhabited, Repr

def controlEscape (c : Char) : List Char :=
  ['\\', 'u', '0', '0', Nat.digitChar (c.toNat / 16), Nat.digitChar (c.toNat % 16)]

/-- A character inside a written text. Only quotes, backslashes and control characters are
escaped. -/
def escape (c : Char) : List Char :=
  if c = '"' then ['\\', '"']
  else if c = '\\' then ['\\', '\\']
  else if c = '\x08' then ['\\', 'b']
  else if c = '\x0c' then ['\\', 'f']
  else if c = '\n' then ['\\', 'n']
  else if c = '\r' then ['\\', 'r']
  else if c = '\t' then ['\\', 't']
  else if c.toNat < 0x20 then controlEscape c
  else [c]

def quote (s : String) : List Char := '"' :: s.toList.flatMap escape ++ ['"']

namespace Value

def ofNat (n : Nat) : Value := .number (.natural n)

def ofWord (n : UInt64) : Value := .ofNat n.toNat

def ofByte (n : UInt8) : Value := .ofNat n.toNat

def ofOption {α : Type} (f : α → Value) : Option α → Value
  | none => .null
  | some a => f a

mutual

def compactChars : Value → List Char
  | .null => "null".toList
  | .flag b => if b then "true".toList else "false".toList
  | .number n => n.text.toList
  | .text s => quote s
  | .list [] => ['[', ']']
  | .list (v :: vs) => '[' :: compactChars v ++ compactItems vs ++ [']']
  | .object [] => ['\x7b', '\x7d']
  | .object ((k, v) :: ms) =>
    '\x7b' :: quote k ++ ':' :: compactChars v ++ compactMembers ms ++ ['\x7d']

def compactItems : List Value → List Char
  | [] => []
  | v :: vs => ',' :: compactChars v ++ compactItems vs

def compactMembers : List (String × Value) → List Char
  | [] => []
  | (k, v) :: ms => ',' :: quote k ++ ':' :: compactChars v ++ compactMembers ms

end

def newline (depth : Nat) : List Char := '\n' :: List.replicate (2 * depth) ' '

mutual

/-- The value laid out at a depth of nesting. Empty lists and objects stay on their line. -/
def prettyChars (depth : Nat) : Value → List Char
  | .null => "null".toList
  | .flag b => if b then "true".toList else "false".toList
  | .number n => n.text.toList
  | .text s => quote s
  | .list [] => ['[', ']']
  | .list (v :: vs) =>
    '[' :: newline (depth + 1) ++ prettyChars (depth + 1) v ++ prettyItems (depth + 1) vs ++
      newline depth ++ [']']
  | .object [] => ['\x7b', '\x7d']
  | .object ((k, v) :: ms) =>
    '\x7b' :: newline (depth + 1) ++ quote k ++ ':' :: ' ' :: prettyChars (depth + 1) v ++
      prettyMembers (depth + 1) ms ++ newline depth ++ ['\x7d']

def prettyItems (depth : Nat) : List Value → List Char
  | [] => []
  | v :: vs => ',' :: newline depth ++ prettyChars depth v ++ prettyItems depth vs

def prettyMembers (depth : Nat) : List (String × Value) → List Char
  | [] => []
  | (k, v) :: ms =>
    ',' :: newline depth ++ quote k ++ ':' :: ' ' :: prettyChars depth v ++
      prettyMembers depth ms

end

def compact (v : Value) : String := String.ofList v.compactChars

def pretty (v : Value) : String := String.ofList (v.prettyChars 0)

def member? (v : Value) (name : String) : Option Value :=
  match v with
  | .object members => members.lookup name
  | _ => none

def replaceFirst (name : String) (v : Value) : List (String × Value) → List (String × Value)
  | [] => []
  | m :: ms => if m.1 = name then (name, v) :: ms else m :: replaceFirst name v ms

/-- Sets the member with a name; a new member is put in the order of the names. -/
def setMember (name : String) (v : Value) (members : List (String × Value)) :
    List (String × Value) :=
  if (members.lookup name).isSome then replaceFirst name v members
  else Table.insertEntry name v members

def text? : Value → Option String
  | .text s => some s
  | _ => none

end Value

end NodeVariables.Json
