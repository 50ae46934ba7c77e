import NodeVariables.Json.Reader.Number
import NodeVariables.Json.Reader.Text
/-!
Passing over a value of any kind and any depth. The lists and objects that are open are kept on an
explicit stack, so the depth of the text bounds nothing.
-/
namespace NodeVariables.Json

inductive Bracket where
  | list
  | object
deriving DecidableEq, Repr

inductive Due where
  | value
  /-- The name of a member. -/
  | name
  /-- The end of the innermost bracket, or its first or next element. -/
  | element (first : Bool)
deriving DecidableEq, Repr

def skipScalar : List Char → Except Fault (List Char)
  | [] => .error .endInValue
  | 'n' :: r => wordEnd "ull".toList r
  | 't' :: r => wordEnd "rue".toList r
  | 'f' :: r => wordEnd "alse".toList r
  | '"' :: r => skipTextEnd r
  | '-' :: r => skipUnsigned r
  | r => if startsWithDigit r then skipUnsigned r else .error .noValue

def skipColon (s : List Char) : Except Fault (List Char) :=
  match dropBlanks s with
  | ':' :: r => .ok r
  | [] => .error .endInObject
  | _ => .error .noColon

def skipName (s : List Char) : Except Fault (List Char) :=
  match dropBlanks s with
  | '"' :: r => do skipColon (← skipTextEnd r)
  | [] => .error .endInObject
  | _ => .error .keyNotText

/-- Runs until the brackets that are open are closed, in at most `fuel` steps. -/
def skipFrom : Nat → List Bracket → Due → List Char → Except Fault (List Char)
  | 0, _, _, _ => .error .endInValue
  | fuel + 1, stack, .value, s =>
    match dropBlanks s with
    | '[' :: r => skipFrom fuel (.list :: stack) (.element true) r
    | '\x7b' :: r => skipFrom fuel (.object :: stack) (.element true) r
    | r => do skipFrom fuel stack (.element false) (← skipScalar r)
  | fuel + 1, stack, .name, s => do skipFrom fuel stack .value (← skipName s)
  | _ + 1, [], .element _, s => .ok s
  | fuel + 1, .list :: stack, .element first, s =>
    match dropBlanks s with
    | [] => .error .endInList
    | ']' :: r => skipFrom fuel stack (.element false) r
    | c :: r =>
      if first then skipFrom fuel (.list :: stack) .value (c :: r)
      else if c = ',' then skipFrom fuel (.list :: stack) .value r
      else .error .noCommaInList
  | fuel + 1, .object :: stack, .element first, s =>
    match dropBlanks s with
    | [] => .error .endInObject
    | '\x7d' :: r => skipFrom fuel stack (.element false) r
    | c :: r =>
      if first then skipFrom fuel (.object :: stack) .name (c :: r)
      else if c = ',' then skipFrom fuel (.object :: stack) .name r
      else .error .noCommaInObject

/-- Passes over one value. Of two steps in a row at least one takes a character. -/
def skipValue : Reader Unit := fun s => do
  return ((), ← skipFrom (2 * s.length + 2) [] .value s)

end NodeVariables.Json
