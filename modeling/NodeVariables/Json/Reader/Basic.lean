import NodeVariables.Json.Value
import NodeVariables.Text.Quoted

namespace NodeVariables.Json

inductive Want where
  | index
  | word
  | byte
  | text
  | flag
  | list
  | map
  | record (name : String)
  | quadruple
  | unit
deriving DecidableEq, Repr

def Want.describe : Want → String
  | .index => "usize"
  | .word => "u64"
  | .byte => "u8"
  | .text => "a string"
  | .flag => "a boolean"
  | .list => "a sequence"
  | .map => "a map"
  | .record name => "struct " ++ name
  | .quadruple => "an array of length 4"
  | .unit => "unit"

/-- The kind of value that stands in the text. Lists and maps are named without being read. -/
inductive Found where
  | null
  | flag (b : Bool)
  | number (n : Number)
  | text (s : String)
  | list
  | map
deriving DecidableEq, Repr

def Number.describe : Number → String
  | .real minus x => "floating point `" ++ (Number.real minus x).text ++ "`"
  | n => "integer `" ++ n.text ++ "`"

def Found.describe : Found → String
  | .null => "null"
  | .flag b => "boolean `" ++ (if b then "true" else "false") ++ "`"
  | .number n => n.describe
  | .text s => "string " ++ Text.quoted s
  | .list => "sequence"
  | .map => "map"

inductive Fault where
  | endInValue
  | endInText
  | endInList
  | endInObject
  | noValue
  | noIdent
  | badNumber
  | outOfRange
  | badEscape
  | controlCharacter
  | unpairedHigh
  | unpairedLow
  | keyNotText
  | keyNotNumber
  | noKeyEnd
  | noColon
  | noCommaInList
  | noCommaInObject
  | trailingComma
  | trailingText
  /-- A value of another kind. -/
  | kind (found : Found) (want : Want)
  /-- A whole number outside the range of its kind. -/
  | range (found : Number) (want : Want)
  /-- A list with too few elements for a record or a color. -/
  | length (found : Nat) (want : String)
  | repeated (field : String)
  | missing (field : String)
  | variant (found : String) (choices : String)
deriving DecidableEq, Repr

def Fault.message : Fault → String
  | .endInValue => "EOF while parsing a value"
  | .endInText => "EOF while parsing a string"
  | .endInList => "EOF while parsing a list"
  | .endInObject => "EOF while parsing an object"
  | .noValue => "expected value"
  | .noIdent => "expected ident"
  | .badNumber => "invalid number"
  | .outOfRange => "number out of range"
  | .badEscape => "invalid escape"
  | .controlCharacter => "control character (\\u0000-\\u001F) found while parsing a string"
  | .unpairedHigh => "unexpected end of hex escape"
  | .unpairedLow => "lone leading surrogate in hex escape"
  | .keyNotText => "key must be a string"
  | .keyNotNumber => "invalid value: expected key to be a number in quotes"
  | .noKeyEnd => "expected `\"`"
  | .noColon => "expected `:`"
  | .noCommaInList => "expected `,` or `]`"
  | .noCommaInObject => "expected `,` or `\x7d`"
  | .trailingComma => "trailing comma"
  | .trailingText => "trailing characters"
  | .kind found want => "invalid type: " ++ found.describe ++ ", expected " ++ want.describe
  | .range found want => "invalid value: " ++ found.describe ++ ", expected " ++ want.describe
  | .length found want => "invalid length " ++ toString found ++ ", expected " ++ want
  | .repeated field => "duplicate field `" ++ field ++ "`"
  | .missing field => "missing field `" ++ field ++ "`"
  | .variant found choices => "unknown variant `" ++ found ++ "`, expected " ++ choices

/-- Takes a value from the front of a text. -/
abbrev Reader (α : Type) := StateT (List Char) (Except Fault) α

def isBlank (c : Char) : Bool := c = ' ' || c = '\n' || c = '\t' || c = '\r'

def dropBlanks (s : List Char) : List Char := s.dropWhile isBlank

def wordEnd : List Char → List Char → Except Fault (List Char)
  | [], s => .ok s
  | _ :: _, [] => .error .endInValue
  | w :: ws, c :: s => if c = w then wordEnd ws s else .error .noIdent

theorem dropBlanks_cons_of_blank {c : Char} {s : List Char} (h : isBlank c = true) :
    dropBlanks (c :: s) = dropBlanks s := by
  simp [dropBlanks, List.dropWhile, h]

theorem dropBlanks_cons_of_not_blank {c : Char} {s : List Char} (h : isBlank c = false) :
    dropBlanks (c :: s) = c :: s := by
  simp [dropBlanks, List.dropWhile, h]

end NodeVariables.Json
