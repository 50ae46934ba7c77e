namespace NodeVariables

structure TypeName where
  text : String
deriving DecidableEq, Repr

namespace TypeName

/-- The usual spelling of "any type". -/
def wildcard : TypeName := ⟨"*"⟩

instance : Inhabited TypeName := ⟨wildcard⟩
instance : ToString TypeName := ⟨text⟩

def isWildcard (t : TypeName) : Bool := t.text = "" || t.text = "*"

def isConcrete (t : TypeName) : Bool := !t.isWildcard

/-- What a slot of this type is labelled: its name, or a placeholder for any type. -/
def label (t : TypeName) : String := if t.isWildcard then "value" else t.text

def trigger : TypeName := ⟨"STRING"⟩

/-- Names compare by code point, which is the order of their UTF-8 bytes. -/
instance : Ord TypeName := ⟨fun a b => compareOfLessAndEq a.text b.text⟩

theorem isWildcard_wildcard : wildcard.isWildcard = true := rfl

end TypeName

def firstConcrete? (types : List TypeName) : Option TypeName := types.find? TypeName.isConcrete

end NodeVariables
