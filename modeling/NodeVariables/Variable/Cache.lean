import NodeVariables.Message
import NodeVariables.Table
import NodeVariables.Variable.Source

namespace NodeVariables

/-- How the lookups were answered, and how often a type was recorded. The counts are unbounded: less
than 2^64 lookups and writes are assumed. -/
structure Tally where
  liveHits : Nat := 0
  cacheHits : Nat := 0
  misses : Nat := 0
  writes : Nat := 0
deriving DecidableEq, Repr

/-- The share of the lookups that the graph answered, in single precision. -/
def Tally.liveShare (t : Tally) : Float32 :=
  let total := t.liveHits + t.cacheHits + t.misses
  if total = 0 then 0 else t.liveHits.toUInt64.toFloat32 / total.toUInt64.toFloat32

structure Cache where
  types : Table String TypeName := .empty
  tally : Tally := {}
  /-- The empty name is no variable. -/
  named : types.get? "" = none := by rfl
deriving DecidableEq

namespace Cache

def empty : Cache := {}

def get? (c : Cache) (name : String) : Option TypeName := c.types.get? name

def contains (c : Cache) (name : String) : Bool := c.types.contains name

/-- Records a type; the empty name is no variable. -/
def set (c : Cache) (name : String) (type : TypeName) : Cache :=
  if h : name = "" then c
  else
    { types := c.types.insert name type
      tally := { c.tally with writes := c.tally.writes + 1 }
      named := by rw [Table.get?_insert, if_neg (Ne.symm h), c.named] }

theorem get?_set (c : Cache) (name : String) (type : TypeName) (n : String) :
    (c.set name type).get? n = if n = name ∧ name ≠ "" then some type else c.get? n := by
  by_cases h : name = "" <;> simp [set, get?, h, Table.get?_insert]

def setAll (c : Cache) (types : Table String TypeName) : Cache :=
  types.entries.foldl (fun c e => c.set e.1 e.2) c

def forget (c : Cache) (name : String) : Cache where
  types := c.types.erase name
  tally := c.tally
  named := by rw [Table.get?_erase, c.named, ite_self]

theorem get?_forget (c : Cache) (name n : String) :
    (c.forget name).get? n = if n = name then none else c.get? n :=
  Table.get?_erase ..

def live? (g : Graph) (name : String) : Option TypeName :=
  (g.variableType? name).filter TypeName.isConcrete

/-- The current type of a variable: the concrete type of its Set nodes, which is recorded, or the
recorded type, or any type. -/
def lookup (c : Cache) (g : Graph) (name : String) : TypeName × Cache :=
  if name = "" then (.wildcard, c)
  else
    match live? g name with
    | some type =>
      (type, { c with tally := { c.tally with liveHits := c.tally.liveHits + 1 } }.set name type)
    | none =>
      match c.get? name with
      | some type =>
        (type, { c with tally := { c.tally with cacheHits := c.tally.cacheHits + 1 } })
      | none => (.wildcard, { c with tally := { c.tally with misses := c.tally.misses + 1 } })

def describe (c : Cache) (g : Graph) (name : String) : VariableInfo × Cache :=
  let known := c.contains name || g.binds name
  let (type, c) := c.lookup g name
  (⟨name, type, known⟩, c)

end Cache

end NodeVariables
