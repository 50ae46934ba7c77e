import NodeVariables.Json.Reader.Tree

namespace NodeVariables.Json

/-- The fields of a record: names, readers, and the values that stand for missing fields. -/
inductive Fields : List Type → Type 1 where
  | done : Fields []
  | field {α : Type} {αs : List Type} (name : String) (read : Reader α) (absent : Option α)
      (rest : Fields αs) : Fields (α :: αs)

def Values : List Type → Type
  | [] => Unit
  | α :: αs => α × Values αs

def Draft : List Type → Type
  | [] => Unit
  | α :: αs => Option α × Draft αs

def Draft.blank : (αs : List Type) → Draft αs
  | [] => ()
  | _ :: αs => (none, blank αs)

namespace Fields

def required {α : Type} {αs : List Type} (name : String) (read : Reader α) (rest : Fields αs) :
    Fields (α :: αs) := .field name read none rest

def optional {α : Type} {αs : List Type} (name : String) (read : Reader α) (absent : α)
    (rest : Fields αs) : Fields (α :: αs) := .field name read (some absent) rest

/-- How the member with a name is read, from its colon on; none if no field has the name. -/
def member? {αs : List Type} (name : String) : Fields αs → Option (Draft αs → Reader (Draft αs))
  | .done => none
  | .field n read _ rest =>
    if n = name then some fun draft => do
      if draft.1.isSome then throw (.repeated n)
      readColon
      return (some (← read), draft.2)
    else (rest.member? name).map fun next draft => do return (draft.1, ← next draft.2)

/-- The values of a finished object; the first field without one is a fault. -/
def finish {αs : List Type} : Fields αs → Draft αs → Except Fault (Values αs)
  | .done, _ => .ok ()
  | .field name _ absent rest, draft =>
    match draft.1.or absent with
    | some a => do return (a, ← rest.finish draft.2)
    | none => .error (.missing name)

/-- The members up to the end of an object, at most `fuel - 1` of them. -/
def readMembers {αs : List Type} (fields : Fields αs) :
    (fuel : Nat) → (first : Bool) → Draft αs → Reader (Draft αs)
  | 0, _, _ => throw .endInObject
  | fuel + 1, first, draft => do
    if ← memberFollows first then
      match fields.member? (← textEnd) with
      | some read => fields.readMembers fuel false (← read draft)
      | none =>
        readColon
        skipValue
        fields.readMembers fuel false draft
    else return draft

/-- The elements of a record written as a list, `count` of them having been read; `size` is the
description of its full length. -/
def readElements {αs : List Type} (size : String) : Fields αs → (count : Nat) → Reader (Values αs)
  | .done, _ => return ()
  | .field _ read absent rest, count => do
    if ← elementFollows (count = 0) then
      let a ← read
      return (a, ← rest.readElements size (count + 1))
    else
      match absent with
      | some a => return (a, ← rest.readElements size count)
      | none => throw (.length count size)

end Fields

def readTuple {αs : List Type} (size : String) (fields : Fields αs) : Reader (Values αs) := do
  let values ← fields.readElements size 0
  listEnd
  return values

def readRecord {α : Type} {αs : List Type} (name : String) (fields : Fields αs)
    (build : Values αs → α) : Reader α := fun s =>
  match dropBlanks s with
  | '\x7b' :: r => do
    let (draft, rest) ← fields.readMembers (r.length + 1) true (.blank αs) r
    return (build (← fields.finish draft), rest)
  | '[' :: r =>
    let size := "struct " ++ name ++ " with " ++ toString αs.length ++ " elements"
    (build <$> readTuple size fields) r
  | r => .error (unexpected (.record name) r)

end NodeVariables.Json
