import NodeVariables.Failure
import NodeVariables.Json.Reader.Record
import NodeVariables.Json.Value
import NodeVariables.TypeName

namespace NodeVariables

open Json

/-- The type that a variable had when its Set node was executed. -/
structure Announcement where
  variableName : String
  type : TypeName
  nodeId : Option String := none
deriving DecidableEq, Repr

namespace Announcement

/-- A missing node id is left out. -/
def toJson (a : Announcement) : Value := .object <|
  [("variable_name", .text a.variableName), ("type", .text a.type.text)] ++
    a.nodeId.toList.map fun id => ("node_id", .text id)

def read : Reader Announcement :=
  readRecord "TypeAnnouncement"
    (.required "variable_name" readText <|
      .required "type" readText <|
      .optional "node_id" (readOptional readText) none .done)
    fun (name, type, nodeId, ()) => ⟨name, ⟨type⟩, nodeId⟩

def ofText (s : String) : Except Failure Announcement := (read.whole s).mapError .json

end Announcement

structure VariableInfo where
  name : String
  type : TypeName
  /-- A Set node defines the variable, or a type has been recorded for it. -/
  known : Bool
deriving DecidableEq, Repr

namespace VariableInfo

def toJson (i : VariableInfo) : Value :=
  .object [("name", .text i.name), ("type", .text i.type.text), ("exists", .flag i.known)]

def read : Reader VariableInfo :=
  readRecord "VariableTypeInfo"
    (.required "name" readText <|
      .required "type" readText <|
      .required "exists" readFlag .done)
    fun (name, type, known, ()) => ⟨name, ⟨type⟩, known⟩

def ofText (s : String) : Except Failure VariableInfo := (read.whole s).mapError .json

end VariableInfo

end NodeVariables
