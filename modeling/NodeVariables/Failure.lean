import NodeVariables.Json.Reader.Basic

namespace NodeVariables

inductive FileFault where
  /-- The system's description of the fault and its number. -/
  | system (description : String) (code : Nat)
  | notText
deriving DecidableEq, Repr

def FileFault.missing : FileFault := .system "No such file or directory" 2

def FileFault.message : FileFault → String
  | .system description code => description ++ " (os error " ++ toString code ++ ")"
  | .notText => "stream did not contain valid UTF-8"

inductive Limit where
  | interval
  /-- A node id that leaves no id for the next node. -/
  | nodeId (id : UInt64)
  | savedNodeIds
  | savedLinkIds
deriving DecidableEq, Repr

def Limit.message : Limit → String
  | .interval => "refresh_interval_ms must be at least 1"
  | .nodeId id => "node id " ++ toString id ++ " leaves no room for further nodes"
  | .savedNodeIds => "saved graph exhausts the node id range"
  | .savedLinkIds => "saved graph exhausts the link id range"

inductive Failure where
  | file (fault : FileFault)
  | json (fault : Json.Fault)
  | color (typeName value : String)
  | limit (exceeded : Limit)
deriving DecidableEq, Repr

def Failure.message : Failure → String
  | .file fault => "I/O error: " ++ fault.message
  | .json fault => "JSON parsing error: " ++ fault.message
  | .color typeName value => "Invalid color '" ++ value ++ "' for type '" ++ typeName ++ "'"
  | .limit exceeded => "Configuration error: " ++ exceeded.message

/-- A file as it was read: its bytes, or why there are none. -/
abbrev File := Except FileFault ByteArray

def File.text (file : File) : Except Failure String :=
  match file with
  | .error fault => .error (.file fault)
  | .ok bytes =>
    match String.fromUTF8? bytes with
    | some s => .ok s
    | none => .error (.file .notText)

end NodeVariables
