import NodeVariables.Json.Reader.Record
import NodeVariables.Json.Value
import NodeVariables.Palette
import NodeVariables.Time

namespace NodeVariables

open Json

structure Settings where
  refreshIntervalMs : UInt64 := 2000
  startupDelayMs : UInt64 := 500
  nodeInitDelayMs : UInt64 := 100
  /-- Whether a variable is forgotten once no Set node defines it. -/
  purgeOnSetRemoved : Bool := false
  /-- Color notations by type name. -/
  typeColors : Table String String := .empty
deriving DecidableEq

def textsToJson (t : Table String String) : Value :=
  .object (t.entries.map fun e => (e.1, .text e.2))

namespace Settings

def standard : Settings := {}

instance : Inhabited Settings := ⟨standard⟩

/-- The palette that the settings ask for; the interval must not be zero. -/
def palette (s : Settings) : Except Failure Palette :=
  if s.refreshIntervalMs = 0 then .error (.limit .interval)
  else Palette.ofOverrides s.typeColors

def validate (s : Settings) : Except Failure Settings := do
  let _ ← s.palette
  return s

def refreshInterval (s : Settings) : Duration := .ofMillis s.refreshIntervalMs

def startupDelay (s : Settings) : Duration := .ofMillis s.startupDelayMs

def nodeInitDelay (s : Settings) : Duration := .ofMillis s.nodeInitDelayMs

def toJson (s : Settings) : Value := .object [
  ("refresh_interval_ms", .ofWord s.refreshIntervalMs),
  ("startup_delay_ms", .ofWord s.startupDelayMs),
  ("node_init_delay_ms", .ofWord s.nodeInitDelayMs),
  ("purge_on_set_removed", .flag s.purgeOnSetRemoved),
  ("type_colors", textsToJson s.typeColors)]

def read : Reader Settings :=
  readRecord "PropagationConfig"
    (.optional "refresh_interval_ms" readWord standard.refreshIntervalMs <|
      .optional "startup_delay_ms" readWord standard.startupDelayMs <|
      .optional "node_init_delay_ms" readWord standard.nodeInitDelayMs <|
      .optional "purge_on_set_removed" readFlag standard.purgeOnSetRemoved <|
      .optional "type_colors" (readTable textEnd readText) standard.typeColors .done)
    fun (refresh, startup, nodeInit, purge, colors, ()) =>
      ⟨refresh, startup, nodeInit, purge, colors⟩

def ofText (s : String) : Except Failure Settings :=
  match read.whole s with
  | .ok settings => settings.validate
  | .error fault => .error (.json fault)

def ofFile (file : File) : Except Failure Settings := do ofText (← file.text)

end Settings

end NodeVariables
