import NodeVariables.Message
import NodeVariables.Proofs.Json.Containers
import NodeVariables.Proofs.Loading

namespace NodeVariables

open Json

section Reading

theorem reads_texts (table : Table String String) :
    Reads (readTable textEnd readText) (textsToJson table) table :=
  reads_table (fun name _ => textEnd_quote name) fun s _ => reads_text s

theorem Settings.reads (s : Settings) : Reads Settings.read s.toJson s :=
  reads_record (.field (reads_word s.refreshIntervalMs) (by simp) <|
    .field (reads_word s.startupDelayMs) (by simp) <|
    .field (reads_word s.nodeInitDelayMs) (by simp) <|
    .field (reads_flag s.purgeOnSetRemoved) (by simp) <|
    .field (reads_texts s.typeColors) (by simp) .done) "PropagationConfig" rfl

theorem Announcement.reads (a : Announcement) : Reads Announcement.read a.toJson a := by
  obtain ⟨name, type, nodeId⟩ := a
  cases nodeId with
  | none =>
    exact reads_record (.field (reads_text name) (by simp) <|
      .field (reads_text type.text) (by simp) <|
      .omitted (by simp) .done) "TypeAnnouncement" rfl
  | some id =>
    -- the member is written without `null`, as the value of an absent id would be
    have hid : Reads (readOptional readText) (.text id) (some id) :=
      reads_optional (f := .text) (o := some id) fun s _ => ⟨by simp, reads_text s⟩
    exact reads_record (.field (reads_text name) (by simp) <|
      .field (reads_text type.text) (by simp) <|
      .field hid (by simp) .done) "TypeAnnouncement" rfl

theorem VariableInfo.reads (i : VariableInfo) : Reads VariableInfo.read i.toJson i :=
  reads_record (.field (reads_text i.name) (by simp) <|
    .field (reads_text i.type.text) (by simp) <|
    .field (reads_flag i.known) (by simp) .done) "VariableTypeInfo" rfl

end Reading

section Whole

/-- Settings that are read back are checked once more. -/
theorem Settings.ofText_compact (s : Settings) : ofText s.toJson.compact = s.validate := by
  have hwhole : Settings.read.whole s.toJson.compact = .ok s := s.reads.whole_compact
  rw [ofText, hwhole]

theorem Announcement.ofText_compact (a : Announcement) : ofText a.toJson.compact = .ok a := by
  have hwhole : Announcement.read.whole a.toJson.compact = .ok a := a.reads.whole_compact
  rw [ofText, hwhole]
  rfl

theorem VariableInfo.ofText_compact (i : VariableInfo) : ofText i.toJson.compact = .ok i := by
  have hwhole : VariableInfo.read.whole i.toJson.compact = .ok i := i.reads.whole_compact
  rw [ofText, hwhole]
  rfl

/-- The compact text of an announcement; only a node id that is there has a member. -/
theorem Announcement.compactChars_toJson (a : Announcement) :
    a.toJson.compactChars =
      "\x7b\"variable_name\":".toList ++ quote a.variableName ++
      ",\"type\":".toList ++ quote a.type.text ++
      (a.nodeId.elim [] fun id => ",\"node_id\":".toList ++ quote id) ++ ['\x7d'] := by
  obtain ⟨name, type, nodeId⟩ := a
  have hname : quote "variable_name" = "\"variable_name\"".toList := rfl
  have htype : quote "type" = "\"type\"".toList := rfl
  have hid : quote "node_id" = "\"node_id\"".toList := rfl
  cases nodeId with
  | none => simp [toJson, Value.compactChars, Value.compactMembers, hname, htype]
  | some id => simp [toJson, Value.compactChars, Value.compactMembers, hname, htype, hid]

end Whole

/-- Settings that pass their check, announcements and what is known about variables are read back
from their compact texts as they were. The text of an announcement has a member for the node id
exactly if there is one. -/
theorem messages_read_back :
    (∀ s : Settings, s.validate.isOk → Settings.ofText s.toJson.compact = .ok s) ∧
    (∀ a : Announcement, Announcement.ofText a.toJson.compact = .ok a ∧
      a.toJson.compact = String.ofList ("\x7b\"variable_name\":".toList ++ quote a.variableName ++
        ",\"type\":".toList ++ quote a.type.text ++
        (a.nodeId.elim [] fun id => ",\"node_id\":".toList ++ quote id) ++ ['\x7d'])) ∧
    ∀ i : VariableInfo, VariableInfo.ofText i.toJson.compact = .ok i := by
  refine ⟨fun s hs => ?_, fun a => ⟨a.ofText_compact, ?_⟩, VariableInfo.ofText_compact⟩
  · rw [Settings.ofText_compact]
    cases hv : s.validate with
    | error failure => simp [hv, Except.isOk, Except.toBool] at hs
    | ok t => rw [(Settings.validate_eq_ok_iff.1 hv).1]
  · exact congrArg String.ofList a.compactChars_toJson

/-- The greatest delays, and colors for any type and for a type whose name has escapes. -/
def Settings.unusual : Settings where
  refreshIntervalMs := .ofNat (UInt64.size - 1)
  startupDelayMs := 0
  nodeInitDelayMs := .ofNat (UInt64.size - 1)
  purgeOnSetRemoved := true
  typeColors := .ofList [("größe \"a\\\n\x01𝄞", "#A1b2C3"), ("*", "0f0f0f")]

theorem messages_read_back_unusual :
    Settings.unusual.validate.isOk ∧
    Settings.ofText Settings.unusual.toJson.compact = .ok .unusual ∧
    Announcement.ofText (Announcement.toJson ⟨"\u2028", ⟨""⟩, some ""⟩).compact =
      .ok ⟨"\u2028", ⟨""⟩, some ""⟩ := by
  have hvalid : Settings.unusual.validate.isOk := by decide
  exact ⟨hvalid, messages_read_back.1 .unusual hvalid, (messages_read_back.2.1 _).1⟩

end NodeVariables
