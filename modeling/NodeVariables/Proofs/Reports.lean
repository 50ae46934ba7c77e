import Mathlib.Data.List.Forall2
import NodeVariables.Proofs.Bytes
import NodeVariables.Proofs.Messages
import NodeVariables.Proofs.SavedGraphs
import NodeVariables.Proofs.Written
import NodeVariables.Report

namespace NodeVariables

theorem forall₂_filter_filterMap {α β : Type} {p : α → Bool} {f : α → Option β}
    {R : α → β → Prop} {l : List α} (hp : ∀ a, p a = (f a).isSome)
    (hf : ∀ a b, f a = some b → R a b) : List.Forall₂ R (l.filter p) (l.filterMap f) := by
  induction l with
  | nil => exact .nil
  | cons a rest ih =>
    cases ha : f a with
    | none =>
      have hout : p a = false := by simp [hp, ha]
      rwa [List.filter_cons_of_neg (by simp [hout]), List.filterMap_cons_none ha]
    | some b =>
      have hin : p a = true := by simp [hp, ha]
      rw [List.filter_cons_of_pos hin, List.filterMap_cons_some ha]
      exact .cons (hf a b ha) ih

/-- The keys of the Set and Get nodes with a value output, in ascending order. -/
def Graph.reported (g : Graph) : List NodeId :=
  g.nodes.keys.filter fun id =>
    (g.node? id).any fun n => n.isGlobal && (n.output? Node.valueSlot).isSome

namespace Report

variable {files : List File} {settings : Settings} {g : Graph}

inductive Given : Option File → Settings → Prop where
  | standard : Given none .standard
  | file {file : File} {settings : Settings} (h : Settings.ofFile file = .ok settings) :
    Given (some file) settings

/-- A run fails on its settings, or on its graph if nothing is wrong with the settings. -/
inductive Fails : List File → Failure → Prop where
  | settings {graph file : File} {failure : Failure}
    (refused : Refused Settings.read Settings.Invalid file failure) : Fails [graph, file] failure
  | graph {graph : File} {file? : Option File} {settings : Settings} {failure : Failure}
    (given : Given file? settings) (refused : Refused Graph.read Graph.Invalid graph failure) :
    Fails (graph :: file?.toList) failure

inductive Loads : List File → Settings → Graph → Prop where
  | files {graph : File} {file? : Option File} {settings : Settings} {g : Graph}
    (given : Given file? settings) (loaded : Graph.ofFile graph = .ok g) :
    Loads (graph :: file?.toList) settings g

/-- A cell holds a text from its left on, and blanks where its width leaves room. -/
structure Holds (width : Nat) (text cell : String) : Prop where
  filled : ∃ n, cell.toList = text.toList ++ List.replicate n ' '
  width : cell.length = max width text.length

/-- An entry has the id, the kind, the variable and the type of a node in columns, and its label. -/
inductive Entry (n : Node) (slot : Slot) : String → Prop where
  | row {id kind name type : String} (ids : Holds 4 (toString n.id) id)
    (kinds : Holds 14 n.nodeType kind) (names : Holds 20 (n.variableName?.getD "<unnamed>") name)
    (types : Holds 14 slot.type.text type) :
    Entry n slot
      ("#" ++ id ++ " " ++ kind ++ " " ++ name ++ " " ++ type ++ " label=" ++ slot.label)

/-- What is reported on a graph that a full pass has turned into another one: an entry for each
node, with what its value output shows now, and a type for each variable. -/
structure Describes (g after : Graph) (lines : List String) (table : Table String TypeName) :
    Prop where
  nodes : List.Forall₂ (fun id entry => ∃ n slot, g.node? id = some n ∧
    after.output? (Graph.valuePort id) = some slot ∧ Entry n slot entry) g.reported lines
  types : ∀ name, table.get? name = g.variableType? name
  names : ∀ name, name ∈ table.keys ↔
    ∃ id n, g.node? id = some n ∧ n.isSet ∧ n.variableName? = some name
  ascending : table.keys.Pairwise fun a b => a.toUTF8.data.toList < b.toUTF8.data.toList

/-- The lines, and then the types as an object, each ended by a new line. -/
def printed (lines : List String) (table : Table String TypeName) : String :=
  let object := Json.Value.object (table.entries.map fun e => (e.1, .text e.2.text))
  String.join ((lines ++ [object.pretty]).map (· ++ "\n"))

section Columns

theorem holds_padRight (width : Nat) (text : String) :
    Holds width text (Text.padRight width text) where
  filled := ⟨Text.room width text, by
    rw [Text.padRight, String.toList_append, Text.toList_blanks]⟩
  width := by
    have hblanks : (Text.blanks (Text.room width text)).length = width - text.length := by
      rw [← String.length_toList, Text.toList_blanks, List.length_replicate, Text.room]
    rw [Text.padRight, String.length_append, hblanks]
    omega

theorem entry_line (n : Node) (slot : Slot) : Entry n slot (line n slot) := by
  have hlabel : " " ++ ("label=" ++ slot.label) = " label=" ++ slot.label := by
    rw [← String.append_assoc]
    rfl
  have hentry := Entry.row (holds_padRight 4 (toString n.id)) (holds_padRight 14 n.nodeType)
    (holds_padRight 20 (n.variableName?.getD "<unnamed>")) (holds_padRight 14 slot.type.text)
  rw [String.append_assoc, ← hlabel, ← String.append_assoc] at hentry
  exact hentry

end Columns

section Graphs

variable (palette : Palette) (c : Cache)

def line? (n : Node) : Option String :=
  if n.isGlobal then (n.output? Node.valueSlot).map (line n) else none

theorem line?_modifyOutput (f : Slot → Slot) (n : Node) :
    line? (n.modifyOutput Node.valueSlot f) =
      if n.isGlobal then (n.output? Node.valueSlot).map fun slot => line n (f slot) else none := by
  have hg : (n.modifyOutput Node.valueSlot f).isGlobal = n.isGlobal := rfl
  rw [line?, hg, Node.output?_modifyOutput, if_pos rfl, Option.map_map]
  rfl

theorem lines_eq (g : Graph) : lines g = g.nodes.keys.filterMap fun id =>
    (g.node? id).bind line? := by
  rw [lines, List.filterMap_filter]
  exact g.nodes.filterMap_values line?

/-- After a pass the nodes with a value output have an entry, and the other nodes have none. -/
theorem forall₂_lines_pass (g : Graph) :
    List.Forall₂ (fun id entry => ∃ n slot, g.node? id = some n ∧
      (g.pass palette c).2.2.output? (Graph.valuePort id) = some slot ∧ Entry n slot entry)
      g.reported (lines (g.pass palette c).2.2) := by
  have hkeys : (g.pass palette c).2.2.nodes.keys = g.nodes.keys := by
    rw [Graph.pass_eq_displayAll]
    exact Graph.keys_displayAll ..
  -- whichever node the pass writes on, it changes no more of it than the value output
  rw [lines_eq, hkeys]
  apply forall₂_filter_filterMap
  · intro id
    obtain ⟨f, hnode⟩ := Graph.node?_pass_modifyOutput palette c g id
    rw [hnode]
    cases g.node? id with
    | none => rfl
    | some n =>
      rw [Option.map_some, Option.bind_some, line?_modifyOutput]
      cases hg : n.isGlobal <;> simp [hg]
  · intro id entry hentry
    obtain ⟨f, hnode⟩ := Graph.node?_pass_modifyOutput palette c g id
    cases hn : g.node? id with
    | none => simp [hnode, hn] at hentry
    | some n =>
      rw [hn, Option.map_some] at hnode
      rw [hnode, Option.bind_some, line?_modifyOutput] at hentry
      split at hentry
      · obtain ⟨slot, hslot, rfl⟩ := Option.map_eq_some_iff.1 hentry
        refine ⟨n, f slot, rfl, ?_, entry_line n (f slot)⟩
        rw [Graph.output?, Graph.valuePort, hnode, Option.bind_some, Node.output?_modifyOutput,
          if_pos rfl, hslot, Option.map_some]
      · simp at hentry

/-- What a pass records, if nothing has been recorded before. -/
theorem get?_pass_empty (g : Graph) (name : String) :
    (g.pass palette .empty).2.1.types.get? name = g.variableType? name := by
  have hnone : Cache.empty.get? name = none := rfl
  have hget := Graph.get?_recorded .empty g name
  rw [hnone, Option.or_none] at hget
  rw [Graph.pass_eq_displayAll]
  exact hget

theorem describes_pass (g : Graph) :
    Describes g (g.pass palette .empty).2.2 (lines (g.pass palette .empty).2.2)
      (g.pass palette .empty).2.1.types where
  nodes := forall₂_lines_pass palette .empty g
  types := get?_pass_empty palette g
  names name := by
    rw [Table.mem_keys_iff, ← Option.isSome_iff_exists, get?_pass_empty,
      Graph.variableType?_isSome_iff]
    constructor
    · rintro ⟨id, hd⟩
      exact ⟨id, Graph.node?_of_defines? hd⟩
    · rintro ⟨id, n, hn, hs, hv⟩
      exact ⟨id, by simp [Graph.defines?, Node.defines?, hn, hs, hv]⟩
  ascending := (Table.pairwise_keys _).imp Text.bytes_lt

end Graphs

section Files

variable {file? : Option File} {failure : Failure} (program? : Option String)

theorem run_cons (graph : File) (file? : Option File) :
    run (graph :: file?.toList) program? = .ofReport (ofFiles graph file?) := by
  cases file? <;> rfl

theorem ofFiles_of_given (given : Given file? settings) (graph : File) :
    ofFiles graph file? = (do ofGraph settings (← Graph.ofFile graph)) := by
  cases given with
  | standard => rfl
  | file h =>
    simp only [ofFiles, h]
    rfl

/-- The settings of a run allow a session, which starts with nothing recorded. -/
theorem exists_session_of_given (given : Given file? settings) :
    ∃ session, Session.new settings = .ok session ∧ session.cache = .empty := by
  have hpalette : ∃ palette, settings.palette = .ok palette := by
    cases given with
    | standard => exact ⟨.builtin, rfl⟩
    | file h =>
      obtain ⟨s, hs⟩ := exists_check_of_loadChecked ((Settings.ofFile_eq _).symm.trans h)
      obtain ⟨rfl, hpalette⟩ := Settings.validate_eq_ok_iff.1 hs
      exact hpalette
  obtain ⟨palette, hpalette⟩ := hpalette
  refine ⟨{ settings, palette, timer := .ofSettings settings }, ?_, rfl⟩
  rw [Session.new, hpalette]
  rfl

theorem run_of_fails (h : Fails files failure) :
    run files program? = ⟨1, "", "Error: " ++ failure.message ++ "\n"⟩ := by
  cases h with
  | @settings graph file failure refused =>
    have hfile := Settings.ofFile_eq_error_iff.2 refused
    have hrun : run [graph, file] program? = .ofReport (ofFiles graph (some file)) := rfl
    rw [hrun, ofFiles, hfile]
    rfl
  | graph given refused =>
    rw [run_cons program?, ofFiles_of_given given, Graph.ofFile_eq_error_iff.2 refused]
    rfl

theorem run_of_loads (h : Loads files settings g) :
    ∃ session lines table, Session.new settings = .ok session ∧
      Describes g (session.sweep g).2 lines table ∧
      run files program? = ⟨0, printed lines table, ""⟩ := by
  cases h with
  | @files graph file? settings g given loaded =>
    obtain ⟨session, hsession, hcache⟩ := exists_session_of_given given
    have hdescribes := describes_pass session.palette g
    rw [← hcache] at hdescribes
    refine ⟨session, _, _, hsession, hdescribes, ?_⟩
    rw [run_cons program?, ofFiles_of_given given, loaded]
    have hreport : ofGraph settings g = .ok (String.join ((lines (session.sweep g).2 ++
        [types (session.sweep g).1.cache]).map (· ++ "\n"))) := by
      rw [ofGraph, hsession]
      rfl
    exact congrArg Outcome.ofReport hreport

theorem run_of_length (h : files.length ≠ 1 ∧ files.length ≠ 2) :
    run files program? = ⟨2, "", usage program? ++ "\n"⟩ := by
  unfold run
  split <;> simp at h ⊢

/-- A run has a wrong number of files, or fails, or has settings and a graph. -/
theorem run_cases (files : List File) : (files.length ≠ 1 ∧ files.length ≠ 2) ∨
    (∃ failure, Fails files failure) ∨ ∃ settings g, Loads files settings g := by
  have hgraph {settings : Settings} {file? : Option File} (graph : File)
      (given : Given file? settings) : (∃ failure, Fails (graph :: file?.toList) failure) ∨
        ∃ settings g, Loads (graph :: file?.toList) settings g := by
    cases hg : Graph.ofFile graph with
    | error failure => exact .inl ⟨failure, .graph given (Graph.ofFile_eq_error_iff.1 hg)⟩
    | ok g => exact .inr ⟨settings, g, .files given hg⟩
  match files with
  | [] => exact .inl (by simp)
  | [graph] => exact .inr (hgraph graph .standard)
  | [graph, file] =>
    cases hs : Settings.ofFile file with
    | error failure =>
      exact .inr (.inl ⟨failure, .settings (Settings.ofFile_eq_error_iff.1 hs)⟩)
    | ok settings => exact .inr (hgraph graph (.file hs))
  | _ :: _ :: _ :: _ => exact .inl (by simp)

end Files

/-- A run ends with 2 if it has neither one file nor two, with 1 and nothing but the failure if it
fails, and else with 0 and the report on its graph. -/
theorem run_reports (files : List File) (program? : Option String) :
    ((run files program?).code = 2 ↔ files.length ≠ 1 ∧ files.length ≠ 2) ∧
    ((run files program?).code = 1 ↔ ∃ failure, Fails files failure) ∧
    ((run files program?).code = 0 ↔ ∃ settings g, Loads files settings g) ∧
    (∀ failure, Fails files failure →
      run files program? = ⟨1, "", "Error: " ++ failure.message ++ "\n"⟩) ∧
    ∀ settings g, Loads files settings g → ∃ session lines table,
      Session.new settings = .ok session ∧ Describes g (session.sweep g).2 lines table ∧
      run files program? = ⟨0, printed lines table, ""⟩ := by
  have husage (h : files.length ≠ 1 ∧ files.length ≠ 2) : (run files program?).code = 2 := by
    rw [run_of_length program? h]
  have hfails (h : ∃ failure, Fails files failure) : (run files program?).code = 1 := by
    obtain ⟨failure, hfailure⟩ := h
    rw [run_of_fails program? hfailure]
  have hloads (h : ∃ settings g, Loads files settings g) : (run files program?).code = 0 := by
    obtain ⟨settings, g, hg⟩ := h
    obtain ⟨_, _, _, -, -, hrun⟩ := run_of_loads program? hg
    rw [hrun]
  -- one of the three cases holds, and their codes differ
  refine ⟨⟨fun h => ?_, husage⟩, ⟨fun h => ?_, hfails⟩, ⟨fun h => ?_, hloads⟩,
    fun _ => run_of_fails program?, fun _ _ => run_of_loads program?⟩
  · rcases run_cases files with hlength | hfailure | hgraph
    · exact hlength
    · simp [hfails hfailure] at h
    · simp [hloads hgraph] at h
  · rcases run_cases files with hlength | hfailure | hgraph
    · simp [husage hlength] at h
    · exact hfailure
    · simp [hloads hgraph] at h
  · rcases run_cases files with hlength | hfailure | hgraph
    · simp [husage hlength] at h
    · simp [hfails hfailure] at h
    · exact hgraph

/-- Two Set nodes of a variable with a Get node. The first one carries an id that is not its key
and holds a link that is not there. The slots are saved with a type that nothing has. -/
def stale : Graph :=
  let input (link : LinkId) := (Slot.new 0 "value" .wildcard .input).setLink (some link)
  let output (type : String) := Slot.new 0 "value" ⟨type⟩ .output
  { nodes := .ofList [
      (1, { Node.new 1 "LoadImage" with outputs := [output "IMAGE"] }),
      (2, { Node.setGlobal 9 "x" with inputs := [input 8], outputs := [output "MASK"] }),
      (3, { Node.setGlobal 3 "x" with inputs := [input 5], outputs := [] }),
      (4, { Node.getGlobal 4 "x" with outputs := [output "MASK"] })]
    links := .ofList [(5, ⟨5, ⟨1, 0⟩, ⟨3, 0⟩⟩)]
    nextNodeId := 5
    nextLinkId := 6 }

def tinted : Settings where
  refreshIntervalMs := 1
  typeColors := .ofList [("IMAGE", "#336699")]

theorem run_reports_stale :
    let files : List File := [.ok stale.toJson.compact.toUTF8, .ok tinted.toJson.compact.toUTF8]
    let idle : Settings := { refreshIntervalMs := 0 }
    let refused : List File := [.error .missing, .ok idle.toJson.compact.toUTF8]
    Loads files tinted stale ∧ stale.reported = [2, 4] ∧
    (∃ session lines table, Session.new tinted = .ok session ∧
      Describes stale (session.sweep stale).2 lines table ∧ lines.length = 2 ∧
      table.get? "x" = some ⟨"IMAGE"⟩ ∧ run files = ⟨0, printed lines table, ""⟩) ∧
    Fails refused (.limit .interval) ∧ (run refused).code = 1 ∧ (run refused).out = "" := by
  intro files idle refused
  have hnodes : stale.nodes.keys.all (· < stale.nextNodeId) = true := by decide
  have hlinks : stale.links.keys.all (· < stale.nextLinkId) = true := by decide
  have hsavable : stale.Savable :=
    ⟨by simpa using hnodes, by simpa using hlinks, by decide, by decide, by decide⟩
  have hgraph : Graph.ofFile (.ok stale.toJson.compact.toUTF8) = .ok stale := by
    rw [Graph.ofFile_toUTF8]
    exact Graph.ofText_compact hsavable
  have hsettings : Settings.ofFile (.ok tinted.toJson.compact.toUTF8) = .ok tinted := by
    rw [Settings.ofFile_toUTF8, Settings.ofText_compact]
    exact Settings.validate_eq_ok_iff.2 ⟨rfl, _, rfl⟩
  have hloads : Loads files tinted stale := .files (.file hsettings) hgraph
  have hfails : Fails refused (.limit .interval) :=
    .settings (.invalid idle.reads.whole_compact (.interval rfl))
  obtain ⟨session, lines, table, hsession, hdescribes, hrun⟩ :=
    (run_reports files none).2.2.2.2 tinted stale hloads
  have htype : table.get? "x" = some ⟨"IMAGE"⟩ := (hdescribes.types "x").trans (by decide)
  have hlines : lines.length = 2 := hdescribes.nodes.length_eq.symm
  have hrefused := (run_reports refused none).2.2.2.1 _ hfails
  exact ⟨hloads, by decide, ⟨session, lines, table, hsession, hdescribes, hlines, htype, hrun⟩,
    hfails, by rw [hrefused], by rw [hrefused]⟩

end Report

end NodeVariables
