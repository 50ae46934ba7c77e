import NodeVariables.Graph.Saved
import NodeVariables.Proofs.Json.Containers

namespace NodeVariables

open Json

/-- A color whose channels are stored as they are written. -/
def Color.Undimmed (c : Color) : Prop := c.alpha = 255 ∨ c = ⟨0, 0, 0, 0⟩

instance : DecidablePred Color.Undimmed := fun c =>
  inferInstanceAs (Decidable (c.alpha = 255 ∨ c = ⟨0, 0, 0, 0⟩))

def Slot.Undimmed (s : Slot) : Prop :=
  ∀ c ∈ s.colorOn.toList ++ s.colorOff.toList, c.Undimmed

instance : DecidablePred Slot.Undimmed := fun s =>
  inferInstanceAs (Decidable (∀ c ∈ s.colorOn.toList ++ s.colorOff.toList, c.Undimmed))

section Reading

theorem Side.reads (side : Side) : Reads Side.read (.text side.name) side := by
  cases side <;> exact reads_choice _ rfl

theorem TypeName.reads (t : TypeName) : Reads TypeName.read t.toJson t :=
  (reads_text t.text).map TypeName.mk

theorem Color.ofStraight_of_undimmed {c : Color} (h : c.Undimmed) :
    ofStraight c.red c.green c.blue c.alpha = c := by
  rcases h with h | rfl
  · rw [ofStraight, if_pos h, rgb, ← h]
  · rfl

theorem Color.reads {c : Color} (h : c.Undimmed) : Reads Color.read c.toJson c := by
  intro b s rest hb hs hr
  have hchannels : Fields.Matches (.required "red" readByte <| .required "green" readByte <|
      .required "blue" readByte <| .required "alpha" readByte .done)
      [.ofByte c.red, .ofByte c.green, .ofByte c.blue, .ofByte c.alpha]
      (c.red, c.green, c.blue, c.alpha, ()) :=
    .field (reads_byte _) <| .field (reads_byte _) <| .field (reads_byte _) <|
      .field (reads_byte _) .done
  obtain ⟨t, inside, -, htext⟩ := hs.exists_items hb rest
  have htuple := hchannels.readTuple_writes "an array of length 4" inside rest
  unfold Color.read
  rw [htext]
  refine (map_ok _ htuple).trans ?_
  exact congrArg (fun c => Except.ok (c, rest)) (ofStraight_of_undimmed h)

theorem Slot.reads {s : Slot} (h : s.Undimmed) : Reads Slot.read s.toJson s := by
  have hlink : Reads (readOptional readWord) (.ofOption .ofWord s.link) s.link :=
    reads_optional fun id _ => ⟨by simp [Value.ofWord, Value.ofNat], reads_word id⟩
  have hlinks : Reads (readList readWord) (.list (s.links.map .ofWord)) s.links :=
    reads_list fun id _ => reads_word id
  have hon : Reads (readOptional Color.read) (.ofOption Color.toJson s.colorOn) s.colorOn :=
    reads_optional fun c hc => ⟨by simp [Color.toJson], Color.reads (h c (by simp [hc]))⟩
  have hoff : Reads (readOptional Color.read) (.ofOption Color.toJson s.colorOff) s.colorOff :=
    reads_optional fun c hc => ⟨by simp [Color.toJson], Color.reads (h c (by simp [hc]))⟩
  exact reads_record (.field (reads_index s.index) (by simp) <|
    .field (reads_text s.name) (by simp) <|
    .field (reads_text s.label) (by simp) <|
    .field s.type.reads (by simp) <|
    .field s.side.reads (by simp) <|
    .field hlink (by simp) <|
    .field hlinks (by simp) <|
    .field hon (by simp) <|
    .field hoff (by simp) .done) "Slot" rfl

theorem Widget.reads (w : Widget) : Reads Widget.read w.toJson w :=
  reads_record (.field (reads_text w.name) (by simp) <|
    .field (reads_text w.value) (by simp) .done) "Widget" rfl

theorem Node.reads {n : Node} (h : ∀ s ∈ n.inputs ++ n.outputs, s.Undimmed) :
    Reads Node.read n.toJson n := by
  have hinputs : Reads (readList Slot.read) (.list (n.inputs.map Slot.toJson)) n.inputs :=
    reads_list fun s hs => Slot.reads (h s (List.mem_append_left _ hs))
  have houtputs : Reads (readList Slot.read) (.list (n.outputs.map Slot.toJson)) n.outputs :=
    reads_list fun s hs => Slot.reads (h s (List.mem_append_right _ hs))
  have hwidgets : Reads (readList Widget.read) (.list (n.widgets.map Widget.toJson)) n.widgets :=
    reads_list fun w _ => w.reads
  exact reads_record (.field (reads_index n.id) (by simp) <|
    .field (reads_text n.nodeType) (by simp) <|
    .field (reads_text n.title) (by simp) <|
    .field hinputs (by simp) <|
    .field houtputs (by simp) <|
    .field hwidgets (by simp) .done) "Node" rfl

theorem Link.reads (l : Link) : Reads Link.read l.toJson l :=
  reads_record (.field (reads_word l.id) (by simp) <|
    .field (reads_index l.origin.node) (by simp) <|
    .field (reads_index l.origin.slot) (by simp) <|
    .field (reads_index l.target.node) (by simp) <|
    .field (reads_index l.target.slot) (by simp) .done) "Link" rfl

end Reading

namespace Graph

variable {g : Graph}

/-- What brings a graph back from its saved text: counters above every key that leave room, and
colors that are stored as they are written. -/
structure Savable (g : Graph) : Prop where
  nodeIds : ∀ id ∈ g.nodes.keys, id < g.nextNodeId
  linkIds : ∀ id ∈ g.links.keys, id < g.nextLinkId
  nodeRoom : g.nextNodeId.toNat < lastId
  linkRoom : g.nextLinkId.toNat < lastId
  colors : ∀ n ∈ g.nodes.values, ∀ s ∈ n.inputs ++ n.outputs, s.Undimmed

theorem reads (h : ∀ n ∈ g.nodes.values, ∀ s ∈ n.inputs ++ n.outputs, s.Undimmed) :
    Reads Graph.read g.toJson { g with redraws := [] } := by
  have hnodes : Reads (readTable (numericKey readIndex) Node.read) (g.nodes.toJson Node.toJson)
      g.nodes :=
    reads_table (fun k _ => readsKey_numeric (reads_index k)) fun n hn => Node.reads (h n hn)
  have hlinks : Reads (readTable (numericKey readWord) Link.read) (g.links.toJson Link.toJson)
      g.links :=
    reads_table (fun k _ => readsKey_numeric (reads_word k)) fun l _ => l.reads
  exact reads_record (.field hnodes (by simp) <|
    .field hlinks (by simp) <|
    .field (reads_index g.nextNodeId) (by simp) <|
    .field (reads_word g.nextLinkId) (by simp) .done) "NodeGraph" rfl

/-- A counter above every key stays as it is. -/
theorem raise_eq_self {stored : UInt64} {maxKey? : Option UInt64} (limit : Limit)
    (hkey : ∀ key ∈ maxKey?, key < stored) (hroom : stored.toNat < lastId) :
    raise stored maxKey? limit = .ok stored := by
  unfold raise
  cases maxKey? with
  | none => simp [hroom]
  | some key =>
    have hle : key.toNat + 1 ≤ stored.toNat := UInt64.lt_iff_toNat_lt.1 (hkey key rfl)
    simp [Nat.max_eq_left hle, hroom]

theorem raiseCounters_eq_self (h : g.Savable) : g.raiseCounters = .ok g := by
  have hnode := raise_eq_self .savedNodeIds
    (fun key hkey => h.nodeIds key (List.mem_of_getLast? hkey)) h.nodeRoom
  have hlink := raise_eq_self .savedLinkIds
    (fun key hkey => h.linkIds key (List.mem_of_getLast? hkey)) h.linkRoom
  simp only [raiseCounters, Table.maxKey?, hnode, hlink, bind, Except.bind, pure, Except.pure]

/-- A saved graph is loaded as it was, but for the redraw requests, and saved as the same text. -/
theorem ofText_save (h : g.Savable) :
    Graph.ofText g.save = .ok { g with redraws := [] } ∧
    Graph.save { g with redraws := [] } = g.save := by
  refine ⟨?_, rfl⟩
  have hsaved : Graph.Savable { g with redraws := [] } :=
    ⟨h.nodeIds, h.linkIds, h.nodeRoom, h.linkRoom, h.colors⟩
  have hwhole : Graph.read.whole g.save = .ok { g with redraws := [] } :=
    (Graph.reads h.colors).whole (writes_prettyChars 0 g.toJson)
  rw [ofText, hwhole]
  exact raiseCounters_eq_self hsaved

/-- The compact text of a graph is loaded as well. -/
theorem ofText_compact (h : g.Savable) :
    Graph.ofText g.toJson.compact = .ok { g with redraws := [] } := by
  have hsaved : Graph.Savable { g with redraws := [] } :=
    ⟨h.nodeIds, h.linkIds, h.nodeRoom, h.linkRoom, h.colors⟩
  have hwhole : Graph.read.whole g.toJson.compact = .ok { g with redraws := [] } :=
    (Graph.reads h.colors).whole_compact
  rw [ofText, hwhole]
  exact raiseCounters_eq_self hsaved

/-- Texts with escapes, a link to a node that is not there, a node that carries another id than its
key, the greatest slot index and colors of both kinds. -/
def scribbled : Graph :=
  let output := Slot.new (.ofNat (UInt64.size - 1)) "value" ⟨"IMAGE"⟩ .output
  let colored := { output with
    links := [7, 9]
    colorOn := some (.rgb 1 2 3)
    colorOff := some ⟨0, 0, 0, 0⟩ }
  let node := { Node.setGlobal 8 "größe" with
    title := "a \"title\" with a \\,\na control \x01 and a clef 𝄞"
    outputs := [colored] }
  { nodes := .ofList [(3, node), (40, .new 40 "")]
    links := .ofList [(7, ⟨7, ⟨3, 0⟩, ⟨5, 1⟩⟩)]
    nextNodeId := 41
    nextLinkId := .ofNat (lastId - 1)
    redraws := [3] }

theorem ofText_save_scribbled :
    scribbled.Savable ∧ Graph.ofText scribbled.save = .ok { scribbled with redraws := [] } ∧
    Graph.save { scribbled with redraws := [] } = scribbled.save := by
  have hnodes : scribbled.nodes.keys.all (· < scribbled.nextNodeId) = true := by decide
  have hlinks : scribbled.links.keys.all (· < scribbled.nextLinkId) = true := by decide
  have h : scribbled.Savable :=
    ⟨by simpa using hnodes, by simpa using hlinks, by decide, by decide, by decide⟩
  exact ⟨h, ofText_save h⟩

end Graph

end NodeVariables
