import NodeVariables.Proofs.OwnIds
import NodeVariables.Proofs.Refresh

namespace NodeVariables

theorem filterMap_map_const {α β γ : Type} (o : α → Option β) (f : α → γ) (l : List α) :
    l.filterMap (fun a => (o a).map fun _ => f a) = (l.filter fun a => (o a).isSome).map f := by
  rw [← List.filterMap_eq_map, List.filterMap_filter]
  apply List.filterMap_congr
  intro a _
  cases o a <;> simp

/-- Types recorded for two variables do not depend on which is recorded first. -/
theorem Cache.set_comm (c : Cache) {a b : String} (h : a ≠ b) (s t : TypeName) :
    (c.set a s).set b t = (c.set b t).set a s := by
  by_cases ha : a = ""
  · simp [Cache.set, ha]
  by_cases hb : b = ""
  · simp [Cache.set, hb]
  have htypes : ((c.set a s).set b t).types = ((c.set b t).set a s).types := by
    apply Cache.types_eq
    intro n
    simp only [Cache.get?_set]
    by_cases hna : n = a <;> by_cases hnb : n = b <;> simp_all
  have htally : ((c.set a s).set b t).tally = ((c.set b t).set a s).tally := by
    simp [Cache.set, ha, hb]
  cases hl : (c.set a s).set b t
  cases hr : (c.set b t).set a s
  simp_all

namespace Graph

variable {g g' : Graph} {palette : Palette} {c : Cache} {id : NodeId} {name : String}

/-- The pass with the types of the variables recorded in an order of one's choice. -/
def passInOrder (order : List (String × TypeName)) (palette : Palette) (c : Cache) (g : Graph) :
    PassReport × Cache × Graph :=
  let c := order.foldl (fun c e => c.set e.1 e.2) c
  let (setChanges, shown) := g.displayAll palette g.setTypes
  let (getChanges, after) := shown.displayAll palette (shown.getTypes c)
  (⟨g.bindings.length, shown.readers.length, setChanges + getChanges⟩, c, after)

def definers (g : Graph) : List NodeId := g.nodes.keys.filter fun id => (g.defines? id).isSome

def watchers (g : Graph) : List NodeId := g.nodes.keys.filter fun id => (g.reads? id).isSome

def retyped (before after : Graph) (id : NodeId) : Bool :=
  (after.output? (valuePort id)).map Slot.type ≠ (before.output? (valuePort id)).map Slot.type

/-- What a full pass leaves behind: its report, the recorded types and the graph. -/
structure PassOutcome (palette : Palette) (c : Cache) (g : Graph) (report : PassReport)
    (c' : Cache) (g' : Graph) : Prop where
  bound : ∀ name, g.binds name → (g.variableType? name).isSome ∧
    c'.get? name = g.variableType? name
  unbound : ∀ name, ¬g.binds name → c'.get? name = c.get? name
  /-- A Set node shows the type that fed it before the pass. -/
  sets : ∀ id n slot, g.node? id = some n → n.isSet → n.variableName?.isSome →
    n.output? Node.valueSlot = some slot →
    g'.output? (valuePort id) = some { slot with
      type := g.sourceType n
      label := (g.sourceType n).label
      colorOn := some (palette.color (g.sourceType n))
      colorOff := some (palette.color (g.sourceType n)) }
  /-- A Get node shows the type that is recorded after the pass. -/
  gets : ∀ id n name slot, g.node? id = some n → n.isGet → n.variableName? = some name →
    n.output? Node.valueSlot = some slot →
    g'.output? (valuePort id) = some { slot with
      type := (c'.get? name).getD .wildcard
      label := ((c'.get? name).getD .wildcard).label
      colorOn := some (palette.color ((c'.get? name).getD .wildcard))
      colorOff := some (palette.color ((c'.get? name).getD .wildcard)) }
  /-- A node is changed in its value output only, if at all. -/
  frame : ∀ id, ∃ f, g'.node? id = (g.node? id).map (Node.modifyOutput Node.valueSlot f)
  others : ∀ id, g.defines? id = none → g.reads? id = none → g'.node? id = g.node? id
  links : g'.links = g.links
  counters : g'.nextNodeId = g.nextNodeId ∧ g'.nextLinkId = g.nextLinkId
  ascending : g.definers.Pairwise (· < ·) ∧ g.watchers.Pairwise (· < ·)
  redraws : g'.redraws =
    g.redraws ++ (g.definers.filter (g.retyped g') ++ g.watchers.filter (g.retyped g'))
  slotsChanged : report.slotsChanged =
    (g.definers.filter (g.retyped g')).length + (g.watchers.filter (g.retyped g')).length
  setNodes : report.setNodes = g.definers.length
  getNodes : report.getNodes = g.watchers.length

theorem passInOrder_eq {order : List (String × TypeName)}
    (h : order.Perm (typesByName g.bindings).entries) :
    g.passInOrder order palette c = g.pass palette c := by
  have hnames := (typesByName g.bindings).nodup_keys
  have hrecorded : order.foldl (fun c e => c.set e.1 e.2) c = g.recorded c := by
    apply h.foldl_eq'
    intro x hx y hy c
    by_cases hxy : x = y
    · rw [hxy]
    -- different entries of a table have different names
    · have hne : x.1 ≠ y.1 := fun heq =>
        hxy (List.inj_on_of_nodup_map hnames (h.subset hx) (h.subset hy) heq)
      exact c.set_comm hne x.2 y.2
  rw [pass_eq, passInOrder, hrecorded]

theorem retyped_of_look? {type : TypeName} (h : g'.look? (valuePort id) =
    (g.look? (valuePort id)).map fun _ => palette.look type) :
    g.retyped g' id = (g.look? (valuePort id)).any (·.type ≠ type) := by
  rw [retyped, map_type_output?, map_type_output?, h]
  cases g.look? (valuePort id) with
  | none => rfl
  | some look => simp [Palette.look, eq_comm]

/-- The displays on different nodes that change a type are those on the nodes that show another type
than before. -/
theorem map_node_changes {ids : List NodeId} {type : NodeId → TypeName}
    (h : ∀ id ∈ ids, g'.look? (valuePort id) =
      (g.look? (valuePort id)).map fun _ => palette.look (type id)) :
    (g.changes (ids.map fun id => (valuePort id, type id))).map (·.1.node) =
      ids.filter (g.retyped g') := by
  rw [changes, List.filter_map, List.map_map]
  refine (List.map_id _).trans (List.filter_congr fun id hid => ?_)
  rw [retyped_of_look? (h id hid)]
  rfl

section Keyed

variable (hk : g.Keyed)

include hk

theorem length_bindings : g.bindings.length = g.definers.length := by
  rw [bindings_eq hk, List.length_filterMap_eq_countP, List.countP_eq_length_filter, definers]
  simp only [Option.isSome_map]

theorem length_readers : g.readers.length = g.watchers.length := by
  rw [readers_eq hk, List.length_filterMap_eq_countP, List.countP_eq_length_filter, watchers]
  simp only [Option.isSome_map]

theorem setTypes_eq :
    g.setTypes = g.definers.map fun id => (valuePort id, g.sourceTypeAt id) := by
  rw [setTypes, bindings_eq hk, List.map_filterMap, definers, ← filterMap_map_const]
  simp [Function.comp_def]

theorem getTypes_eq : g.getTypes c = g.watchers.map fun id =>
    (valuePort id, ((g.reads? id).bind c.get?).getD .wildcard) := by
  rw [getTypes, readers_eq hk, List.map_filterMap, watchers, ← filterMap_map_const]
  apply List.filterMap_congr
  intro id _
  cases g.reads? id <;> rfl

/-- No output is written twice: no node is both a Set and a Get node. -/
theorem nodup_written : ((g.written c).map Prod.fst).Nodup := by
  rw [written, List.map_append]
  refine List.nodup_append.2 ⟨nodup_setTypes hk, nodup_getTypes hk, ?_⟩
  intro p hp q hq heq
  obtain ⟨x, hx, rfl⟩ := List.mem_map.1 hp
  obtain ⟨y, hy, rfl⟩ := List.mem_map.1 hq
  obtain ⟨i, name, hi, hd, -⟩ := (mem_setTypes hk).1 hx
  obtain ⟨j, other, hj, hr, -⟩ := (mem_getTypes hk).1 hy
  obtain rfl := valuePort_injective (hi.symm.trans (heq.trans hj))
  simp [defines?_eq_none_of_reads? hr] at hd

theorem map_node_changes_written : (g.changes (g.written c)).map (·.1.node) =
    g.definers.filter (g.retyped (g.pass palette c).2.2) ++
      g.watchers.filter (g.retyped (g.pass palette c).2.2) := by
  have hsets (id : NodeId) (hid : id ∈ g.definers) :
      (g.pass palette c).2.2.look? (valuePort id) =
        (g.look? (valuePort id)).map fun _ => palette.look (g.sourceTypeAt id) := by
    obtain ⟨name, hd⟩ := Option.isSome_iff_exists.1 (List.mem_filter.1 hid).2
    exact look?_pass_of_defines? hk hd
  have hgets (id : NodeId) (hid : id ∈ g.watchers) :
      (g.pass palette c).2.2.look? (valuePort id) = (g.look? (valuePort id)).map fun _ =>
        palette.look (((g.reads? id).bind (g.recorded c).get?).getD .wildcard) := by
    obtain ⟨name, hr⟩ := Option.isSome_iff_exists.1 (List.mem_filter.1 hid).2
    rw [look?_pass_of_reads? hk hr, hr, Option.bind_some]
  rw [written, setTypes_eq hk, getTypes_eq hk, changes, List.filter_append, List.map_append]
  exact congrArg₂ (· ++ ·) (map_node_changes hsets) (map_node_changes hgets)

/-- Whatever the order in which the variables are recorded, a full pass does what it should. -/
theorem passOutcome_pass (palette : Palette) (c : Cache) {order : List (String × TypeName)}
    (ho : order.Perm (typesByName g.bindings).entries) :
    g.passInOrder order palette c = g.pass palette c ∧
    PassOutcome palette c g (g.pass palette c).1 (g.pass palette c).2.1 (g.pass palette c).2.2 := by
  have hgraph : (g.pass palette c).2.2 = (g.displayAll palette (g.written c)).2 := by
    rw [pass_eq_displayAll]
  have hreport : (g.pass palette c).1 = ⟨g.bindings.length, g.readers.length,
      (g.displayAll palette (g.written c)).1⟩ := by
    rw [pass_eq_displayAll]
  have hframe := displayAll_frame palette (g.written c) g
  have hown := ownIds_of_keyed hk
  refine ⟨passInOrder_eq ho, ?_⟩
  constructor
  case bound =>
    intro name hb
    exact get?_recorded_of_binds c hb
  case unbound =>
    intro name hb
    exact get?_recorded_of_not_binds c hb
  case sets =>
    intro id n slot hn hs hv hslot
    exact hown.output?_pass_of_isSet palette c hn hs hv hslot
  case gets =>
    intro id n name slot hn hg hv hslot
    exact hown.output?_pass_of_isGet palette c hn hg hv hslot
  case frame => exact node?_pass_modifyOutput palette c g
  case others =>
    intro id hd hr
    apply hown.node?_pass_of_other
    intro n hn hglobal
    rcases Bool.or_eq_true_iff.1 hglobal with hs | hg
    · simpa [defines?, Node.defines?, hn, hs] using hd
    · simpa [reads?, Node.reads?, hn, hg] using hr
  case links => rw [hgraph, hframe]
  case counters =>
    rw [hgraph, hframe]
    exact ⟨rfl, rfl⟩
  case ascending =>
    exact ⟨g.nodes.pairwise_keys.filter _, g.nodes.pairwise_keys.filter _⟩
  case redraws =>
    rw [← map_node_changes_written hk, hgraph, redraws_displayAll (nodup_written hk)]
  case slotsChanged =>
    rw [hreport, ← List.length_append, ← map_node_changes_written hk, List.length_map]
    exact fst_displayAll (nodup_written hk)
  case setNodes =>
    rw [hreport]
    exact length_bindings hk
  case getNodes =>
    rw [hreport]
    exact length_readers hk

end Keyed

/-- The three variables of the chained graph, recorded from the last to the first. -/
theorem passOutcome_chained :
    Session.chained.Keyed ∧
    (typesByName Session.chained.bindings).entries.reverse.Perm
      (typesByName Session.chained.bindings).entries ∧
    Session.chained.passInOrder (typesByName Session.chained.bindings).entries.reverse .builtin
      .empty = Session.chained.pass .builtin .empty ∧
    ∃ report c' g', Session.chained.pass .builtin .empty = (report, c', g') ∧
      PassOutcome .builtin .empty Session.chained report c' g' ∧
      report = ⟨3, 2, 2⟩ ∧ g'.redraws = [1, 2] := by
  have hk : Session.chained.Keyed := by decide
  have ho := (typesByName Session.chained.bindings).entries.reverse_perm
  obtain ⟨heq, hout⟩ := passOutcome_pass hk .builtin .empty ho
  exact ⟨hk, ho, heq, _, _, _, rfl, hout, by decide, by decide⟩

end Graph

end NodeVariables
