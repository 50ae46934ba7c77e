import NodeVariables.Proofs.OwnIds
import NodeVariables.Proofs.Targeted
/-!
Link events in any order. Where no Set node is fed by the value output of a Set or Get node, what
the update of a Set node displays and records depends on the graph as it was before all updates. So
events that tell of changed links may come in any order and more than once, and together they do for
the variables that the graph defines what a full pass does.
-/
namespace NodeVariables

/-- The event tells of a changed link of a value input of a Set node that has a variable. -/
def Event.Refeeds (g : Graph) : Event → Prop
  | .connectionsChanged id .input slot _ =>
    (g.defines? id).isSome ∧ (g.input? ⟨id, slot⟩).any (·.name ≠ Node.triggerInput)
  | _ => False

instance (g : Graph) : DecidablePred (Event.Refeeds g) := fun event => by
  unfold Event.Refeeds
  split <;> infer_instance

def Event.relinked? : Event → Option NodeId
  | .connectionsChanged id _ _ _ => some id
  | _ => none

def relinked (events : List (Event × Instant)) : List NodeId :=
  events.filterMap fun e => e.1.relinked?

namespace Graph

variable {g g' g'' : Graph} {palette : Palette} {types : List (Port × TypeName)}
  {id j : NodeId} {name : String} {type : TypeName} {ids : List NodeId}

section Reshown

/-- The graphs differ at most in what the value outputs of Set and Get nodes show. -/
structure Reshown (g g' : Graph) : Prop where
  bare : g'.bare = g.bare
  look : ∀ p, ¬g.IsVariableOutput p → g'.look? p = g.look? p

theorem isVariableOutput_of_bare_eq (hb : g'.bare = g.bare) (p : Port) :
    g'.IsVariableOutput p ↔ g.IsVariableOutput p :=
  iff_of_eq (view_eq (fun g => g.IsVariableOutput p)
    (fun g => propext (g.isVariableOutput_bare p)) hb)

theorem Reshown.trans (h : Reshown g g') (h' : Reshown g' g'') : Reshown g g'' where
  bare := h'.bare.trans h.bare
  look p hp := by
    rw [h'.look p (by rwa [isVariableOutput_of_bare_eq h.bare]), h.look p hp]

theorem reshown_displayAll (h : ∀ x ∈ types, g.IsVariableOutput x.1) :
    Reshown g (g.displayAll palette types).2 where
  bare := by
    apply bare_displayAll
    intro x hx
    obtain ⟨hslot, n, hn, hglobal⟩ := h x hx
    refine ⟨hslot, fun m hm => ?_⟩
    obtain rfl : n = m := Option.some.inj (hn.symm.trans hm)
    exact hglobal
  look p hp := by
    apply look?_displayAll_of_not_mem
    intro hmem
    obtain ⟨x, hx, rfl⟩ := List.mem_map.1 hmem
    exact hp (h x hx)

end Reshown

theorem refeeds_of_bare_eq {event : Event} (hb : g'.bare = g.bare) (h : event.Refeeds g) :
    event.Refeeds g' := by
  match event, h with
  | .connectionsChanged id .input slot _, ⟨hd, hslot⟩ =>
    have hinput : g'.input? ⟨id, slot⟩ = g.input? ⟨id, slot⟩ :=
      view_eq (fun g => g.input? ⟨id, slot⟩) (fun g => g.input?_bare ⟨id, slot⟩) hb
    exact ⟨by rwa [defines?_of_bare_eq hb], by rwa [hinput]⟩

theorem getNodeIds_eq (g : Graph) (name : String) :
    g.getNodeIds name = g.nodes.keys.filter fun id => g.reads? id = some name := by
  rw [getNodeIds, Table.keys, List.filter_map]
  congr 1
  apply List.filter_congr
  intro e he
  have hn : g.node? e.1 = some e.2 := Table.get?_eq_some_iff.2 he
  rw [Bool.eq_iff_iff, Node.isGetOf_iff]
  simp [reads?, hn]

theorem getNodeIds_of_bare_eq (hb : g'.bare = g.bare) (name : String) :
    g'.getNodeIds name = g.getNodeIds name := by
  simp only [getNodeIds_eq, keys_of_bare_eq hb, reads?_of_bare_eq hb]

section Updates

def boundType (g : Graph) (name : String) : TypeName := (g.variableType? name).getD .wildcard

def updates (g : Graph) (id : NodeId) : List (Port × TypeName) :=
  match g.defines? id with
  | none => []
  | some name => (valuePort id, g.sourceTypeAt id) ::
      (g.getNodeIds name).map fun j => (valuePort j, g.boundType name)

def recordAll (g : Graph) (ids : List NodeId) (c : Cache) : Cache :=
  ids.foldl (fun c id =>
    match g.defines? id with
    | none => c
    | some name => c.set name (g.boundType name)) c

/-- The type that the value output of a node shows once its variable is up to date; none if the
graph does not define the variable. -/
def ownType? (g : Graph) (id : NodeId) : Option TypeName :=
  match g.defines? id with
  | some _ => some (g.sourceTypeAt id)
  | none => (g.reads? id).bind g.variableType?

theorem variableType?_of_defines? (hd : g.defines? id = some name) :
    g.variableType? name = some (g.boundType name) := by
  obtain ⟨type, htype⟩ := Option.isSome_iff_exists.1 (variableType?_isSome_iff.2 ⟨id, hd⟩)
  simp [boundType, htype]

theorem mem_updates {p : Port} : (p, type) ∈ g.updates id ↔
    ∃ name, g.defines? id = some name ∧ (p = valuePort id ∧ type = g.sourceTypeAt id ∨
      ∃ j, p = valuePort j ∧ g.reads? j = some name ∧ type = g.boundType name) := by
  unfold updates
  cases hd : g.defines? id with
  | none => simp
  | some name =>
    simp only [List.mem_cons, Prod.mk.injEq, List.mem_map, mem_getNodeIds, Option.some.injEq,
      exists_eq_left']
    constructor
    · rintro (h | ⟨j, hr, rfl, rfl⟩)
      · exact .inl h
      · exact .inr ⟨j, rfl, hr, rfl⟩
    · rintro (h | ⟨j, rfl, hr, rfl⟩)
      · exact .inl h
      · exact .inr ⟨j, hr, rfl, rfl⟩

theorem ownType?_of_mem_updates (h : (valuePort j, type) ∈ g.updates id) :
    g.ownType? j = some type := by
  obtain ⟨name, hd, ⟨hj, rfl⟩ | ⟨k, hj, hr, rfl⟩⟩ := mem_updates.1 h
  · obtain rfl := valuePort_injective hj
    simp [ownType?, hd]
  · obtain rfl := valuePort_injective hj
    simp [ownType?, defines?_eq_none_of_reads? hr, hr, variableType?_of_defines? hd]

theorem isVariableOutput_of_mem_updates {x : Port × TypeName} (h : x ∈ g.updates id) :
    g.IsVariableOutput x.1 := by
  obtain ⟨p, type⟩ := x
  obtain ⟨name, hd, ⟨rfl, -⟩ | ⟨k, rfl, hr, -⟩⟩ := mem_updates.1 h
  · exact isVariableOutput_of_defines? rfl hd
  · exact isVariableOutput_of_reads? rfl hr

theorem get?_recordAll (ids : List NodeId) (c : Cache) (name : String) :
    (g.recordAll ids c).get? name =
      if ∃ id ∈ ids, g.defines? id = some name then g.variableType? name else c.get? name := by
  induction ids generalizing c with
  | nil => simp [recordAll]
  | cons id rest ih =>
    have hcons : g.recordAll (id :: rest) c = g.recordAll rest (g.recordAll [id] c) := rfl
    rw [hcons, ih]
    by_cases hrest : ∃ id ∈ rest, g.defines? id = some name
    · have hall : ∃ i ∈ id :: rest, g.defines? i = some name := by
        obtain ⟨i, hi, hd⟩ := hrest
        exact ⟨i, List.mem_cons_of_mem _ hi, hd⟩
      rw [if_pos hrest, if_pos hall]
    · rw [if_neg hrest]
      by_cases hd : g.defines? id = some name
      · have hset : g.recordAll [id] c = c.set name (g.boundType name) := by
          simp [recordAll, hd]
        rw [if_pos ⟨id, by simp, hd⟩, hset, Cache.get?_set, if_pos ⟨rfl, defines?_ne_empty hd⟩,
          variableType?_of_defines? hd]
      · have hnone : ¬∃ i ∈ id :: rest, g.defines? i = some name := by
          simpa [hd] using hrest
        rw [if_neg hnone]
        cases ho : g.defines? id with
        | none => simp [recordAll, ho]
        | some other =>
          have hne : name ≠ other := fun heq => hd (heq ▸ ho)
          have hset : g.recordAll [id] c = c.set other (g.boundType other) := by
            simp [recordAll, ho]
          rw [hset, Cache.get?_set, if_neg fun h => hne h.1]

section Reshown

variable (hu : g.Unchained) (h : Reshown g g')

include hu h

theorem boundType_of_reshown (name : String) : g'.boundType name = g.boundType name := by
  rw [boundType, boundType, hu.variableType?_eq h.bare h.look]

theorem updates_of_reshown (id : NodeId) : g'.updates id = g.updates id := by
  unfold updates
  rw [defines?_of_bare_eq h.bare]
  cases hd : g.defines? id with
  | none => rfl
  | some name =>
    simp only [hu.sourceTypeAt_eq h.bare h.look hd, getNodeIds_of_bare_eq h.bare,
      boundType_of_reshown hu h]

theorem recordAll_of_reshown (ids : List NodeId) (c : Cache) :
    g'.recordAll ids c = g.recordAll ids c := by
  simp only [recordAll, defines?_of_bare_eq h.bare, boundType_of_reshown hu h]

end Reshown

theorem reshown_updates (palette : Palette) (id : NodeId) (g : Graph) :
    Reshown g (g.displayAll palette (g.updates id)).2 :=
  reshown_displayAll fun _ => isVariableOutput_of_mem_updates

end Updates

section LastOn

/-- Where every display on an output shows the type that a function gives it, the order of the
displays does not matter. -/
theorem lastOn_eq_of_forall {f : NodeId → Option TypeName}
    (h : ∀ id type, (valuePort id, type) ∈ types → f id = some type) (id : NodeId) :
    lastOn types (valuePort id) = if valuePort id ∈ types.map Prod.fst then f id else none := by
  split
  · next hmem =>
    obtain ⟨⟨p, type⟩, hx, hp⟩ := List.mem_map.1 hmem
    have hx : (valuePort id, type) ∈ types := hp ▸ hx
    rw [h id type hx]
    apply lastOn_of_forall hmem
    intro other hother
    exact Option.some.inj ((h id other hother).symm.trans (h id type hx))
  · next hmem => exact lastOn_of_not_mem hmem

theorem mem_map_updates (ids : List NodeId) (j : NodeId) :
    valuePort j ∈ (ids.flatMap g.updates).map Prod.fst ↔
      ∃ id ∈ ids, ∃ name, g.defines? id = some name ∧ (j = id ∨ g.reads? j = some name) := by
  simp only [List.mem_map, List.mem_flatMap, Prod.exists, exists_and_right, exists_eq_right]
  constructor
  · rintro ⟨type, id, hid, hx⟩
    obtain ⟨name, hd, ⟨hj, -⟩ | ⟨k, hj, hr, -⟩⟩ := mem_updates.1 hx
    · exact ⟨id, hid, name, hd, .inl (valuePort_injective hj)⟩
    · exact ⟨id, hid, name, hd, .inr (valuePort_injective hj ▸ hr)⟩
  · rintro ⟨id, hid, name, hd, rfl | hr⟩
    · exact ⟨_, j, hid, mem_updates.2 ⟨name, hd, .inl ⟨rfl, rfl⟩⟩⟩
    · exact ⟨_, id, hid, mem_updates.2 ⟨name, hd, .inr ⟨j, rfl, hr, rfl⟩⟩⟩

/-- After the updates of some Set nodes, a node that they concern shows its own type. -/
theorem lastOn_updates (ids : List NodeId) (j : NodeId) :
    lastOn (ids.flatMap g.updates) (valuePort j) =
      if valuePort j ∈ (ids.flatMap g.updates).map Prod.fst then g.ownType? j else none := by
  apply lastOn_eq_of_forall
  intro id type hx
  obtain ⟨k, -, hk⟩ := List.mem_flatMap.1 hx
  exact ownType?_of_mem_updates hk

/-- Where the graph defines the variable of a node, a full pass shows the node's own type too. -/
theorem lastOn_written (hk : g.Keyed) (c : Cache) (hown : (g.ownType? j).isSome) :
    lastOn (g.written c) (valuePort j) = g.ownType? j := by
  have halone (k : NodeId) (hc : g.Carries k j) : k = j := (ownIds_of_keyed hk).eq_of_carries hc
  unfold ownType? at hown ⊢
  cases hd : g.defines? j with
  | some name =>
    obtain ⟨n, hn, hs, hv⟩ := node?_of_defines? hd
    have hsource : g.sourceTypeAt j = g.sourceType n := by simp [sourceTypeAt, hn]
    rw [hsource]
    exact lastOn_written_of_isSet hn (hk j n hn) halone hs (by rw [hv, Option.isSome_some])
  | none =>
    rw [hd] at hown
    obtain ⟨type, htype⟩ := Option.isSome_iff_exists.1 hown
    obtain ⟨name, hr, hvariable⟩ := Option.bind_eq_some_iff.1 htype
    obtain ⟨n, hn, hg, hv⟩ := node?_of_reads? hr
    have hrecorded : ((g.recorded c).get? name).getD .wildcard = type := by
      rw [get?_recorded, hvariable, Option.some_or, Option.getD_some]
    rw [lastOn_written_of_isGet hn (hk j n hn) halone hg hv, hrecorded]
    exact htype.symm

end LastOn

end Graph

namespace Session

open NodeVariables.Graph (valuePort)

variable {s : Session} {g : Graph} {id : NodeId} {name : String} {event : Event}

def handleAll (s : Session) (g : Graph) (events : List (Event × Instant)) : Session × Graph :=
  events.foldl (fun x e => x.1.handle x.2 e.1 e.2) (s, g)

section Runs

variable (hu : g.Unchained)

include hu

theorem updateSet_eq (s : Session) (hd : g.defines? id = some name) :
    s.updateSet g id = ({ s with cache := g.recordAll [id] s.cache },
      (g.displayAll s.palette (g.updates id)).2) := by
  obtain ⟨n, hn, hs, hv⟩ := Graph.node?_of_defines? hd
  have hsource : g.sourceType n = g.sourceTypeAt id := by simp [Graph.sourceTypeAt, hn]
  have hport : g.IsVariableOutput (valuePort id) := Graph.isVariableOutput_of_defines? rfl hd
  have hshown : Graph.Reshown g (s.display g id (g.sourceTypeAt id)) := by
    have hone : ∀ x ∈ [(valuePort id, g.sourceTypeAt id)], g.IsVariableOutput x.1 := by
      simpa using hport
    exact Graph.reshown_displayAll hone
  have htype : ((s.display g id (g.sourceTypeAt id)).variableType? name).getD (g.sourceTypeAt id) =
      g.boundType name := by
    rw [hu.variableType?_eq hshown.bare hshown.look, Graph.variableType?_of_defines? hd,
      Option.getD_some]
  unfold updateSet
  simp only [hn, hv, hsource, htype, record, propagate, Graph.propagate,
    Graph.getNodeIds_of_bare_eq hshown.bare, Graph.updates, hd, Graph.displayAll_cons,
    Graph.recordAll, List.foldl_cons, List.foldl_nil]
  rfl

theorem handle_eq (s : Session) (h : event.Refeeds g) (now : Instant) :
    ∃ id name, event.relinked? = some id ∧ g.defines? id = some name ∧
      s.handle g event now = ({ s with cache := g.recordAll [id] s.cache },
        (g.displayAll s.palette (g.updates id)).2) := by
  match event, h with
  | .connectionsChanged id .input slot connected, ⟨hd, hslot⟩ =>
    obtain ⟨name, hd⟩ := Option.isSome_iff_exists.1 hd
    obtain ⟨n, hn, hs, -⟩ := Graph.node?_of_defines? hd
    have hfeeds : feedsSet g id .input slot := by
      simpa [feedsSet, hn, hs, Graph.input?] using hslot
    refine ⟨id, name, rfl, hd, ?_⟩
    rw [← updateSet_eq hu s hd]
    exact if_pos hfeeds

/-- What comes of a run of link events is said in terms of the graph as it was before the run. -/
theorem handleAll_eq (s : Session) {events : List (Event × Instant)}
    (h : ∀ e ∈ events, e.1.Refeeds g) :
    s.handleAll g events = ({ s with cache := g.recordAll (relinked events) s.cache },
      (g.displayAll s.palette ((relinked events).flatMap g.updates)).2) := by
  induction events generalizing s g with
  | nil => rfl
  | cons e rest ih =>
    obtain ⟨id, name, hid, hd, hstep⟩ := handle_eq hu s (h e (by simp)) e.2
    have hshown := Graph.reshown_updates s.palette id g
    have hrest (e) (he : e ∈ rest) : e.1.Refeeds (g.displayAll s.palette (g.updates id)).2 :=
      Graph.refeeds_of_bare_eq hshown.bare (h e (List.mem_cons_of_mem _ he))
    have hcons : s.handleAll g (e :: rest) =
        (s.handle g e.1 e.2).1.handleAll (s.handle g e.1 e.2).2 rest := rfl
    have hids : relinked (e :: rest) = id :: relinked rest := List.filterMap_cons_some hid
    have hupdates := funext (Graph.updates_of_reshown hu hshown)
    rw [hcons, hstep, ih (hu.of_bare_eq hshown.bare) _ hrest, hids, List.flatMap_cons,
      Graph.displayAll_append, Graph.recordAll_of_reshown hu hshown, hupdates]
    rfl

/-- A node shows its own type if an event concerns it, and else what it showed before. -/
theorem node?_handleAll (s : Session) {events : List (Event × Instant)}
    (h : ∀ e ∈ events, e.1.Refeeds g) (j : NodeId) :
    (s.handleAll g events).2.node? j = (g.node? j).map (Node.shown s.palette
      (if valuePort j ∈ ((relinked events).flatMap g.updates).map Prod.fst then g.ownType? j
        else none)) := by
  rw [handleAll_eq hu s h, ← Graph.lastOn_updates]
  apply Graph.node?_displayAll
  intro x hx
  obtain ⟨id, -, hmem⟩ := List.mem_flatMap.1 hx
  exact (Graph.isVariableOutput_of_mem_updates hmem).1

theorem get?_handleAll (s : Session) {events : List (Event × Instant)}
    (h : ∀ e ∈ events, e.1.Refeeds g) (name : String) :
    (s.handleAll g events).1.cache.get? name =
      if ∃ id ∈ relinked events, g.defines? id = some name then g.variableType? name
      else s.cache.get? name := by
  rw [handleAll_eq hu s h]
  exact Graph.get?_recordAll ..

end Runs

/-- Two runs end with the same slots and the same recorded types. They may differ in how often they
asked for redraws and counted what they did. -/
structure Alike (a b : Session × Graph) : Prop where
  graph : { a.2 with redraws := [] } = { b.2 with redraws := [] }
  types : a.1.cache.types = b.1.cache.types

/-- Two runs agree on all that concerns the variables that a graph defines. -/
structure AgreeOnBound (g : Graph) (a b : Session × Graph) : Prop where
  sets : ∀ id n, g.node? id = some n → n.isSet →
    a.2.output? (valuePort id) = b.2.output? (valuePort id)
  cached : ∀ name, g.binds name → a.1.cache.get? name = b.1.cache.get? name
  gets : ∀ id name, g.reads? id = some name → g.binds name →
    a.2.output? (valuePort id) = b.2.output? (valuePort id)

theorem mem_relinked {events : List (Event × Instant)} :
    id ∈ relinked events ↔ ∃ event ∈ events.map Prod.fst, event.relinked? = some id := by
  simp [relinked]

/-- Link events have the same effect in any order, however often each of them comes. -/
theorem alike_of_sameEvents (hu : g.Unchained) (s : Session)
    {events events' : List (Event × Instant)} (h : ∀ e ∈ events, e.1.Refeeds g)
    (hsame : ∀ event, event ∈ events.map Prod.fst ↔ event ∈ events'.map Prod.fst) :
    Alike (s.handleAll g events) (s.handleAll g events') := by
  have h' (e) (he : e ∈ events') : e.1.Refeeds g := by
    obtain ⟨x, hx, heq⟩ := List.mem_map.1 ((hsame e.1).2 (List.mem_map_of_mem he))
    exact heq ▸ h x hx
  have hids (id : NodeId) : id ∈ relinked events ↔ id ∈ relinked events' := by
    simp only [mem_relinked, hsame]
  constructor
  case graph =>
    have hnodes : (s.handleAll g events).2.nodes = (s.handleAll g events').2.nodes := by
      apply Table.ext_get?
      intro j
      have hl := node?_handleAll hu s h j
      have hr := node?_handleAll hu s h' j
      simp only [Graph.mem_map_updates, hids] at hl hr
      exact hl.trans hr.symm
    rw [handleAll_eq hu s h, handleAll_eq hu s h'] at hnodes ⊢
    rw [Graph.displayAll_frame, Graph.displayAll_frame s.palette ((relinked events').flatMap _)]
    simpa using hnodes
  case types =>
    apply Cache.types_eq
    intro name
    rw [get?_handleAll hu s h, get?_handleAll hu s h']
    simp only [hids]

/-- Once every named Set node has been told of, a full pass would have done the same for the
variables that the graph defines. -/
theorem agreeOnBound_sweep (hk : g.Keyed) (hu : g.Unchained) (s : Session)
    {events : List (Event × Instant)} (h : ∀ e ∈ events, e.1.Refeeds g)
    (hall : ∀ id name, g.defines? id = some name → id ∈ relinked events) :
    AgreeOnBound g (s.handleAll g events) (s.sweep g) := by
  have houtput {a b : Graph} {j : NodeId} (hn : a.node? j = b.node? j) :
      a.output? (valuePort j) = b.output? (valuePort j) :=
    congrArg (fun n? : Option Node => n?.bind (·.output? Node.valueSlot)) hn
  have hcovered (name) (hb : g.binds name) :
      ∃ id ∈ relinked events, g.defines? id = some name := by
    obtain ⟨id, hd⟩ := Graph.binds_iff.1 hb
    exact ⟨id, hall id name hd, hd⟩
  -- a node that is concerned shows its own type after the events and after a pass
  have hshown (j : NodeId) (hmem : ∃ id ∈ relinked events, ∃ name, g.defines? id = some name ∧
      (j = id ∨ g.reads? j = some name)) (hown : (g.ownType? j).isSome) :
      (s.handleAll g events).2.node? j = (s.sweep g).2.node? j := by
    rw [node?_handleAll hu s h, if_pos ((Graph.mem_map_updates _ _).2 hmem)]
    exact (Graph.lastOn_written hk s.cache hown) ▸ (Graph.node?_pass ..).symm
  constructor
  case sets =>
    intro id n hn hs
    apply houtput
    cases hd : g.defines? id with
    | some name =>
      exact hshown id ⟨id, hall id name hd, name, hd, .inl rfl⟩ (by simp [Graph.ownType?, hd])
    | none =>
      have hr : g.reads? id = none := by
        simp [Graph.reads?, hn, Node.reads?, n.isGet_eq_false_of_isSet hs]
      have hown : g.ownType? id = none := by simp [Graph.ownType?, hd, hr]
      have hunnamed : n.variableName? = none := by
        simpa [Graph.defines?, hn, Node.defines?, hs] using hd
      have hpass : (s.sweep g).2.node? id = g.node? id := by
        apply (Graph.ownIds_of_keyed hk).node?_pass_of_other
        intro m hm _
        rwa [← Option.some.inj (hn.symm.trans hm)]
      rw [node?_handleAll hu s h, hown, ite_self, hpass]
      exact Option.map_id' ..
  case cached =>
    intro name hb
    rw [get?_handleAll hu s h, if_pos (hcovered name hb)]
    exact (Graph.get?_recorded_of_binds s.cache hb).2.symm
  case gets =>
    intro id name hr hb
    apply houtput
    obtain ⟨k, hk, hd⟩ := hcovered name hb
    apply hshown id ⟨k, hk, name, hd, .inr hr⟩
    simp [Graph.ownType?, Graph.defines?_eq_none_of_reads? hr, hr,
      Graph.variableType?_of_defines? hd]

/-- Link events of named Set nodes have the same effect in any order and however often they come;
with an event for each of these nodes the effect is that of a full pass. -/
theorem linkEvents_anyOrder (hk : g.Keyed) (hu : g.Unchained) (s : Session)
    {events : List (Event × Instant)} (h : ∀ e ∈ events, e.1.Refeeds g) :
    (∀ events', (∀ event, event ∈ events.map Prod.fst ↔ event ∈ events'.map Prod.fst) →
      Alike (s.handleAll g events) (s.handleAll g events')) ∧
    ((∀ id name, g.defines? id = some name → id ∈ relinked events) →
      AgreeOnBound g (s.handleAll g events) (s.sweep g)) :=
  ⟨fun _ hsame => alike_of_sameEvents hu s h hsame, agreeOnBound_sweep hk hu s h⟩

/-- Two Set nodes of one variable, of which a loader feeds the second. -/
def siblings : Graph :=
  let loader := Node.new 0 "LoadImage" |>.addOutput "IMAGE" ⟨"IMAGE"⟩
  let nodes := [loader, .setGlobal 0 "image", .setGlobal 0 "image", .getGlobal 0 "image",
    .getGlobal 0 "lost"]
  (nodes.foldl (fun g n => (Graph.addNode g n).2) {}).attach ⟨0, 0⟩ ⟨2, 0⟩

/-- The event of the Set node that is not fed comes last, or first and twice. -/
theorem linkEvents_siblings :
    let unlinked (now : Instant) : Event × Instant := (.connectionsChanged 1 .input 0 false, now)
    let linked (now : Instant) : Event × Instant := (.connectionsChanged 2 .input 0 true, now)
    let events := [linked 5, unlinked 7]
    let events' := [unlinked 1, linked 0, unlinked 3]
    siblings.Keyed ∧ siblings.Unchained ∧ (∀ e ∈ events, e.1.Refeeds siblings) ∧
    Alike (standard.handleAll siblings events) (standard.handleAll siblings events') ∧
    AgreeOnBound siblings (standard.handleAll siblings events) (standard.sweep siblings) ∧
    ((standard.handleAll siblings events).2.output? ⟨3, 0⟩).map Slot.type = some ⟨"IMAGE"⟩ := by
  intro unlinked linked events events'
  have hk : siblings.Keyed := by decide
  have hu : siblings.Unchained := by decide
  have he : ∀ e ∈ events, e.1.Refeeds siblings := by decide
  have hsame (event : Event) : event ∈ events.map Prod.fst ↔ event ∈ events'.map Prod.fst := by
    simp [events, events', linked, unlinked, or_comm]
  have hall (id : NodeId) (name : String) (hd : siblings.defines? id = some name) :
      id ∈ relinked events := by
    have hkeys : siblings.nodes.keys.filter (fun id => (siblings.defines? id).isSome) = [1, 2] := by
      decide
    obtain ⟨n, hn, -⟩ := Graph.node?_of_defines? hd
    have hid : id ∈ [1, 2] :=
      hkeys ▸ List.mem_filter.2 ⟨Graph.mem_keys_of_node? hn, by rw [hd, Option.isSome_some]⟩
    simpa [relinked, events, linked, unlinked, Event.relinked?, or_comm] using hid
  obtain ⟨horder, hpass⟩ := linkEvents_anyOrder hk hu standard he
  exact ⟨hk, hu, he, horder events' hsame, hpass hall, by decide⟩

end Session

end NodeVariables
