import NodeVariables.Graph.Edit
import NodeVariables.Proofs.Frame

namespace NodeVariables.Session

open NodeVariables.Graph (valuePort)

/-- A state in which every way to refresh a Set or Get node leaves the graph and the recorded types
as they are, and finds the types that are recorded and shown. -/
structure Steady (s : Session) (g : Graph) : Prop where
  pass : Idle (s, g) (s.pass g).2
  executed : ∀ now, Idle (s, g) (s.handle g .executed now)
  poll : ∀ now, Idle (s, g) (s.poll g now).2
  refresh : ∀ r, Idle (s, g) (s.refresh g r).2
  variableType : ∀ name, Idle (s, g) ((s.variableType g name).2, g)
  connections : ∀ id slot connected now, (g.defines? id).isSome →
    Idle (s, g) (s.handle g (.connectionsChanged id .input slot connected) now)
  renamed : ∀ id previous now, ((g.defines? id).isSome ∨ (g.reads? id).isSome) →
    (s.settings.purgeOnSetRemoved = false ∨ g.binds previous ∨ s.cache.get? previous = none) →
    Idle (s, g) (s.handle g (.renamed id previous) now)
  type_eq : ∀ name, (s.variableType g name).1 = (s.cache.get? name).getD .wildcard
  filter_eq : ∀ id slot, ((g.defines? id).isSome ∨ (g.reads? id).isSome) →
    g.output? (valuePort id) = some slot →
    (s.refresh g ⟨id, .searchBox Node.valueSlot⟩).1.typeFilter = some slot.type

namespace UpToDate

variable {s : Session} {g : Graph} {id : NodeId} {name : String}

theorem idle_poll (h : s.UpToDate g) (hk : g.Keyed) (now : Instant) :
    Idle (s, g) (s.poll g now).2 := by
  have hs : { s with timer := (s.timer.due now).2 }.UpToDate g := h.congr rfl rfl
  exact hs.idle_sweeps hk _

/-- Recording the recorded type of a variable once more shows nothing new. -/
theorem idle_record (h : s.UpToDate g) {type : TypeName} (hc : s.cache.get? name = some type) :
    Idle (s, g) (s.record g name type) := by
  have hg : (g.propagate s.palette name type).2 = g := by
    refine congrArg Prod.snd (Graph.displayAll_of_shows fun x hx => ?_)
    obtain ⟨id, hid, rfl⟩ := List.mem_map.1 hx
    simpa [hc] using h.gets id name (Graph.mem_getNodeIds.1 hid)
  refine ⟨hg, Cache.types_eq fun n => ?_⟩
  show (s.cache.set name type).get? n = s.cache.get? n
  rw [Cache.get?_set]
  split
  · next hn => rw [hn.1, hc]
  · rfl

theorem display_source (h : s.UpToDate g) (hd : g.defines? id = some name) :
    s.display g id (g.sourceTypeAt id) = g :=
  congrArg Prod.snd (Graph.display_of_shows (h.sets id name hd))

theorem display_recorded (h : s.UpToDate g) (hr : g.reads? id = some name) :
    s.display g id ((s.cache.get? name).getD .wildcard) = g :=
  congrArg Prod.snd (Graph.display_of_shows (h.gets id name hr))

theorem idle_updateSet (h : s.UpToDate g) (hd : g.defines? id = some name) :
    Idle (s, g) (s.updateSet g id) := by
  obtain ⟨n, hn, -, hv⟩ := Graph.node?_of_defines? hd
  have hown : s.display g id (g.sourceType n) = g := by
    simpa [Graph.sourceTypeAt, hn] using h.display_source hd
  obtain ⟨type, htype⟩ := Option.isSome_iff_exists.1
    (Graph.variableType?_isSome_iff.2 ⟨id, hd⟩)
  simp only [updateSet, hn, hown, hv, htype, Option.getD_some]
  exact h.idle_record (h.cached name type htype)

theorem idle_updateGet (h : s.UpToDate g) (hr : g.reads? id = some name) :
    Idle (s, g) (s.updateGet g id) := by
  obtain ⟨n, hn, -, hv⟩ := Graph.node?_of_reads? hr
  simp only [updateGet, hn, Option.bind_some, hv, Session.variableType, h.lookup_fst]
  exact ⟨h.display_recorded hr, h.types_lookup name⟩

end UpToDate

section Specs

variable {s : Session} {g : Graph} {id : NodeId} {name : String}

theorem purge_eq_self {previous : String} (hp : s.settings.purgeOnSetRemoved = false ∨
    g.binds previous ∨ s.cache.get? previous = none) : s.purge g previous = (s, g) := by
  unfold purge
  rcases hp with hoff | hbound | hnone
  · simp [hoff]
  · simp [hbound]
  · simp only [Cache.get?] at hnone
    simp [Cache.contains, Table.contains, hnone]

theorem handleRenamed_of_isSet {n : Node} (hn : g.node? id = some n) (hs : n.isSet)
    (previous : String) : s.handleRenamed g id previous =
      (s.updateSet g id).1.purge (s.updateSet g id).2 previous := by
  simp [handleRenamed, hn, hs]

theorem handleRenamed_of_isGet {n : Node} (hn : g.node? id = some n) (hs : n.isGet)
    (previous : String) : s.handleRenamed g id previous = s.updateGet g id := by
  simp [handleRenamed, hn, n.isSet_eq_false_of_isGet hs, hs]

variable {r : Request}

theorem refresh_of_defines? (hd : g.defines? r.node = some name)
    (hslot : r.purpose.slot = Node.valueSlot) :
    s.refresh g r = (r.overrides (g.sourceTypeAt r.node), s,
      s.display g r.node (g.sourceTypeAt r.node)) := by
  obtain ⟨n, hn, hset, hv⟩ := Graph.node?_of_defines? hd
  have hf : (g.node? r.node).filter Node.isGlobal = some n :=
    Option.filter_eq_some_iff.2 ⟨hn, by simp [Node.isGlobal, hset]⟩
  simp [refresh, hf, hset, hv, hslot, currentType]

theorem refresh_of_reads? (hr : g.reads? r.node = some name)
    (hslot : r.purpose.slot = Node.valueSlot) :
    s.refresh g r = (r.overrides (s.variableType g name).1, (s.variableType g name).2,
      s.display g r.node (s.variableType g name).1) := by
  obtain ⟨n, hn, hget, hv⟩ := Graph.node?_of_reads? hr
  have hset := n.isSet_eq_false_of_isGet hget
  have hf : (g.node? r.node).filter Node.isGlobal = some n :=
    Option.filter_eq_some_iff.2 ⟨hn, by simp [Node.isGlobal, hget]⟩
  simp [refresh, hf, hset, hv, hslot, currentType, variableType, display]

theorem refresh_of_other (h : r.purpose.slot = Node.valueSlot →
    g.defines? r.node = none ∧ g.reads? r.node = none) : s.refresh g r = (.none, s, g) := by
  unfold refresh
  split
  · rfl
  · next n hn =>
    obtain ⟨hnode, hglobal⟩ := Option.filter_eq_some_iff.1 hn
    split
    · rfl
    · next name hv =>
      split
      · next hslot =>
        obtain ⟨hd, hr⟩ := h hslot
        rcases Bool.or_eq_true_iff.1 hglobal with hset | hget
        · simp [Graph.defines?, hnode, Node.defines?, hset, hv] at hd
        · simp [Graph.reads?, hnode, Node.reads?, hget, hv] at hr
      · rfl

end Specs

namespace UpToDate

variable {s : Session} {g : Graph} {id : NodeId} {name : String}

theorem idle_connections (h : s.UpToDate g) (hd : g.defines? id = some name) (slot : SlotIndex)
    (connected : Bool) (now : Instant) :
    Idle (s, g) (s.handle g (.connectionsChanged id .input slot connected) now) := by
  rw [handle]
  split
  · exact h.idle_updateSet hd
  · exact idle_refl _

theorem idle_handleRenamed (h : s.UpToDate g) {previous : String}
    (hn : (g.defines? id).isSome ∨ (g.reads? id).isSome)
    (hp : s.settings.purgeOnSetRemoved = false ∨ g.binds previous ∨
      s.cache.get? previous = none) : Idle (s, g) (s.handleRenamed g id previous) := by
  rcases hn with hd | hr
  · obtain ⟨name, hd⟩ := Option.isSome_iff_exists.1 hd
    obtain ⟨hg, ht⟩ := h.idle_updateSet hd
    have hself : (s.updateSet g id).1.purge (s.updateSet g id).2 previous =
        ((s.updateSet g id).1, (s.updateSet g id).2) := by
      apply purge_eq_self
      rw [settings_updateSet, show (s.updateSet g id).2 = g from hg,
        show (s.updateSet g id).1.cache.get? previous = s.cache.get? previous from
          congrArg (Table.get? · previous) ht]
      exact hp
    obtain ⟨n, hn, hset, -⟩ := Graph.node?_of_defines? hd
    rw [handleRenamed_of_isSet hn hset, hself]
    exact ⟨hg, ht⟩
  · obtain ⟨name, hr⟩ := Option.isSome_iff_exists.1 hr
    obtain ⟨n, hn, hget, -⟩ := Graph.node?_of_reads? hr
    rw [handleRenamed_of_isGet hn hget]
    exact h.idle_updateGet hr

theorem idle_refresh (h : s.UpToDate g) (r : Request) : Idle (s, g) (s.refresh g r).2 := by
  by_cases hslot : r.purpose.slot = Node.valueSlot
  · cases hd : g.defines? r.node with
    | some name =>
      rw [refresh_of_defines? hd hslot, h.display_source hd]
      exact idle_refl _
    | none =>
      cases hr : g.reads? r.node with
      | some name =>
        rw [refresh_of_reads? hr hslot, variableType, h.lookup_fst, h.display_recorded hr]
        exact ⟨rfl, h.types_lookup name⟩
      | none =>
        rw [refresh_of_other fun _ => ⟨hd, hr⟩]
        exact idle_refl _
  · rw [refresh_of_other fun h => absurd h hslot]
    exact idle_refl _

theorem idle_runAll (h : s.UpToDate g) (busy : Bool) (r : Request) {hooks : List Hook}
    (hr : ∀ hook ∈ hooks, hook.Reads) (asked : Overrides) :
    Idle (s, g) (Hook.runAll busy r hooks asked s g).2 ∧
      (Hook.runAll busy r hooks asked s g).2.1.palette = s.palette := by
  induction hooks generalizing asked s with
  | nil => exact ⟨idle_refl _, rfl⟩
  | cons hook rest ih =>
    have hhead : Idle (s, g) (hook.run busy r s g).2 ∧
        (hook.run busy r s g).2.1.palette = s.palette := by
      cases hook with
      | guard =>
        rw [Hook.run]
        split
        · exact ⟨idle_refl _, rfl⟩
        · exact ⟨h.idle_refresh r, palette_refresh s g r⟩
      | custom run =>
        have hrun : (run g r).2 = g := hr (.custom run) (by simp) g r
        exact ⟨⟨hrun, rfl⟩, rfl⟩
    obtain ⟨⟨hg, ht⟩, hp⟩ := hhead
    have hnext : (hook.run busy r s g).2.1.UpToDate g := h.congr hp ht
    have hrest := ih hnext (fun hook hmem => hr hook (List.mem_cons_of_mem _ hmem))
      (asked.merge (hook.run busy r s g).1)
    have hstep : (Hook.runAll busy r (hook :: rest) asked s g).2 =
        (Hook.runAll busy r rest (asked.merge (hook.run busy r s g).1)
          (hook.run busy r s g).2.1 (hook.run busy r s g).2.2).2 := rfl
    have hg' : (hook.run busy r s g).2.2 = g := hg
    rw [hstep, hg']
    exact ⟨⟨hrest.1.1, hrest.1.2.trans ht⟩, hrest.2.trans hp⟩

theorem typeFilter_refresh (h : s.UpToDate g) {slot : Slot}
    (hn : (g.defines? id).isSome ∨ (g.reads? id).isSome)
    (ho : g.output? (valuePort id) = some slot) :
    (s.refresh g ⟨id, .searchBox Node.valueSlot⟩).1.typeFilter = some slot.type := by
  have hl : g.look? (valuePort id) = some slot.look := by rw [Graph.look?, ho, Option.map_some]
  rcases hn with hd | hr
  · obtain ⟨name, hd⟩ := Option.isSome_iff_exists.1 hd
    have htype : slot.type = g.sourceTypeAt id := congrArg Look.type (h.sets id name hd _ hl)
    rw [refresh_of_defines? (r := ⟨id, .searchBox Node.valueSlot⟩) hd rfl, htype]
    rfl
  · obtain ⟨name, hr⟩ := Option.isSome_iff_exists.1 hr
    have htype : slot.type = (s.cache.get? name).getD .wildcard :=
      congrArg Look.type (h.gets id name hr _ hl)
    rw [refresh_of_reads? (r := ⟨id, .searchBox Node.valueSlot⟩) hr rfl, variableType,
      h.lookup_fst, htype]
    rfl

theorem steady (h : s.UpToDate g) (hk : g.Keyed) : s.Steady g where
  pass := (h.pass_eq hk).2
  executed _ := (h.pass_eq hk).2
  poll := h.idle_poll hk
  refresh := h.idle_refresh
  variableType name := ⟨rfl, h.types_lookup name⟩
  connections _ slot connected now hd :=
    h.idle_connections (Option.isSome_iff_exists.1 hd).choose_spec slot connected now
  renamed _ _ _ := h.idle_handleRenamed
  type_eq := h.lookup_fst
  filter_eq _ _ := h.typeFilter_refresh

end UpToDate

/-- A loader feeds one Set node; the Set node of a second variable is not fed yet, and the one of a
third variable by a node that is not there. -/
def loose : Graph :=
  let loader := Node.new 0 "LoadImage" |>.addOutput "IMAGE" ⟨"IMAGE"⟩
  let nodes := [loader, .setGlobal 0 "image", .getGlobal 0 "image", .setGlobal 0 "copy",
    .getGlobal 0 "copy", .setGlobal 0 "lost"]
  let placed := nodes.foldl (fun g n => (Graph.addNode g n).2) {}
  (placed.attach ⟨0, 0⟩ ⟨1, 0⟩).attach ⟨9, 0⟩ ⟨5, 0⟩

/-- The Get node of the first variable feeds the Set node of the second one. -/
def chained : Graph := loose.attach ⟨2, 0⟩ ⟨3, 0⟩

/-- Once a pass changes no slot, all other ways to refresh change nothing either. -/
theorem steady_sweep_of_unchanged (s : Session) (g : Graph) (hk : g.Keyed)
    (h : (s.pass g).1.slotsChanged = 0) : (s.sweep g).1.Steady (s.sweep g).2 := by
  have hb : (s.sweep g).2.bare = g.bare := Graph.bare_pass hk
  have hk' : (s.sweep g).2.Keyed := s.keyed_sweep hk
  refine (upToDate_sweep hk fun id name _ => ?_).steady hk'
  apply Graph.sourceTypeAt_congr (Graph.feeders_of_bare_eq hb id)
  intro p _
  exact Graph.type_pass_of_unchanged h p

theorem steady_chained :
    (sweeps 2 standard chained).2.Keyed ∧
    ((sweeps 2 standard chained).1.pass (sweeps 2 standard chained).2).1.slotsChanged = 0 ∧
    ((sweeps 2 standard chained).1.sweep (sweeps 2 standard chained).2).1.Steady
      ((sweeps 2 standard chained).1.sweep (sweeps 2 standard chained).2).2 := by
  have hk : (sweeps 2 standard chained).2.Keyed := by decide
  have hu : ((sweeps 2 standard chained).1.pass (sweeps 2 standard chained).2).1.slotsChanged =
      0 := by decide
  exact ⟨hk, hu, steady_sweep_of_unchanged _ _ hk hu⟩

end NodeVariables.Session
