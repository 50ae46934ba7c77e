import NodeVariables.Proofs.Frame

namespace NodeVariables

namespace Graph

/-- A value output of a Set or Get node, whether or not the node has a variable. -/
def IsVariableOutput (g : Graph) (p : Port) : Prop :=
  p.slot = Node.valueSlot ∧ ∃ n, g.node? p.node = some n ∧ n.isGlobal

/-- No Set node is fed by the value output of a Set or Get node. -/
def Unchained (g : Graph) : Prop :=
  ∀ id n, g.node? id = some n → n.isSet → ∀ p ∈ g.feeders id, ¬g.IsVariableOutput p

instance (g : Graph) (p : Port) : Decidable (g.IsVariableOutput p) :=
  decidable_of_iff (p.slot = Node.valueSlot ∧ (g.node? p.node).any Node.isGlobal)
    (by cases h : g.node? p.node <;> simp [IsVariableOutput, h])

instance (g : Graph) : Decidable g.Unchained :=
  decidable_of_iff
    (∀ e ∈ g.nodes.entries, e.2.isSet → ∀ p ∈ g.feeders e.1, ¬g.IsVariableOutput p)
    ⟨fun h id n hn => h (id, n) (Table.get?_eq_some_iff.1 hn),
      fun h e he => h e.1 e.2 (Table.get?_eq_some_iff.2 he)⟩

variable {g g' : Graph} {id : NodeId} {name : String} {n : Node}

@[simp] theorem isVariableOutput_bare (g : Graph) (p : Port) :
    g.bare.IsVariableOutput p ↔ g.IsVariableOutput p := by
  cases h : g.node? p.node <;> simp [IsVariableOutput, h]

theorem unchained_bare (g : Graph) : g.bare.Unchained ↔ g.Unchained := by
  constructor
  · intro h id n hn hs p hp
    rw [← isVariableOutput_bare]
    apply h id n.bare
    · rw [node?_bare, hn, Option.map_some]
    · rwa [n.isSet_bare]
    · rwa [feeders_bare]
  · intro h id m hm hs p hp
    rw [node?_bare] at hm
    obtain ⟨n, hn, rfl⟩ := Option.map_eq_some_iff.1 hm
    rw [isVariableOutput_bare]
    apply h id n hn
    · rwa [← n.isSet_bare]
    · rwa [← feeders_bare]

theorem Unchained.of_bare_eq (hu : g.Unchained) (hb : g'.bare = g.bare) : g'.Unchained :=
  (view_eq Unchained (fun g => propext g.unchained_bare) hb).mpr hu

theorem isVariableOutput_valuePort (hn : g.node? id = some n) (hg : n.isGlobal) :
    g.IsVariableOutput (valuePort id) :=
  ⟨rfl, n, hn, hg⟩

theorem isVariableOutput_of_defines? {p : Port} (hslot : p.slot = Node.valueSlot)
    (hd : g.defines? p.node = some name) : g.IsVariableOutput p := by
  obtain ⟨n, hn, hset, -⟩ := node?_of_defines? hd
  exact ⟨hslot, n, hn, by simp [Node.isGlobal, hset]⟩

theorem isVariableOutput_of_reads? {p : Port} (hslot : p.slot = Node.valueSlot)
    (hr : g.reads? p.node = some name) : g.IsVariableOutput p := by
  obtain ⟨n, hn, hget, -⟩ := node?_of_reads? hr
  exact ⟨hslot, n, hn, by simp [Node.isGlobal, hget]⟩

namespace Unchained

variable (hu : g.Unchained) (hb : g'.bare = g.bare)
  (hl : ∀ p, ¬g.IsVariableOutput p → g'.look? p = g.look? p)

include hu hb hl

/-- Set nodes are fed the same whatever the value outputs of Set and Get nodes show. -/
theorem sourceTypeAt_eq (hd : g.defines? id = some name) :
    g'.sourceTypeAt id = g.sourceTypeAt id := by
  obtain ⟨n, hn, hs, -⟩ := node?_of_defines? hd
  apply sourceTypeAt_congr
  · exact feeders_of_bare_eq hb id
  · intro p hp
    rw [hl p (hu id n hn hs p hp)]

theorem variableType?_eq (name : String) : g'.variableType? name = g.variableType? name := by
  apply variableType?_congr
  · exact setNodeIds_of_bare_eq hb name
  · intro id hd
    exact hu.sourceTypeAt_eq hb hl hd

end Unchained

theorem look?_propagate (palette : Palette) (name : String) (type : TypeName) (g : Graph)
    (p : Port) : (g.propagate palette name type).2.look? p =
      if p.slot = Node.valueSlot ∧ g.reads? p.node = some name then
        (g.look? p).map fun _ => palette.look type
      else g.look? p := by
  rw [propagate]
  split
  · next hp =>
    have hport : p = valuePort p.node := by rw [valuePort, ← hp.1]
    apply look?_displayAll_of_mem
    · have hports : ((g.getNodeIds name).map fun id => (valuePort id, type)).map Prod.fst =
          (g.getNodeIds name).map valuePort := by simp [Function.comp_def]
      rw [hports]
      exact List.Nodup.map valuePort_injective (g.nodup_getNodeIds name)
    · exact List.mem_map.2 ⟨p.node, mem_getNodeIds.2 hp.2, by rw [← hport]⟩
  · next hp =>
    apply look?_displayAll_of_not_mem
    intro hmem
    obtain ⟨⟨q, t⟩, hx, rfl⟩ := List.mem_map.1 hmem
    obtain ⟨id, hid, hq⟩ := List.mem_map.1 hx
    obtain ⟨rfl, rfl⟩ := Prod.mk.inj hq
    exact hp ⟨rfl, mem_getNodeIds.1 hid⟩

end Graph

namespace Session

open NodeVariables.Graph (valuePort)

/-- A state that is up to date but for what one node shows and for what is recorded of one
variable and shown on its Get nodes. -/
structure UpToDateBut (s : Session) (g : Graph) (node? : Option NodeId) (name? : Option String) :
    Prop where
  sets : ∀ id name, some id ≠ node? → g.defines? id = some name →
    g.Shows s.palette (valuePort id) (g.sourceTypeAt id)
  gets : ∀ id name, some id ≠ node? → some name ≠ name? → g.reads? id = some name →
    g.Shows s.palette (valuePort id) ((s.cache.get? name).getD .wildcard)
  cached : ∀ name type, some name ≠ name? → g.variableType? name = some type →
    s.cache.get? name = some type

variable {s s' : Session} {g : Graph} {id : NodeId} {name : String} {n : Node}
  {name? : Option String}

theorem UpToDate.but (h : s.UpToDate g) (node? : Option NodeId) (name? : Option String) :
    s.UpToDateBut g node? name? where
  sets id name _ := h.sets id name
  gets id name _ _ := h.gets id name
  cached name type _ := h.cached name type

theorem shows_display {j : NodeId} {type other : TypeName} (hself : j = id → other = type)
    (hoff : j ≠ id → g.Shows s.palette (valuePort j) other) :
    (s.display g id type).Shows s.palette (valuePort j) other := by
  have hlook := Graph.look?_display s.palette (valuePort id) type g (valuePort j)
  by_cases hj : j = id
  · intro look hl
    rw [hj, if_pos rfl] at hlook
    rw [hj] at hl
    obtain ⟨-, -, rfl⟩ := Option.map_eq_some_iff.1 (hlook.symm.trans hl)
    rw [hself hj]
  · rw [if_neg fun hp => hj (Graph.valuePort_injective hp)] at hlook
    exact (hoff hj).congr hlook

namespace UpToDateBut

theorem upToDate (h : s.UpToDateBut g none none) : s.UpToDate g where
  sets id name := h.sets id name (by simp)
  gets id name := h.gets id name (by simp) (by simp)
  cached name type := h.cached name type (by simp)

/-- Displaying on a Set node the type that feeds it, or on a Get node the recorded type of its
variable, brings the node up to date. -/
theorem display (h : s.UpToDateBut g (some id) name?) (hu : g.Unchained)
    (hn : g.node? id = some n) (hg : n.isGlobal) {type : TypeName}
    (hset : ∀ name, g.defines? id = some name → type = g.sourceTypeAt id)
    (hget : ∀ name, some name ≠ name? → g.reads? id = some name →
      type = (s.cache.get? name).getD .wildcard) :
    s.UpToDateBut (s.display g id type) none name? := by
  have hb : (s.display g id type).bare = g.bare := bare_display (by simp_all) s type
  have hl (p : Port) (hp : ¬g.IsVariableOutput p) : (s.display g id type).look? p = g.look? p := by
    refine (Graph.look?_display ..).trans (if_neg ?_)
    rintro rfl
    exact hp (Graph.isVariableOutput_valuePort hn hg)
  refine ⟨?_, ?_, ?_⟩
  · intro j name _ hd
    rw [Graph.defines?_of_bare_eq hb] at hd
    rw [hu.sourceTypeAt_eq hb hl hd]
    apply shows_display
    · rintro rfl
      exact (hset name hd).symm
    · intro hj
      exact h.sets j name (by simpa using hj) hd
  · intro j name _ hname hr
    rw [Graph.reads?_of_bare_eq hb] at hr
    apply shows_display
    · rintro rfl
      exact (hget name hname hr).symm
    · intro hj
      exact h.gets j name (by simpa using hj) hname hr
  · intro name t hname hv
    rw [hu.variableType?_eq hb hl] at hv
    exact h.cached name t hname hv

/-- A change of what is recorded for one variable, shown on its Get nodes, brings the variable up to
date. -/
theorem propagate (h : s.UpToDateBut g none (some name)) (hu : g.Unchained)
    (recorded : Option TypeName) (hp : s'.palette = s.palette)
    (hc : ∀ n, s'.cache.get? n = if n = name then recorded else s.cache.get? n)
    (hv : ∀ type, g.variableType? name = some type → recorded = some type) :
    s'.UpToDate (s.propagate g name (recorded.getD .wildcard)).2 := by
  have hb : (s.propagate g name (recorded.getD .wildcard)).2.bare = g.bare :=
    Graph.bare_propagate ..
  have hlook (p : Port) := Graph.look?_propagate s.palette name (recorded.getD .wildcard) g p
  have hl (p : Port) (hp : ¬g.IsVariableOutput p) :
      (s.propagate g name (recorded.getD .wildcard)).2.look? p = g.look? p := by
    refine (hlook p).trans (if_neg ?_)
    intro hread
    exact hp (Graph.isVariableOutput_of_reads? hread.1 hread.2)
  refine ⟨?_, ?_, ?_⟩
  · intro j m hd
    rw [Graph.defines?_of_bare_eq hb] at hd
    rw [hu.sourceTypeAt_eq hb hl hd, hp]
    -- a Set node is no Get node, so nothing is written on it
    apply (h.sets j m (by simp) hd).congr
    refine (hlook _).trans (if_neg ?_)
    rintro ⟨-, hr⟩
    have hnone : g.defines? j = none := Graph.defines?_eq_none_of_reads? hr
    simp [hnone] at hd
  · intro j m hr
    rw [Graph.reads?_of_bare_eq hb] at hr
    rw [hp, hc]
    by_cases hm : m = name
    · rw [if_pos hm]
      intro look hl
      have hj := (hlook (valuePort j)).symm.trans hl
      rw [if_pos ⟨rfl, hm ▸ hr⟩] at hj
      obtain ⟨-, -, rfl⟩ := Option.map_eq_some_iff.1 hj
      rfl
    · rw [if_neg hm]
      apply (h.gets j m (by simp) (by simpa using hm) hr).congr
      refine (hlook _).trans (if_neg ?_)
      rintro ⟨-, hr'⟩
      exact hm (Option.some.inj (hr.symm.trans hr'))
  · intro m t ht
    rw [hu.variableType?_eq hb hl] at ht
    rw [hc]
    split
    · next hm => exact hv t (hm ▸ ht)
    · next hm => exact h.cached m t (by simpa using hm) ht

theorem record (h : s.UpToDateBut g none (some name)) (hu : g.Unchained) (hname : name ≠ "")
    {type : TypeName} (hv : ∀ t, g.variableType? name = some t → type = t) :
    (s.record g name type).1.UpToDate (s.record g name type).2 := by
  have hp : (s.record g name type).1.palette = s.palette := rfl
  apply h.propagate hu (some type) hp
  · intro n
    refine (Cache.get?_set ..).trans ?_
    simp [hname]
  · intro t ht
    rw [hv t ht]

end UpToDateBut

/-- Without chains a single pass leaves an up-to-date state. -/
theorem upToDate_sweep_of_unchained (s : Session) (hk : g.Keyed) (hu : g.Unchained) :
    (s.sweep g).1.UpToDate (s.sweep g).2 := by
  apply upToDate_sweep hk
  intro id name hd
  apply hu.sourceTypeAt_eq (s.bare_sweep hk) _ hd
  intro p hp
  apply s.look?_sweep_of_other hk
  intro hslot
  rw [Option.eq_none_iff_forall_ne_some, Option.eq_none_iff_forall_ne_some]
  constructor
  · intro other hset
    exact hp (Graph.isVariableOutput_of_defines? hslot hset)
  · intro other hget
    exact hp (Graph.isVariableOutput_of_reads? hslot hget)

/-- Updating a Set node brings it and its variable up to date. -/
theorem upToDate_updateSet (h : s.UpToDateBut g (some id) (g.defines? id)) (hu : g.Unchained)
    (hn : g.node? id = some n) (hs : n.isSet) :
    (s.updateSet g id).1.UpToDate (s.updateSet g id).2 := by
  have hg : n.isGlobal := by simp [Node.isGlobal, hs]
  have hsource : g.sourceTypeAt id = g.sourceType n := by simp [Graph.sourceTypeAt, hn]
  have hshown : s.UpToDateBut (s.display g id (g.sourceType n)) none (g.defines? id) := by
    apply h.display hu hn hg
    · intro name _
      exact hsource.symm
    · intro name _ hr
      obtain ⟨m, hm, hget, -⟩ := Graph.node?_of_reads? hr
      obtain rfl : n = m := Option.some.inj (hn.symm.trans hm)
      simp [n.isSet_eq_false_of_isGet hget] at hs
  -- what the variable resolves to is the same before and after the node is displayed
  have hb : (s.display g id (g.sourceType n)).bare = g.bare := bare_display (by simp_all) s _
  have hu' := hu.of_bare_eq hb
  have hdefines : g.defines? id = n.variableName? := by
    simp [Graph.defines?, hn, Node.defines?, hs]
  rw [hdefines] at hshown
  unfold updateSet
  simp only [hn]
  cases hv : n.variableName? with
  | none =>
    rw [hv] at hshown
    exact hshown.upToDate
  | some name =>
    rw [hv] at hshown
    apply hshown.record hu' (Node.variableName?_ne_empty hv)
    intro t ht
    rw [ht, Option.getD_some]

/-- Updating a Get node brings it up to date. -/
theorem upToDate_updateGet (h : s.UpToDateBut g (some id) none) (hu : g.Unchained)
    (hn : g.node? id = some n) (hs : n.isGet) :
    (s.updateGet g id).1.UpToDate (s.updateGet g id).2 := by
  have hg : n.isGlobal := by simp [Node.isGlobal, hs]
  have hset (name : String) : g.defines? id ≠ some name := by
    simp [Graph.defines?, hn, Node.defines?, n.isSet_eq_false_of_isGet hs]
  have hreads : g.reads? id = n.variableName? := by
    simp [Graph.reads?, hn, Node.reads?, hs]
  unfold updateGet
  simp only [hn, Option.bind_some]
  cases hv : n.variableName? with
  | none =>
    apply UpToDateBut.upToDate
    apply h.display hu hn hg
    · intro name hd
      exact absurd hd (hset name)
    · intro name _ hr
      rw [hreads, hv] at hr
      simp at hr
  | some name =>
    have hc (m : String) (t : TypeName) (ht : g.variableType? m = some t) :
        s.cache.get? m = some t := h.cached m t (by simp) ht
    have hshown : s.UpToDateBut (s.display g id (s.cache.lookup g name).1) none none := by
      apply h.display hu hn hg
      · intro name hd
        exact absurd hd (hset name)
      · intro m _ hr
        rw [hreads, hv] at hr
        rw [Cache.lookup_fst_of_cached hc, Option.some.inj hr]
    exact hshown.upToDate.congr rfl (Cache.types_lookup_of_cached hc name)

theorem upToDate_purge (h : s.UpToDate g) (hu : g.Unchained) (name : String) :
    (s.purge g name).1.UpToDate (s.purge g name).2 := by
  unfold purge
  split
  · next hcond =>
    simp only [Bool.and_eq_true, Bool.not_eq_true'] at hcond
    have hp : Session.palette { s with cache := s.cache.forget name } = s.palette := rfl
    apply (h.but none (some name)).propagate hu none hp
    · intro n
      exact Cache.get?_forget ..
    · intro t ht
      have hbound := Graph.binds_iff.2 (Graph.variableType?_isSome_iff.1
        (Option.isSome_of_eq_some ht))
      simp [hbound] at hcond
  · exact h

theorem upToDate_handleAnnounced (h : s.UpToDate g) (hu : g.Unchained) {a : Announcement}
    (hb : ¬g.binds a.variableName) :
    (s.handleAnnounced g a).1.UpToDate (s.handleAnnounced g a).2 := by
  unfold handleAnnounced
  split
  · exact h
  · next hname =>
    apply (h.but none (some a.variableName)).record hu hname
    intro t ht
    have hbound := Graph.binds_iff.2 (Graph.variableType?_isSome_iff.1
      (Option.isSome_of_eq_some ht))
    exact absurd hbound hb

end Session

end NodeVariables
