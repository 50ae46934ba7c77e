import NodeVariables.Proofs.Entries
import NodeVariables.Proofs.LinkEvents

namespace NodeVariables

open NodeVariables.Graph (valuePort)

/-- The event tells that a Set node has given up a name. -/
inductive Event.Releases (g : Graph) (name : String) : Event → Prop where
  | removed {node : Node} (bound : node.isSetOf name) : Releases g name (.nodeRemoved node)
  | renamed {id : NodeId} {n : Node} (found : g.node? id = some n) (isSet : n.isSet) :
    Releases g name (.renamed id name)

def Event.renamed? : Event → Option NodeId
  | .renamed id _ => some id
  | _ => none

def Event.newName? (g : Graph) (event : Event) : Option String := event.renamed?.bind g.defines?

namespace Graph

variable {g : Graph} {name : String} {type : TypeName} {id : NodeId}

/-- The Get nodes of the variable end up with the type, all other nodes are left alone. -/
theorem node?_propagate (palette : Palette) (name : String) (type : TypeName) (g : Graph)
    (id : NodeId) : (g.propagate palette name type).2.node? id = (g.node? id).map
      (Node.shown palette (if g.reads? id = some name then some type else none)) := by
  let types := (g.getNodeIds name).map fun id => (valuePort id, type)
  have hslots : ∀ x ∈ types, x.1.slot = Node.valueSlot := by simp [types, valuePort]
  have hlast : lastOn types (valuePort id) =
      if g.reads? id = some name then some type else none := by
    have hforall : ∀ j t, (valuePort j, t) ∈ types → some type = some t := by simp [types]
    rw [lastOn_eq_of_forall (f := fun _ => some type) hforall]
    simp [types, mem_getNodeIds, valuePort]
  rw [← hlast]
  exact node?_displayAll hslots id

theorem node?_propagate_of_not_reads (palette : Palette) (type : TypeName)
    (h : g.reads? id ≠ some name) : (g.propagate palette name type).2.node? id = g.node? id := by
  rw [node?_propagate, if_neg h]
  exact Option.map_id' ..

theorem output?_propagate_of_reads {slot : Slot} (palette : Palette) (type : TypeName)
    (h : g.reads? id = some name) (ho : g.output? (valuePort id) = some slot) :
    (g.propagate palette name type).2.output? (valuePort id) =
      some (slot.display palette type) := by
  obtain ⟨n, hn, ho⟩ := Option.bind_eq_some_iff.1 ho
  have hn : g.node? id = some n := hn
  have hshown := node?_propagate palette name type g id
  rw [if_pos h, hn, Option.map_some] at hshown
  have ho : n.output? Node.valueSlot = some slot := ho
  have hslot : (n.shown palette (some type)).output? Node.valueSlot =
      some (slot.display palette type) := by
    rw [Node.shown, Node.output?_modifyOutput, if_pos rfl, ho, Option.map_some]
  rw [output?, show (valuePort id).node = id from rfl, hshown]
  exact hslot

end Graph

namespace Session

variable {s : Session} {g : Graph} {id j : NodeId} {name other : String} {event : Event}

section Update

theorem get?_updateSet (s : Session) (h : g.defines? id ≠ some other)
    (hs : ∀ n, g.node? id = some n → n.isSet) :
    (s.updateSet g id).1.cache.get? other = s.cache.get? other := by
  unfold updateSet
  split
  · rfl
  · next n hn =>
    dsimp only
    split
    · rfl
    · next new hv =>
      have hne : other ≠ new := by
        rintro rfl
        simp [Graph.defines?, hn, Node.defines?, hs n hn, hv] at h
      exact (Cache.get?_set ..).trans (if_neg fun h => hne h.1)

theorem isSome_get?_updateSet (s : Session) (hs : ∀ n, g.node? id = some n → n.isSet)
    (h : (s.cache.get? other).isSome) : ((s.updateSet g id).1.cache.get? other).isSome := by
  have hchange : Change g (s.updateSet g id).2 other False (s.cache.get? other)
      ((s.updateSet g id).1.cache.get? other) := change_updateSet s hs other
  exact (hchange.isSome_or_purged h).resolve_right fun hpurged => hpurged.2

theorem node?_updateSet (s : Session) (hs : ∀ n, g.node? id = some n → n.isSet) (hj : j ≠ id)
    (hr : ∀ new, g.defines? id = some new → g.reads? j ≠ some new) :
    (s.updateSet g id).2.node? j = g.node? j := by
  unfold updateSet
  split
  · rfl
  · next n hn =>
    have hown : (s.display g id (g.sourceType n)).node? j = g.node? j :=
      (Graph.node?_display ..).trans (if_neg hj)
    dsimp only
    split
    · exact hown
    · next new hv =>
      have hd : g.defines? id = some new := by simp [Graph.defines?, hn, Node.defines?, hs n hn, hv]
      have hread : (s.display g id (g.sourceType n)).reads? j ≠ some new := by
        rw [Graph.reads?, hown]
        exact hr new hd
      exact (Graph.node?_propagate_of_not_reads _ _ hread).trans hown

end Update

section Purge

/-- The session forgets the variable if it has recorded a type for it. -/
def Drops (s : Session) (g : Graph) (name : String) : Prop :=
  s.settings.purgeOnSetRemoved = true ∧ g.binds name = false

theorem purge_of_drops (h : s.Drops g name) (hc : (s.cache.get? name).isSome) :
    s.purge g name =
      ({ s with cache := s.cache.forget name }, (s.propagate g name .wildcard).2) := by
  have hne : name ≠ "" := by
    rintro rfl
    have hnone : s.cache.get? "" = none := s.cache.named
    simp [hnone] at hc
  have hcontains : s.cache.contains name = true := hc
  simp [purge, h.1, h.2, hne, hcontains]

theorem purge_of_not_drops (h : s.Drops g name → s.cache.get? name = none) :
    s.purge g name = (s, g) := by
  apply purge_eq_self
  cases hon : s.settings.purgeOnSetRemoved with
  | false => exact .inl rfl
  | true =>
    cases hb : g.binds name with
    | true => exact .inr (.inl rfl)
    | false => exact .inr (.inr (h ⟨hon, hb⟩))

theorem get?_purge_of_drops (h : s.Drops g name) :
    (s.purge g name).1.cache.get? name = none := by
  cases hc : s.cache.get? name with
  | none => rw [purge_of_not_drops fun _ => hc, hc]
  | some type =>
    rw [purge_of_drops h (by rw [hc, Option.isSome_some])]
    exact (Cache.get?_forget ..).trans (if_pos rfl)

theorem get?_purge_of_ne (s : Session) (g : Graph) (h : other ≠ name) :
    (s.purge g name).1.cache.get? other = s.cache.get? other := by
  rcases get?_purge s g name other with hkept | ⟨-, heq, -⟩
  · exact hkept
  · exact absurd heq.symm h

theorem node?_purge_of_not_reads (s : Session) (h : g.reads? id ≠ some name) :
    (s.purge g name).2.node? id = g.node? id := by
  unfold purge
  split
  · exact Graph.node?_propagate_of_not_reads _ _ h
  · rfl

end Purge

section Release

/-- The update that comes before a purge: a renamed Set node and the variable whose name it has now
are brought up to date. -/
def renew (s : Session) (g : Graph) (event : Event) : Session × Graph :=
  match event.renamed? with
  | some id => s.updateSet g id
  | none => (s, g)

structure Renewed (s : Session) (g : Graph) (event : Event) (next : Session × Graph) : Prop where
  session : s.CacheOnly next.1
  bare : next.2.bare = g.bare
  entries : ∀ other, event.newName? g ≠ some other →
    next.1.cache.get? other = s.cache.get? other
  kept : ∀ other, (s.cache.get? other).isSome → (next.1.cache.get? other).isSome
  nodes : ∀ id, event.renamed? ≠ some id →
    (∀ new, event.newName? g = some new → g.reads? id ≠ some new) → next.2.node? id = g.node? id

/-- What becomes of a variable whose name a Set node has given up, and of everything else. -/
structure Released (s : Session) (g : Graph) (event : Event) (name : String)
    (next : Session × Graph) : Prop where
  forgotten : s.Drops g name → next.1.cache.get? name = none
  faded : s.Drops g name → (s.cache.get? name).isSome → ∀ id slot, g.reads? id = some name →
    g.output? (valuePort id) = some slot → next.2.output? (valuePort id) = some { slot with
      type := .wildcard
      label := "value"
      colorOn := some s.palette.wildcard
      colorOff := some s.palette.wildcard }
  kept : ¬s.Drops g name → (s.cache.get? name).isSome → (next.1.cache.get? name).isSome
  entries : ∀ other, event.newName? g ≠ some other → (other = name → ¬s.Drops g name) →
    next.1.cache.get? other = s.cache.get? other
  nodes : ∀ id, event.renamed? ≠ some id →
    (∀ new, event.newName? g = some new → g.reads? id ≠ some new) →
    (g.reads? id = some name → s.Drops g name → s.cache.get? name = none) →
    next.2.node? id = g.node? id
  touched : g.Touched s.palette next.2

theorem handle_of_releases (h : event.Releases g name) (s : Session) (now : Instant) :
    s.handle g event now = (s.renew g event).1.purge (s.renew g event).2 name := by
  cases h with
  | removed bound =>
    simp only [Node.isSetOf, Bool.and_eq_true, decide_eq_true_eq] at bound
    simp [handle, handleRemoved, bound, renew, Event.renamed?]
  | renamed found isSet => exact handleRenamed_of_isSet found isSet name

theorem renewed_renew (h : event.Releases g name) (s : Session) :
    s.Renewed g event (s.renew g event) := by
  cases h with
  | removed bound =>
    exact ⟨rfl, rfl, fun _ _ => rfl, fun _ h => h, fun _ _ _ => rfl⟩
  | @renamed id n found isSet =>
    have hs : ∀ m, g.node? id = some m → m.isSet := by
      intro m hm
      rwa [← Option.some.inj (found.symm.trans hm)]
    exact {
      session := cacheOnly_updateSet s g id
      bare := bare_updateSet hs s
      entries := fun other h => get?_updateSet s h hs
      kept := fun other h => isSome_get?_updateSet s hs h
      nodes := fun j hj hr => node?_updateSet s hs (fun heq => hj (heq ▸ rfl)) hr }

theorem Renewed.drops_iff {next : Session × Graph} (h : s.Renewed g event next) :
    next.1.Drops next.2 name ↔ s.Drops g name := by
  rw [Drops, Drops, h.session.settings_eq, Graph.binds_of_bare_eq h.bare]

/-- Where no Set node has the name any more, the new name is another one. -/
theorem newName?_ne_of_drops (h : s.Drops g name) (event : Event) :
    event.newName? g ≠ some name := by
  intro hnew
  obtain ⟨id, -, hd⟩ := Option.bind_eq_some_iff.1 hnew
  have hbinds := Graph.binds_iff.2 ⟨id, hd⟩
  simp [h.2] at hbinds

theorem touched_of_releases (h : event.Releases g name) (s : Session) (now : Instant) :
    g.Touched s.palette (s.handle g event now).2 := by
  cases h with
  | removed bound => exact (displayed_handleRemoved ..).touched
  | renamed found isSet => exact (displayed_handleRenamed ..).touched

/-- When a Set node gives up a name, a session that purges forgets the variable if no Set node has
the name any more, and its Get nodes show any type. Otherwise the variable stays known. No other
entry changes but that of the node's new name, and no slot but those of the renamed node and of the
Get nodes of the two names. -/
theorem released_of_releases (h : event.Releases g name) (s : Session) (now : Instant) :
    s.Released g event name (s.handle g event now) := by
  have hrenewed := renewed_renew h s
  have hdrops : (s.renew g event).1.Drops (s.renew g event).2 name ↔ s.Drops g name :=
    hrenewed.drops_iff
  have hreads (id) : (s.renew g event).2.reads? id = g.reads? id :=
    Graph.reads?_of_bare_eq hrenewed.bare id
  have hhandle := handle_of_releases h s now
  constructor
  case forgotten =>
    intro hd
    rw [hhandle]
    exact get?_purge_of_drops (hdrops.2 hd)
  case faded =>
    intro hd hc id slot hr ho
    have hnew := newName?_ne_of_drops hd event
    -- a Get node of the name is none of those that were brought up to date before
    have hnode : (s.renew g event).2.node? id = g.node? id := by
      apply hrenewed.nodes
      · intro hid
        cases h with
        | removed bound => simp [Event.renamed?] at hid
        | renamed found isSet =>
          obtain rfl := Option.some.inj hid
          obtain ⟨n, hn, hget, -⟩ := Graph.node?_of_reads? hr
          obtain rfl := Option.some.inj (found.symm.trans hn)
          simp [Node.isGet_eq_false_of_isSet _ isSet] at hget
      · intro new hnew' hr'
        obtain rfl := Option.some.inj (hr.symm.trans hr')
        exact hnew hnew'
    have hc' : ((s.renew g event).1.cache.get? name).isSome := by rwa [hrenewed.entries name hnew]
    have ho' : (s.renew g event).2.output? (valuePort id) = some slot := by
      rw [← ho, Graph.output?, Graph.output?, show (valuePort id).node = id from rfl, hnode]
    rw [hhandle, purge_of_drops (hdrops.2 hd) hc', ← hrenewed.session.palette_eq]
    exact Graph.output?_propagate_of_reads _ _ ((hreads id).trans hr) ho'
  case kept =>
    intro hd hc
    rw [hhandle, purge_of_not_drops fun h => absurd (hdrops.1 h) hd]
    exact hrenewed.kept name hc
  case entries =>
    intro other hother hd
    rw [hhandle, ← hrenewed.entries other hother]
    by_cases heq : other = name
    · rw [purge_of_not_drops fun h => absurd (hdrops.1 h) (hd heq)]
    · exact get?_purge_of_ne _ _ heq
  case nodes =>
    intro id hid hr hname
    rw [hhandle, ← hrenewed.nodes id hid hr]
    by_cases hread : g.reads? id = some name
    · rw [purge_of_not_drops]
      intro hd
      rw [hrenewed.entries name (newName?_ne_of_drops (hdrops.1 hd) event)]
      exact hname hread (hdrops.1 hd)
    · exact node?_purge_of_not_reads _ (by rwa [hreads id])
  case touched => exact touched_of_releases h s now

/-- The renamed Set node was the last one of its old name. -/
theorem released_moved :
    Event.Releases moved "old" (.renamed 1 "old") ∧ forgetful.Drops moved "old" ∧
    forgetful.cache.get? "old" = some ⟨"IMAGE"⟩ ∧
    forgetful.Released moved (.renamed 1 "old") "old"
      (forgetful.handle moved (.renamed 1 "old") 0) ∧
    (forgetful.handle moved (.renamed 1 "old") 0).1.cache.get? "old" = none ∧
    (forgetful.handle moved (.renamed 1 "old") 0).1.cache.get? "new" = some ⟨"IMAGE"⟩ ∧
    ((forgetful.handle moved (.renamed 1 "old") 0).2.output? (valuePort 2)).map Slot.label =
      some "value" := by
  have hreleases : Event.Releases moved "old" (.renamed 1 "old") :=
    .renamed (n := (moved.node? 1).get (by decide)) (Option.some_get _).symm (by decide)
  exact ⟨hreleases, ⟨rfl, by decide⟩, by decide, released_of_releases hreleases forgetful 0,
    by decide, by decide, by decide⟩

end Release

end Session

end NodeVariables
