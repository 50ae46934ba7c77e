import NodeVariables.Proofs.Duplicates
import NodeVariables.Proofs.Purging
import NodeVariables.Proofs.Removal
import NodeVariables.Proofs.Upkeep
/-!
One of several Set nodes departs: it is given another name or removed. The session brings the new
name up to date and keeps what it knows of the old one. That stays right unless the node decided the
type of the variable or fed another Set node of it, and the next full pass sets it right.
-/
namespace NodeVariables

open NodeVariables.Graph (valuePort SameOff)

/-- A Set node gives up its variable: the graph that is left and the event that the editor sends. -/
inductive Departure (g : Graph) (id : NodeId) (name : String) : Graph → Event → Prop where
  | renamed {new : String} (other : new ≠ name) :
    Departure g id name (g.setWidget id Node.variableWidget new) (.renamed id name)
  | removed {n : Node} (returned : (g.removeNode id).1 = some n) :
    Departure g id name (g.removeNode id).2 (.nodeRemoved n)

/-- An output of the node feeds another node, which is a Set node of the variable. -/
def Graph.Feeds (g : Graph) (id : NodeId) (name : String) : Prop :=
  ∃ j, j ≠ id ∧ g.defines? j = some name ∧ ∃ p ∈ g.feeders j, p.node = id

theorem Graph.Touched.look?_eq {g g' : Graph} {palette : Palette} (h : g.Touched palette g')
    {p : Port} (hp : ¬g.IsVariableOutput p) : g'.look? p = g.look? p := by
  rcases h.nodes p.node with hsame | ⟨n, type, hn, hglobal, hshown⟩
  · rw [look?, look?, output?, output?, hsame]
  · have hslot : p.slot ≠ Node.valueSlot := fun hslot => hp ⟨hslot, n, hn, hglobal⟩
    rw [look?, look?, output?, output?, hshown, hn, Option.bind_some, Option.bind_some,
      Node.output?_modifyOutput, if_neg hslot]

/-- The first widget with a name is the one that is found. -/
theorem Node.value_setFirst (name value : String) (ws : List Widget) :
    ((setFirst name value ws).find? (·.name = name)).map Widget.value =
      (ws.find? (·.name = name)).map fun _ => value := by
  induction ws with
  | nil => rfl
  | cons w rest ih => by_cases h : w.name = name <;> simp [setFirst, h, ih]

theorem Node.variableName?_setWidget_ne {n : Node} {new name : String} (h : new ≠ name) :
    (n.setWidget variableWidget new).variableName? ≠ some name := by
  have hvalue := value_setFirst variableWidget new n.widgets
  unfold variableName? widget?
  rw [setWidget, hvalue]
  cases n.widgets.find? (·.name = variableWidget) with
  | none => simp
  | some w => simp [Option.filter_eq_some_iff, h]

namespace Departure

variable {g g' : Graph} {id j : NodeId} {name : String} {event : Event}
  (h : Departure g id name g' event)

include h

theorem releases (hd : g.defines? id = some name) : event.Releases g' name := by
  cases h with
  | renamed other =>
    obtain ⟨n, hn, hs, -⟩ := Graph.node?_of_defines? hd
    exact .renamed (Session.node?_setWidget hn ..) hs
  | removed returned =>
    exact .removed ((Node.isSetOf_iff _).2 ((Graph.defines?_returned returned).trans hd))

theorem sameOff (hc : g.Consistent) : SameOff id g g' := by
  cases h with
  | renamed other => exact g.sameOff_setWidget id ..
  | removed returned => exact hc.sameOff_removeNode id

theorem keyed (hk : g.Keyed) : g'.Keyed := by
  cases h with
  | renamed other => exact Graph.keyed_modifyNode hk id fun _ => rfl
  | removed returned => exact Graph.keyed_removeNode hk id

theorem defines?_ne : g'.defines? id ≠ some name := by
  cases h with
  | renamed other =>
    intro hd
    obtain ⟨n, hn, -, hv⟩ := Graph.node?_of_defines? hd
    rw [Graph.setWidget, Graph.node?_modifyNode, if_pos rfl] at hn
    obtain ⟨m, -, rfl⟩ := Option.map_eq_some_iff.1 hn
    exact Node.variableName?_setWidget_ne other hv
  | removed returned => simp [Graph.defines?, Graph.node?_removeNode_self]

theorem reads?_eq_none (hd : g.defines? id = some name) : g'.reads? id = none := by
  cases h with
  | @renamed new other =>
    obtain ⟨n, hn, hs, -⟩ := Graph.node?_of_defines? hd
    have hs' : (n.setWidget Node.variableWidget new).isSet := hs
    simp [Graph.reads?, Session.node?_setWidget hn, Node.reads?, Node.isGet_eq_false_of_isSet _ hs']
  | removed returned => simp [Graph.reads?, Graph.node?_removeNode_self]

theorem renamed?_eq : event.renamed? = some id ∨ event.renamed? = none := by
  cases h with
  | renamed other => exact .inl rfl
  | removed returned => exact .inr rfl

theorem newName?_ne : event.newName? g' ≠ some name := by
  intro hnew
  obtain ⟨k, hk, hd⟩ := Option.bind_eq_some_iff.1 hnew
  rcases h.renamed?_eq with hid | hnone
  · obtain rfl := Option.some.inj (hid.symm.trans hk)
    exact h.defines?_ne hd
  · simp [hnone] at hk

/-- The other Set nodes of the variable are fed as before, unless a removed node fed one of them. -/
theorem sourceTypeAt_eq (hc : g.Consistent) (hfed : event.renamed? = some id ∨ ¬g.Feeds id name)
    (hj : j ≠ id) (hd : g.defines? j = some name) : g'.sourceTypeAt j = g.sourceTypeAt j := by
  cases h with
  | @renamed new other =>
    have hsame := g.sameBut_setWidget id Node.variableWidget new
    have hj' : some j ≠ some id := by simpa using hj
    have hd' : (g.setWidget id Node.variableWidget new).defines? j = some name :=
      (hsame.defines j hj').trans hd
    apply Graph.sourceTypeAt_congr (hsame.feeders j hj' (Option.isSome_of_eq_some hd'))
    intro p _
    rw [hsame.look]
  | removed returned =>
    have hunfed : ¬g.Feeds id name := hfed.resolve_left (by simp [Event.renamed?])
    apply (hc.sameOff_removeNode id).sourceTypeAt_eq hj
    intro p hp hnode
    exact hunfed ⟨j, hj, hd, p, hp, hnode⟩

/-- The departure of a node that did not decide the type of the variable does not change it. -/
theorem variableType?_eq (hc : g.Consistent) (hfed : event.renamed? = some id ∨ ¬g.Feeds id name)
    {decider : NodeId} (hdecides : g.Decides name decider) (hne : decider ≠ id) :
    g'.variableType? name = g.variableType? name := by
  have hsame := h.sameOff hc
  have hfewer (j : NodeId) (hj : g'.defines? j = some name) :
      g.defines? j = some name ∧ g'.sourceTypeAt j = g.sourceTypeAt j := by
    have hjne : j ≠ id := by
      rintro rfl
      exact h.defines?_ne hj
    have hd : g.defines? j = some name := by rwa [← hsame.defines j hjne]
    exact ⟨hd, h.sourceTypeAt_eq hc hfed hjne hd⟩
  have hdecider : g'.defines? decider = some name :=
    (hsame.defines decider hne).trans hdecides.defines?_eq
  rw [(hdecides.of_fewer hdecider hfewer).variableType?_eq, hdecides.variableType?_eq,
    (hfewer decider hdecider).2]

end Departure

namespace Session

variable {s : Session} {g g' : Graph} {id j : NodeId} {name : String} {type : TypeName}
  {event : Event}

/-- The type is recorded for the variable and shown on all of its Get nodes. -/
structure Carries (s : Session) (g : Graph) (name : String) (type : TypeName) : Prop where
  cached : s.cache.get? name = some type
  shown : ∀ id, g.reads? id = some name → g.Shows s.palette (valuePort id) type

/-- What is known and shown of the variable is what its Set nodes give it. -/
def Right (s : Session) (g : Graph) (name : String) : Prop :=
  ∃ type, g.variableType? name = some type ∧ s.Carries g name type

theorem UpToDate.right (h : s.UpToDate g) (hd : g.defines? id = some name) : s.Right g name := by
  obtain ⟨type, htype⟩ :=
    Option.isSome_iff_exists.1 (Graph.variableType?_isSome_iff.2 ⟨id, hd⟩)
  have hcached := h.cached name type htype
  refine ⟨type, htype, hcached, ?_⟩
  intro j hr
  have hshown := h.gets j name hr
  rwa [hcached, Option.getD_some] at hshown

theorem Carries.right_iff (h : s.Carries g name type) :
    s.Right g name ↔ g.variableType? name = some type := by
  constructor
  · rintro ⟨other, hother, hcarries⟩
    rw [hother, ← hcarries.cached, h.cached]
  · intro htype
    exact ⟨type, htype, h⟩

/-- Where another Set node has the old name, nothing is purged. -/
theorem handle_of_defines? (h : event.Releases g name) (hd : g.defines? j = some name)
    (s : Session) (now : Instant) : s.handle g event now = s.renew g event := by
  rw [handle_of_releases h, purge_of_not_drops]
  intro hdrops
  rw [(renewed_renew h s).drops_iff] at hdrops
  have hbinds := Graph.binds_iff.2 ⟨j, hd⟩
  simp [hdrops.2] at hbinds

section Departed

variable (hdep : Departure g id name g' event) (hd : g.defines? id = some name) (hj : j ≠ id)
  (hjd : g.defines? j = some name) (ht : g.Tidy)

include hdep hd hj hjd ht

theorem renewed_of_departure (s : Session) (now : Instant) :
    s.Renewed g' event (s.handle g' event now) := by
  have hreleases := hdep.releases hd
  have hjd' : g'.defines? j = some name :=
    ((hdep.sameOff ht.consistent).defines j hj).trans hjd
  rw [handle_of_defines? hreleases hjd' s now]
  exact renewed_renew hreleases s

theorem variableType?_handle (s : Session) (now : Instant) (name' : String) :
    (s.handle g' event now).2.variableType? name' = g'.variableType? name' := by
  have hu := (hdep.sameOff ht.consistent).unchained ht.unchained
  have hrenewed := renewed_of_departure hdep hd hj hjd ht s now
  apply hu.variableType?_eq hrenewed.bare
  intro p hp
  exact (touched_of_releases (hdep.releases hd) s now).look?_eq hp

/-- The variable that a Set node has left keeps its type. -/
theorem carries_of_departure (h : s.UpToDate g) (now : Instant)
    (htype : g.variableType? name = some type) :
    (s.handle g' event now).1.Carries (s.handle g' event now).2 name type := by
  have hrenewed := renewed_of_departure hdep hd hj hjd ht s now
  have hsame := hdep.sameOff ht.consistent
  have hcached := h.cached name type htype
  constructor
  case cached => rw [hrenewed.entries name hdep.newName?_ne, hcached]
  case shown =>
    intro k hr
    rw [Graph.reads?_of_bare_eq hrenewed.bare] at hr
    have hk : k ≠ id := by
      rintro rfl
      rw [hdep.reads?_eq_none hd] at hr
      simp at hr
    -- the update concerns the departed node and the Get nodes of its new name
    have hnode : (s.handle g' event now).2.node? k = g'.node? k := by
      apply hrenewed.nodes
      · rcases hdep.renamed?_eq with hid | hnone
        · simpa [hid] using Ne.symm hk
        · simp [hnone]
      · intro new hnew hr'
        obtain rfl := Option.some.inj (hr.symm.trans hr')
        exact hdep.newName?_ne hnew
    have hlook : (s.handle g' event now).2.look? (valuePort k) = g.look? (valuePort k) := by
      rw [← hsame.look (valuePort k) hk, Graph.look?, Graph.look?, Graph.output?, Graph.output?,
        show (valuePort k).node = k from rfl, hnode]
    have hshown := h.gets k name ((hsame.reads k hk).symm.trans hr)
    rw [hcached, Option.getD_some, ← hrenewed.session.palette_eq] at hshown
    exact hshown.congr hlook

theorem right_sweep_of_departure (s : Session) (now : Instant) :
    let next := s.handle g' event now
    (next.1.sweep next.2).1.Right (next.1.sweep next.2).2 name := by
  intro next
  have hrenewed := renewed_of_departure hdep hd hj hjd ht s now
  have hsame := hdep.sameOff ht.consistent
  have hk : next.2.Keyed :=
    Graph.keyed_of_bare_eq hrenewed.bare (hdep.keyed ht.consistent.keyed)
  have hu : next.2.Unchained := (hsame.unchained ht.unchained).of_bare_eq hrenewed.bare
  have hup := upToDate_sweep_of_unchained next.1 hk hu
  have hbound : (next.1.sweep next.2).2.defines? j = some name := by
    rw [Graph.defines?_of_bare_eq (next.1.bare_sweep hk), Graph.defines?_of_bare_eq hrenewed.bare,
      hsame.defines j hj, hjd]
  exact hup.right hbound

end Departed

/-- After one of several Set nodes has departed, its variable keeps the type that it had. That is
right exactly if the Set nodes that are left give it this type: so it is if the departed node was
not the one that decided and, being removed, fed no other of them. A full pass makes it right in any
case. -/
theorem keeps_of_departure (ht : g.Tidy) (hs : s.Settled g) (hd : g.defines? id = some name)
    (hj : j ≠ id) (hjd : g.defines? j = some name) (hdep : Departure g id name g' event)
    (now : Instant) :
    let next := s.handle g' event now
    (∃ type, g.variableType? name = some type ∧ next.1.Carries next.2 name type) ∧
    (next.1.Right next.2 name ↔ next.2.variableType? name = g.variableType? name) ∧
    (¬g.Decides name id → (event.renamed? = some id ∨ ¬g.Feeds id name) →
      next.1.Right next.2 name) ∧
    (next.1.sweep next.2).1.Right (next.1.sweep next.2).2 name := by
  intro next
  have hup : s.UpToDate g := (settled_iff ht.consistent.keyed).1 hs
  obtain ⟨type, htype⟩ :=
    Option.isSome_iff_exists.1 (Graph.variableType?_isSome_iff.2 ⟨id, hd⟩)
  have hcarries : next.1.Carries next.2 name type :=
    carries_of_departure hdep hd hj hjd ht hup now htype
  have hright : next.1.Right next.2 name ↔ next.2.variableType? name = g.variableType? name := by
    rw [hcarries.right_iff, htype]
  refine ⟨⟨type, htype, hcarries⟩, hright, ?_, right_sweep_of_departure hdep hd hj hjd ht s now⟩
  intro hundecided hfed
  rw [Graph.variableType?_eq_map_definer?] at htype
  obtain ⟨decider, hdecider, -⟩ := Option.map_eq_some_iff.1 htype
  have hdecides := Graph.decides_of_definer? hdecider
  have hne : decider ≠ id := by
    rintro rfl
    exact hundecided hdecides
  rw [hright, variableType?_handle hdep hd hj hjd ht]
  exact hdep.variableType?_eq ht.consistent hfed hdecides hne

/-- Another Set node of the variable, a loader of masks and a Get node. -/
def unlinkedRivals : Graph :=
  let maskLoader := Node.new 0 "LoadImageMask" |>.addOutput "MASK" ⟨"MASK"⟩
  let nodes := [maskLoader, .setGlobal 0 "image", .getGlobal 0 "image"]
  nodes.foldl (fun g n => (Graph.addNode g n).2) .joined

def rivals : Graph := unlinkedRivals.attach ⟨2, 0⟩ ⟨3, 0⟩

def rivalry : Session × Graph := standard.sweep rivals

theorem consistent_rivals : rivals.Consistent := by
  have hmask := Graph.Reached.addNode
    (Node.new 0 "LoadImageMask" |>.addOutput "MASK" ⟨"MASK"⟩) Graph.reached_joined
    (.inl (by decide)) (by decide)
  have hset := Graph.Reached.addNode (.setGlobal 0 "image") hmask (.inl (by decide)) (by decide)
  have hget : Graph.Reached unlinkedRivals [] :=
    .addNode (.getGlobal 0 "image") hset (.inl (by decide)) (by decide)
  have hlink : unlinkedRivals.addLink ⟨2, 0⟩ ⟨3, 0⟩ = .ok (1, rivals) := rfl
  exact (Graph.Reached.addLink _ _ hget (by decide) hlink).linked.1.consistent

theorem tidy_rivalry : rivalry.2.Tidy := by
  have hc := consistent_rivals
  exact ⟨hc.congr_bare (standard.bare_sweep hc.keyed), by decide⟩

theorem settled_rivalry : rivalry.1.Settled rivalry.2 := by
  rw [settled_iff tidy_rivalry.consistent.keyed]
  exact upToDate_sweep_of_unchained standard consistent_rivals.keyed (by decide)

/-- The Set node that did not decide is given another name. -/
theorem keeps_rivalry :
    let g := rivalry.2.setWidget 3 Node.variableWidget "mask"
    let next := rivalry.1.handle g (.renamed 3 "image") 0
    rivalry.2.Tidy ∧ rivalry.1.Settled rivalry.2 ∧ rivalry.2.defines? 3 = some "image" ∧
    rivalry.2.defines? 1 = some "image" ∧
    Departure rivalry.2 3 "image" g (.renamed 3 "image") ∧
    ¬rivalry.2.Decides "image" 3 ∧ next.1.Right next.2 "image" ∧
    next.1.cache.get? "mask" = some ⟨"MASK"⟩ := by
  intro g next
  have hd : rivalry.2.defines? 3 = some "image" := by decide
  have hd' : rivalry.2.defines? 1 = some "image" := by decide
  have hdep : Departure rivalry.2 3 "image" g (.renamed 3 "image") := .renamed (by decide)
  have hundecided : ¬rivalry.2.Decides "image" 3 := by
    intro hdecides
    have htype := hdecides.variableType?_eq
    exact absurd htype (by decide)
  obtain ⟨-, -, hright, -⟩ :=
    keeps_of_departure tidy_rivalry settled_rivalry hd (by decide) hd' hdep 0
  exact ⟨tidy_rivalry, settled_rivalry, hd, hd', hdep, hundecided, hright hundecided (.inl rfl),
    by decide⟩

/-- When the Set node that decided departs, by another name or by removal, its type stays. -/
theorem not_right_rivalry :
    let renamed := rivalry.1.handle (rivalry.2.setWidget 1 Node.variableWidget "copy")
      (.renamed 1 "image") 0
    let returned := (rivalry.2.removeNode 1).1.get (by decide)
    let removed := rivalry.1.handle (rivalry.2.removeNode 1).2 (.nodeRemoved returned) 0
    (¬∀ (s : Session) (g g' : Graph) (id j : NodeId) (name : String) (event : Event)
      (now : Instant), g.Tidy → s.Settled g → g.defines? id = some name → j ≠ id →
      g.defines? j = some name → Departure g id name g' event →
      (s.handle g' event now).1.Right (s.handle g' event now).2 name) ∧
    renamed.2.variableType? "image" = some ⟨"MASK"⟩ ∧
    renamed.1.cache.get? "image" = some ⟨"IMAGE"⟩ ∧
    removed.2.variableType? "image" = some ⟨"MASK"⟩ ∧
    removed.1.cache.get? "image" = some ⟨"IMAGE"⟩ := by
  intro renamed returned removed
  have htype : renamed.2.variableType? "image" = some ⟨"MASK"⟩ := by decide
  have hcached : renamed.1.cache.get? "image" = some ⟨"IMAGE"⟩ := by decide
  have hdep : Departure rivalry.2 1 "image"
      (rivalry.2.setWidget 1 Node.variableWidget "copy") (.renamed 1 "image") :=
    .renamed (by decide)
  refine ⟨fun hclaim => ?_, htype, hcached, by decide, by decide⟩
  obtain ⟨type, hbound, hcarries⟩ := hclaim _ _ _ 1 3 "image" _ 0 tidy_rivalry settled_rivalry
    (by decide) (by decide) (by decide) hdep
  have hsame := Eq.trans (Eq.symm hcarries.cached) hcached
  rw [htype, hsame] at hbound
  exact absurd hbound (by decide)

end Session

end NodeVariables
