import Mathlib.Logic.Relation
import NodeVariables.Proofs.EditFrame
import NodeVariables.Proofs.EditRuns
import NodeVariables.Proofs.Refresh

namespace NodeVariables

/-- The links agree with the slots, and no Set node is fed by the value output of a Set or Get
node. -/
structure Graph.Tidy (g : Graph) : Prop where
  consistent : g.Consistent
  unchained : g.Unchained

theorem Graph.Tidy.of_bare_eq {g g' : Graph} (h : g.Tidy) (hb : g'.bare = g.bare) : g'.Tidy :=
  ⟨h.consistent.congr_bare hb, h.unchained.of_bare_eq hb⟩

namespace Session

open NodeVariables.Graph (valuePort SameBut Relinked)

/-- A full pass would change no output and no recorded type. -/
structure Settled (s : Session) (g : Graph) : Prop where
  outputs : ∀ p, (s.sweep g).2.output? p = g.output? p
  types : (s.sweep g).1.cache.types = s.cache.types

/-- An edit together with the event that the editor sends for it, or something that needs no
edit. An edit keeps the graph tidy. -/
inductive Upkeep : Session × Graph → Session × Graph → Prop where
  | addLink {s : Session} {g : Graph} (origin target : Port) {result : LinkId × Graph}
      (connected : Bool) (now : Instant) (ok : g.addLink origin target = .ok result)
      (tidy : result.2.Tidy) :
      Upkeep (s, g)
        (s.handle result.2 (.connectionsChanged target.node .input target.slot connected) now)
  | removeLink {s : Session} {g : Graph} (id : LinkId) {l : Link} (connected : Bool)
      (now : Instant) (found : g.link? id = some l) (tidy : (g.removeLink id).Tidy) :
      Upkeep (s, g) (s.handle (g.removeLink id)
        (.connectionsChanged l.target.node .input l.target.slot connected) now)
  | renameGet {s : Session} {g : Graph} (id : NodeId) {n : Node} (name : String) (now : Instant)
      (found : g.node? id = some n) (get : n.isGet)
      (tidy : (g.setWidget id Node.variableWidget name).Tidy) :
      Upkeep (s, g) (s.handle (g.setWidget id Node.variableWidget name)
        (.renamed id (n.variableName?.getD "")) now)
  /-- No other Set node defines the variable of a Set node that is renamed. -/
  | renameSet {s : Session} {g : Graph} (id : NodeId) {n : Node} (name : String) (now : Instant)
      (found : g.node? id = some n) (set : n.isSet)
      (alone : ∀ j, j ≠ id → ∀ old, n.variableName? = some old → g.defines? j ≠ some old)
      (tidy : (g.setWidget id Node.variableWidget name).Tidy) :
      Upkeep (s, g) (s.handle (g.setWidget id Node.variableWidget name)
        (.renamed id (n.variableName?.getD "")) now)
  | announce {s : Session} {g : Graph} (a : Announcement) (now : Instant)
      (unbound : ¬g.binds a.variableName) : Upkeep (s, g) (s.handle g (.announced a) now)
  | execute {s : Session} {g : Graph} (now : Instant) : Upkeep (s, g) (s.handle g .executed now)
  | poll {s : Session} {g : Graph} (now : Instant) : Upkeep (s, g) (s.poll g now).2
  | refresh {s : Session} {g : Graph} (r : Request) : Upkeep (s, g) (s.refresh g r).2
  | present {s : Session} {g : Graph} {α : Type} (hooks : List Hook) (busy : Bool) (r : Request)
      (openMenu : Overrides → Graph → α × Graph) (hooks_read : ∀ hook ∈ hooks, hook.Reads)
      (menu_reads : ∀ overrides g, (openMenu overrides g).2 = g) :
      Upkeep (s, g) (present hooks busy r s g openMenu).2
  | variableType {s : Session} {g : Graph} (name : String) :
      Upkeep (s, g) ((s.variableType g name).2, g)

variable {s : Session} {g g' : Graph} {id : NodeId} {n : Node}

theorem settled_iff (hk : g.Keyed) : s.Settled g ↔ s.UpToDate g := by
  constructor
  · intro h
    have hlook (p : Port) : (s.sweep g).2.look? p = g.look? p := by
      rw [Graph.look?, h.outputs p, Graph.look?]
    have hcache (name : String) : (g.recorded s.cache).get? name = s.cache.get? name :=
      congrArg (Table.get? · name) h.types
    refine ⟨?_, ?_, ?_⟩
    · intro id name hd look hl
      have hshown := s.look?_sweep_of_defines? hk hd
      rw [hlook, hl] at hshown
      obtain ⟨-, -, hsource⟩ := Option.map_eq_some_iff.1 hshown.symm
      exact hsource.symm
    · intro id name hr look hl
      have hshown := s.look?_sweep_of_reads? hk hr
      rw [hlook, hl, hcache] at hshown
      obtain ⟨-, -, hrecorded⟩ := Option.map_eq_some_iff.1 hshown.symm
      exact hrecorded.symm
    · intro name type hv
      rw [← hcache, Graph.get?_recorded, hv, Option.some_or]
  · intro h
    obtain ⟨-, hg, ht⟩ := h.pass_eq hk
    have hg : (s.sweep g).2 = g := hg
    exact ⟨fun p => by rw [hg], ht⟩

/-- An edit leaves all up to date but the node that it concerns and the variable of that node. -/
theorem UpToDate.transfer (h : s.UpToDate g) (node? : Option NodeId) (name? : Option String)
    (hsame : SameBut node? g g')
    (hname : ∀ id, some id = node? → ∀ name, some name ≠ name? → g'.defines? id ≠ some name ∧
      (g.defines? id = some name → ¬g'.binds name)) : s.UpToDateBut g' node? name? := by
  have hsource (id : NodeId) (hid : some id ≠ node?) {name : String}
      (hd : g'.defines? id = some name) : g'.sourceTypeAt id = g.sourceTypeAt id := by
    apply Graph.sourceTypeAt_congr (hsame.feeders id hid (Option.isSome_of_eq_some hd))
    intro p _
    rw [hsame.look]
  refine ⟨?_, ?_, ?_⟩
  · intro id name hid hd
    rw [hsource id hid hd]
    rw [hsame.defines id hid] at hd
    exact (h.sets id name hd).congr (hsame.look _)
  · intro id name hid _ hr
    rw [hsame.reads id hid] at hr
    exact (h.gets id name hr).congr (hsame.look _)
  · intro name type hother hv
    have hbound : g'.binds name :=
      Graph.binds_iff.2 (Graph.variableType?_isSome_iff.1 (Option.isSome_of_eq_some hv))
    -- the Set nodes of any other variable are the same before and after the edit
    have hkept (id : NodeId) (hd : g.defines? id = some name) : some id ≠ node? := by
      intro hid
      exact (hname id hid name hother).2 hd hbound
    have hdefines (id : NodeId) : g'.defines? id = some name ↔ g.defines? id = some name := by
      constructor
      · intro hd
        have hid : some id ≠ node? := fun hid => (hname id hid name hother).1 hd
        rwa [← hsame.defines id hid]
      · intro hd
        rwa [hsame.defines id (hkept id hd)]
    rw [Graph.variableType?_congr (Graph.setNodeIds_congr hsame.keys hdefines)
      fun id hd => hsource id (hkept id hd) ((hdefines id).2 hd)] at hv
    exact h.cached name type hv

/-- The event for a change of the link of an input updates all that the change concerns. -/
theorem upToDate_connections (h : s.UpToDate g) {target : Port} (hr : Relinked target g g')
    (hu : g'.Unchained) (connected : Bool) (now : Instant) :
    let next := s.handle g' (.connectionsChanged target.node .input target.slot connected) now
    next.1.UpToDate next.2 := by
  simp only [handle]
  split
  · next hfeeds =>
    have hset : ∃ n, g'.node? target.node = some n ∧ n.isSet := by
      cases hn : g'.node? target.node with
      | none => simp [feedsSet, hn] at hfeeds
      | some n =>
        simp only [feedsSet, hn, Bool.and_eq_true] at hfeeds
        exact ⟨n, rfl, hfeeds.2.1⟩
    obtain ⟨n, hn, hs⟩ := hset
    refine upToDate_updateSet (h.transfer _ _ hr.sameBut ?_) hu hn hs
    intro id hid name hname
    obtain rfl := Option.some.inj hid
    refine ⟨Ne.symm hname, ?_⟩
    intro hd
    rw [hr.defines] at hname
    exact absurd hd.symm hname
  · next hfeeds =>
    have htrigger (hd : (g'.defines? target.node).isSome) (s : Slot)
        (hs : g'.input? target = some s) : s.name = Node.triggerInput := by
      obtain ⟨name, hd⟩ := Option.isSome_iff_exists.1 hd
      obtain ⟨n, hn, hset, -⟩ := Graph.node?_of_defines? hd
      have hinput : n.input? target.slot = some s := by simpa [Graph.input?, hn] using hs
      simpa [feedsSet, hn, hset, hinput] using hfeeds
    exact (h.transfer none none (hr.sameBut_of_trigger htrigger) (by simp)).upToDate

section Rename

variable (name : String) (now : Instant) (previous : String)

theorem node?_setWidget (hn : g.node? id = some n) (widget value : String) :
    (g.setWidget id widget value).node? id = some (n.setWidget widget value) := by
  rw [Graph.setWidget, Graph.node?_modifyNode, if_pos rfl, hn, Option.map_some]

theorem upToDate_renameGet (h : s.UpToDate g) (hn : g.node? id = some n) (hget : n.isGet)
    (hu : (g.setWidget id Node.variableWidget name).Unchained) :
    let next := s.handle (g.setWidget id Node.variableWidget name) (.renamed id previous) now
    next.1.UpToDate next.2 := by
  have hnode := node?_setWidget hn Node.variableWidget name
  have hget' : (n.setWidget Node.variableWidget name).isGet := hget
  have hdefines : g.defines? id = none := by
    simp [Graph.defines?, hn, Node.defines?, n.isSet_eq_false_of_isGet hget]
  have hdefines' : (g.setWidget id Node.variableWidget name).defines? id = none := by
    simp [Graph.defines?, hnode, Node.defines?, Node.isSet_eq_false_of_isGet _ hget']
  simp only [handle]
  rw [handleRenamed_of_isGet hnode hget']
  refine upToDate_updateGet (h.transfer _ _ (g.sameBut_setWidget id _ _) ?_) hu hnode hget'
  intro j hj other _
  obtain rfl := Option.some.inj hj
  rw [hdefines, hdefines']
  simp

/-- A Set node that alone defines its variable is given another one: nothing depends on the former
variable any more, except what is recorded. -/
theorem upToDate_renameSet (h : s.UpToDate g) (hn : g.node? id = some n) (hset : n.isSet)
    (alone : ∀ j, j ≠ id → ∀ old, n.variableName? = some old → g.defines? j ≠ some old)
    (hu : (g.setWidget id Node.variableWidget name).Unchained) :
    let next := s.handle (g.setWidget id Node.variableWidget name) (.renamed id previous) now
    next.1.UpToDate next.2 := by
  have hnode := node?_setWidget hn Node.variableWidget name
  have hset' : (n.setWidget Node.variableWidget name).isSet := hset
  have hdefines : g.defines? id = n.variableName? := by
    simp [Graph.defines?, hn, Node.defines?, hset]
  have hsame := g.sameBut_setWidget id Node.variableWidget name
  have hbut : s.UpToDateBut (g.setWidget id Node.variableWidget name) (some id)
      ((g.setWidget id Node.variableWidget name).defines? id) := by
    apply h.transfer _ _ hsame
    intro j hj other hother
    obtain rfl := Option.some.inj hj
    refine ⟨Ne.symm hother, ?_⟩
    intro hold hbound
    -- a Set node that still defines the former variable would have shared it before
    obtain ⟨k, hk⟩ := Graph.binds_iff.1 hbound
    by_cases hkj : k = j
    · exact hother (by rw [← hk, hkj])
    · rw [hsame.defines k (by simpa using hkj)] at hk
      exact alone k hkj other (by rw [← hdefines, hold]) hk
  have hupdated := upToDate_updateSet hbut hu hnode hset'
  have hb : (s.updateSet (g.setWidget id Node.variableWidget name) id).2.bare =
      (g.setWidget id Node.variableWidget name).bare := bare_updateSet (by simp [hnode, hset']) s
  simp only [handle]
  rw [handleRenamed_of_isSet hnode hset']
  exact upToDate_purge hupdated (hu.of_bare_eq hb) previous

end Rename

theorem UpToDate.of_idle (h : s.UpToDate g) {next : Session × Graph} (hi : Idle (s, g) next)
    (hp : next.1.palette = s.palette) : next.1.UpToDate next.2 := by
  have hg : next.2 = g := hi.1
  rw [hg]
  exact h.congr hp hi.2

theorem UpToDate.of_present (h : s.UpToDate g) {α : Type} {hooks : List Hook} (busy : Bool)
    (r : Request) {openMenu : Overrides → Graph → α × Graph} (hh : ∀ hook ∈ hooks, hook.Reads)
    (hm : ∀ overrides g, (openMenu overrides g).2 = g) :
    (present hooks busy r s g openMenu).2.1.UpToDate (present hooks busy r s g openMenu).2.2 := by
  obtain ⟨hi, hp⟩ := h.idle_runAll busy r hh .none
  have hshown : (present hooks busy r s g openMenu).2.2 =
      (Hook.runAll busy r hooks .none s g).2.2 := hm ..
  rw [hshown]
  exact h.of_idle hi hp

/-- One step of upkeep keeps a tidy state up to date. -/
theorem Upkeep.upToDate {x y : Session × Graph} (step : Upkeep x y) (ht : x.2.Tidy)
    (h : x.1.UpToDate x.2) : y.2.Tidy ∧ y.1.UpToDate y.2 := by
  cases step with
  | addLink origin target connected now ok tidy =>
    have hr := ht.consistent.relinked_addLink ok tidy.consistent
    refine ⟨tidy.of_bare_eq (bare_handle tidy.consistent.keyed _ _ now), ?_⟩
    exact upToDate_connections h hr tidy.unchained connected now
  | removeLink id connected now found tidy =>
    have hr := ht.consistent.relinked_removeLink found
    refine ⟨tidy.of_bare_eq (bare_handle tidy.consistent.keyed _ _ now), ?_⟩
    exact upToDate_connections h hr tidy.unchained connected now
  | renameGet id name now found get tidy =>
    refine ⟨tidy.of_bare_eq (bare_handle tidy.consistent.keyed _ _ now), ?_⟩
    exact upToDate_renameGet name now _ h found get tidy.unchained
  | renameSet id name now found set alone tidy =>
    refine ⟨tidy.of_bare_eq (bare_handle tidy.consistent.keyed _ _ now), ?_⟩
    exact upToDate_renameSet name now _ h found set alone tidy.unchained
  | announce a now unbound =>
    refine ⟨ht.of_bare_eq (bare_handle ht.consistent.keyed _ _ now), ?_⟩
    exact upToDate_handleAnnounced h ht.unchained unbound
  | execute now =>
    refine ⟨ht.of_bare_eq (bare_handle ht.consistent.keyed _ _ now), ?_⟩
    exact h.of_idle (h.idle_sweeps ht.consistent.keyed 1) (palette_sweeps 1 _ _)
  | poll now =>
    refine ⟨ht.of_bare_eq (Step.bare_eq (.poll now) ht.consistent.keyed), ?_⟩
    exact h.of_idle (h.idle_poll ht.consistent.keyed now) (palette_sweeps ..)
  | refresh r =>
    refine ⟨ht.of_bare_eq (bare_refresh ..), ?_⟩
    exact h.of_idle (h.idle_refresh r) (palette_refresh ..)
  | present hooks busy r openMenu hooks_read menu_reads =>
    refine ⟨ht.of_bare_eq (bare_present busy r hooks_read menu_reads _ _), ?_⟩
    exact h.of_present busy r hooks_read menu_reads
  | variableType name =>
    exact ⟨ht, h.congr rfl (h.types_lookup name)⟩

/-- Every run of upkeep that starts in a settled state stays settled. -/
theorem settled_of_upkeep {x : Session × Graph} (ht : g.Tidy) (hs : s.Settled g)
    (run : Relation.ReflTransGen Upkeep (s, g) x) : x.1.Settled x.2 ∧ x.2.Tidy := by
  have hrun : x.2.Tidy ∧ x.1.UpToDate x.2 := by
    induction run with
    | refl => exact ⟨ht, (settled_iff ht.consistent.keyed).1 hs⟩
    | tail _ step ih => exact step.upToDate ih.1 ih.2
  exact ⟨(settled_iff hrun.1.consistent.keyed).2 hrun.2, hrun.1⟩

def parted : Session × Graph :=
  let (s, g) := standard.sweep Graph.joined
  s.handle (g.removeLink 0) (.connectionsChanged 1 .input 0 false) 0

def renamed : Session × Graph :=
  parted.1.handle (parted.2.setWidget 1 Node.variableWidget "copy") (.renamed 1 "image") 0

theorem settled_renamed :
    (standard.sweep Graph.joined).2.Tidy ∧
    (standard.sweep Graph.joined).1.Settled (standard.sweep Graph.joined).2 ∧
    Relation.ReflTransGen Upkeep (standard.sweep Graph.joined) renamed ∧
    renamed.2.defines? 1 = some "copy" ∧ renamed.1.Settled renamed.2 := by
  have hjoined : Graph.joined.Consistent := Graph.reached_joined.linked.1.consistent
  have hk : (standard.sweep Graph.joined).2.Keyed := standard.keyed_sweep hjoined.keyed
  have ht : (standard.sweep Graph.joined).2.Tidy :=
    ⟨hjoined.congr_bare (standard.bare_sweep hjoined.keyed), by decide⟩
  have hs : (standard.sweep Graph.joined).1.Settled (standard.sweep Graph.joined).2 :=
    (settled_iff hk).2 (upToDate_sweep_of_unchained standard hjoined.keyed (by decide))
  have hfound : (standard.sweep Graph.joined).2.link? 0 = some ⟨0, ⟨0, 0⟩, ⟨1, 0⟩⟩ := by decide
  have hparted : Upkeep (standard.sweep Graph.joined) parted :=
    .removeLink 0 false 0 hfound ⟨ht.consistent.removeLink 0, by decide⟩
  have hu := (settled_iff hk).1 hs
  have ht' : parted.2.Tidy := (hparted.upToDate ht hu).1
  have hloader : parted.2.defines? 0 = none := by decide
  have halone (j : NodeId) (hj : j ≠ 1) (name : String) : parted.2.defines? j ≠ some name := by
    have hkeys : parted.2.nodes.keys = [0, 1] := by decide
    intro hd
    obtain ⟨n, hn, -, -⟩ := Graph.node?_of_defines? hd
    have hmem : j ∈ [0, 1] := hkeys ▸ Graph.mem_keys_of_node? hn
    obtain rfl : j = 0 := by simpa [hj] using hmem
    simp [hloader] at hd
  have hnode : parted.2.node? 1 = some ((parted.2.node? 1).get (by decide)) := by simp
  have hrenamed : Upkeep parted renamed :=
    Upkeep.renameSet (s := parted.1) (g := parted.2) 1 "copy" 0 hnode (by decide)
      (fun j hj old _ => halone j hj old) ⟨ht'.consistent.setWidget 1 _ _, by decide⟩
  have hrun := (Relation.ReflTransGen.single hparted).tail hrenamed
  exact ⟨ht, hs, hrun, by decide, (settled_of_upkeep ht hs hrun).1⟩

end Session

end NodeVariables
