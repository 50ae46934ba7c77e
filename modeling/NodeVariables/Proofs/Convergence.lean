import Mathlib.Data.List.MinMax
import NodeVariables.Proofs.Refresh
/-!
Repeated passes come to rest. A pass shows on the Get nodes what the Set nodes are fed now, but what
these Get nodes feed to further Set nodes is seen by the next pass only. So the number of passes
until nothing moves is bounded by the depth of the chains of Set nodes.
-/
namespace NodeVariables

def largest (ns : List Nat) : Nat := ns.foldr max 0

theorem map_const_of_isSome_eq {α β : Type} {o o' : Option α} (h : o.isSome = o'.isSome) (b : β) :
    (o.map fun _ => b) = o'.map fun _ => b := by
  cases o <;> cases o' <;> simp_all

namespace Graph

/-- The named Set and Get nodes whose value outputs are linked to the value inputs of a named Set
node. -/
def relays (g : Graph) (id : NodeId) : List NodeId :=
  if (g.defines? id).isSome then
    ((g.feeders id).filter fun p => p.slot = Node.valueSlot ∧ (g.look? p).isSome ∧
      ((g.defines? p.node).isSome ∨ (g.reads? p.node).isSome)).map Port.node
  else []

/-- The Set nodes that decide what a Set or Get node shows: a Set node itself, and of a Get node all
Set nodes of its variable. -/
def deciders (g : Graph) (id : NodeId) : List NodeId :=
  match g.defines? id, g.reads? id with
  | some _, _ => [id]
  | none, some name => g.setNodeIds name
  | none, none => []

def dependencies (g : Graph) (id : NodeId) : List NodeId := (g.relays id).flatMap g.deciders

def Precedes (g : Graph) (earlier later : NodeId) : Prop := earlier ∈ g.dependencies later

/-- The length of the longest chain of dependencies below a Set node. A node that only Get nodes of
unknown variables feed has depth one. -/
def depth (g : Graph) (hw : WellFounded g.Precedes) (id : NodeId) : Nat :=
  if g.relays id = [] then 0
  else 1 + largest ((g.dependencies id).attach.map fun t => g.depth hw t.1)
termination_by hw.wrap id
decreasing_by exact t.2

def maxDepth (g : Graph) (hw : WellFounded g.Precedes) : Nat :=
  largest ((g.nodes.keys.filter fun id => (g.defines? id).isSome).map (g.depth hw))

variable {g : Graph} {id : NodeId} {name : String}

theorem depth_eq (hw : WellFounded g.Precedes) (id : NodeId) : g.depth hw id =
    if g.relays id = [] then 0 else 1 + largest ((g.dependencies id).map (g.depth hw)) := by
  rw [depth, List.attach_map_val (f := g.depth hw)]

theorem depth_pos_of_mem_relays (hw : WellFounded g.Precedes) {r : NodeId} (h : r ∈ g.relays id) :
    1 ≤ g.depth hw id := by
  rw [depth_eq, if_neg (List.ne_nil_of_mem h)]
  omega

theorem depth_lt_of_precedes (hw : WellFounded g.Precedes) {t : NodeId} (h : g.Precedes t id) :
    g.depth hw t < g.depth hw id := by
  obtain ⟨r, hr, -⟩ := List.mem_flatMap.1 h
  have hle : g.depth hw t ≤ largest ((g.dependencies id).map (g.depth hw)) :=
    List.le_max_of_le' 0 (List.mem_map_of_mem h) (Nat.le_refl _)
  rw [depth_eq hw id, if_neg (List.ne_nil_of_mem hr)]
  omega

theorem depth_le_maxDepth (hw : WellFounded g.Precedes) (hd : g.defines? id = some name) :
    g.depth hw id ≤ g.maxDepth hw := by
  obtain ⟨n, hn, -, -⟩ := node?_of_defines? hd
  refine List.le_max_of_le' 0 (List.mem_map_of_mem ?_) (Nat.le_refl _)
  simp [mem_keys_of_node? hn, hd]

theorem relays_eq_nil_of_not_mem_keys (h : id ∉ g.nodes.keys) : g.relays id = [] := by
  rw [relays, if_neg]
  rintro hd
  obtain ⟨name, hd⟩ := Option.isSome_iff_exists.1 hd
  obtain ⟨n, hn, -, -⟩ := node?_of_defines? hd
  exact h (mem_keys_of_node? hn)

theorem mem_relays {p : Port} (hd : g.defines? id = some name) (hp : p ∈ g.feeders id)
    (hslot : p.slot = Node.valueSlot) (hl : (g.look? p).isSome)
    (hn : (g.defines? p.node).isSome ∨ (g.reads? p.node).isSome) : p.node ∈ g.relays id := by
  rw [relays, if_pos (by simp [hd])]
  apply List.mem_map_of_mem
  simp [hp, hslot, hl, hn]

theorem precedes_of_defines? {r : NodeId} (hr : r ∈ g.relays id) (hd : g.defines? r = some name) :
    g.Precedes r id :=
  List.mem_flatMap.2 ⟨r, hr, by simp [deciders, hd]⟩

theorem precedes_of_reads? {r t : NodeId} (hr : r ∈ g.relays id) (hd : g.reads? r = some name)
    (ht : g.defines? t = some name) : g.Precedes t id :=
  List.mem_flatMap.2 ⟨r, hr, by
    simp [deciders, hd, defines?_eq_none_of_reads? hd, mem_setNodeIds, ht]⟩

end Graph

namespace Session

open NodeVariables.Graph (valuePort)

variable {s : Session} {g : Graph}

/-- Another pass changes no slot, asks for no redraw and records nothing new. -/
def AtRest (x : Session × Graph) : Prop :=
  (x.1.pass x.2).1.slotsChanged = 0 ∧ Idle x (x.1.sweep x.2)

theorem atRest_sweep (hk : g.Keyed) (hs : ∀ id name, g.defines? id = some name →
    (s.sweep g).2.sourceTypeAt id = g.sourceTypeAt id) : AtRest (s.sweep g) :=
  (upToDate_sweep hk hs).pass_eq (s.keyed_sweep hk)

/-- What the pass after next records for a variable whose Set nodes are fed as before. -/
theorem get?_recorded_sweep {name : String}
    (h : (s.sweep g).2.variableType? name = g.variableType? name) :
    ((s.sweep g).2.recorded (s.sweep g).1.cache).get? name =
      (g.recorded s.cache).get? name := by
  rw [Graph.get?_recorded, h]
  have hc : (s.sweep g).1.cache.get? name = (g.recorded s.cache).get? name := rfl
  rw [hc, Graph.get?_recorded]
  cases g.variableType? name <;> rfl

section Keyed

variable (hk : g.Keyed)

include hk

theorem defines?_sweeps (n : Nat) (id : NodeId) : (sweeps n s g).2.defines? id = g.defines? id :=
  Graph.defines?_of_bare_eq (bare_sweeps hk n) id

theorem reads?_sweeps (n : Nat) (id : NodeId) : (sweeps n s g).2.reads? id = g.reads? id :=
  Graph.reads?_of_bare_eq (bare_sweeps hk n) id

theorem look?_isSome_sweeps (n : Nat) (p : Port) :
    ((sweeps n s g).2.look? p).isSome = (g.look? p).isSome :=
  Graph.look?_isSome_of_bare_eq (bare_sweeps hk n) p

/-- After a pass a Set node shows the type that fed it before. -/
theorem type_sweeps_of_defines? {id : NodeId} {name : String} (hd : g.defines? id = some name)
    (n : Nat) : ((sweeps (n + 1) s g).2.look? (valuePort id)).map Look.type =
      (g.look? (valuePort id)).map fun _ => (sweeps n s g).2.sourceTypeAt id := by
  have hdn : (sweeps n s g).2.defines? id = some name := (defines?_sweeps hk n id).trans hd
  rw [sweeps_succ, look?_sweep_of_defines? _ (keyed_sweeps hk n) hdn, Option.map_map]
  exact map_const_of_isSome_eq (look?_isSome_sweeps hk n _) _

/-- After a pass a Get node shows what the pass has recorded. -/
theorem type_sweeps_of_reads? {id : NodeId} {name : String} (hr : g.reads? id = some name)
    (n : Nat) : ((sweeps (n + 1) s g).2.look? (valuePort id)).map Look.type =
      (g.look? (valuePort id)).map fun _ =>
        (((sweeps n s g).2.recorded (sweeps n s g).1.cache).get? name).getD .wildcard := by
  have hrn : (sweeps n s g).2.reads? id = some name := (reads?_sweeps hk n id).trans hr
  rw [sweeps_succ, look?_sweep_of_reads? _ (keyed_sweeps hk n) hrn, Option.map_map]
  exact map_const_of_isSome_eq (look?_isSome_sweeps hk n _) _

/-- From the pass on whose number is its depth a Set node is fed the same type. -/
theorem sourceTypeAt_sweeps (hw : WellFounded g.Precedes) {id : NodeId} {name : String}
    (hd : g.defines? id = some name) {k : Nat} (hdepth : g.depth hw id ≤ k) :
    (sweeps (k + 1) s g).2.sourceTypeAt id = (sweeps k s g).2.sourceTypeAt id := by
  -- the pass number stays general: what feeds a Set node has come to rest a pass earlier
  induction id using hw.induction generalizing k name with
  | _ id ih =>
  have hbare := bare_sweeps (s := s) hk
  apply Graph.sourceTypeAt_congr
  · rw [Graph.feeders_of_bare_eq (hbare _), Graph.feeders_of_bare_eq (hbare _)]
  intro p hp
  rw [Graph.feeders_of_bare_eq (hbare _)] at hp
  by_cases hl : (g.look? p).isSome = true
  swap
  -- an output that is not there feeds nothing at any time
  · have hnone (n : Nat) : (sweeps n s g).2.look? p = none := by
      rw [← Option.not_isSome_iff_eq_none, Graph.look?_isSome_of_bare_eq (hbare n)]
      exact hl
    rw [hnone, hnone]
  by_cases hslot : p.slot = Node.valueSlot
  swap
  · rw [sweeps_succ, look?_sweep_of_other _ (keyed_sweeps hk k) fun h => absurd h hslot]
  obtain ⟨r, slot⟩ := p
  obtain rfl : slot = Node.valueSlot := hslot
  cases hset : g.defines? r with
  | some other =>
    have hr : r ∈ g.relays id := Graph.mem_relays hd hp rfl hl (.inl (by simp [hset]))
    have hprec := Graph.precedes_of_defines? hr hset
    have hlt := Graph.depth_lt_of_precedes hw hprec
    obtain ⟨j, rfl⟩ : ∃ j, k = j + 1 := ⟨k - 1, by omega⟩
    have hsource := ih r hprec hset (k := j) (by omega)
    refine (type_sweeps_of_defines? hk hset (j + 1)).trans ?_
    rw [hsource]
    exact (type_sweeps_of_defines? hk hset j).symm
  | none =>
    cases hget : g.reads? r with
    | some other =>
      have hr : r ∈ g.relays id := Graph.mem_relays hd hp rfl hl (.inr (by simp [hget]))
      have hpos := Graph.depth_pos_of_mem_relays hw hr
      obtain ⟨j, rfl⟩ : ∃ j, k = j + 1 := ⟨k - 1, by omega⟩
      -- a Get node shows its variable, so all Set nodes of the variable have to be at rest
      have hvariable : (sweeps (j + 1) s g).2.variableType? other =
          (sweeps j s g).2.variableType? other := by
        apply Graph.variableType?_congr
        · rw [Graph.setNodeIds_of_bare_eq (hbare _), Graph.setNodeIds_of_bare_eq (hbare _)]
        intro t ht
        rw [defines?_sweeps hk] at ht
        have hprec := Graph.precedes_of_reads? hr hget ht
        have hlt := Graph.depth_lt_of_precedes hw hprec
        exact ih t hprec ht (by omega)
      have hrecorded : ((sweeps (j + 1) s g).2.recorded (sweeps (j + 1) s g).1.cache).get? other =
          ((sweeps j s g).2.recorded (sweeps j s g).1.cache).get? other := by
        rw [sweeps_succ] at hvariable ⊢
        exact get?_recorded_sweep hvariable
      refine (type_sweeps_of_reads? hk hget (j + 1)).trans ?_
      rw [hrecorded]
      exact (type_sweeps_of_reads? hk hget j).symm
    | none =>
      have hother : (sweeps k s g).2.defines? r = none ∧ (sweeps k s g).2.reads? r = none :=
        ⟨(defines?_sweeps hk k r).trans hset, (reads?_sweeps hk k r).trans hget⟩
      rw [sweeps_succ, look?_sweep_of_other _ (keyed_sweeps hk k) fun _ => hother]

theorem atRest_sweeps (hw : WellFounded g.Precedes) (k : Nat) :
    AtRest (sweeps (g.maxDepth hw + 1 + k) s g) := by
  have hn : g.maxDepth hw + 1 + k = g.maxDepth hw + k + 1 := by omega
  rw [hn, sweeps_succ]
  have hkn := keyed_sweeps (s := s) hk (g.maxDepth hw + k)
  refine atRest_sweep hkn fun id name hd => ?_
  rw [defines?_sweeps hk] at hd
  have hdepth := Graph.depth_le_maxDepth hw hd
  rw [← sweeps_succ]
  exact sourceTypeAt_sweeps hk hw hd (by omega)

end Keyed

theorem wellFounded_of_relays_eq_nil (h : ∀ id, g.relays id = []) : WellFounded g.Precedes := by
  refine ⟨fun id => ⟨id, fun t ht => ?_⟩⟩
  simp [Graph.Precedes, Graph.dependencies, h id] at ht

theorem maxDepth_of_relays_eq_nil (h : ∀ id, g.relays id = []) (hw : WellFounded g.Precedes) :
    g.maxDepth hw = 0 := by
  have hz : ∀ ids : List NodeId, largest (ids.map (g.depth hw)) = 0 := by
    intro ids
    induction ids with
    | nil => rfl
    | cons id rest ih =>
      have hdepth : g.depth hw id = 0 := by rw [Graph.depth_eq, if_pos (h id)]
      have hmax : largest ((id :: rest).map (g.depth hw)) =
          max (g.depth hw id) (largest (rest.map (g.depth hw))) := rfl
      rw [hmax, hdepth, ih, Nat.max_self]
  exact hz _

/-- If no chain of Set nodes is closed, one pass more than the largest depth brings the state to
rest; without chains a single pass does. -/
theorem sweeps_converge (s : Session) (g : Graph) (hk : g.Keyed) :
    (∀ (hw : WellFounded g.Precedes) (k : Nat),
      AtRest (sweeps (g.maxDepth hw + 1 + k) s g)) ∧
    ((∀ id, g.relays id = []) → AtRest (s.sweep g)) := by
  refine ⟨atRest_sweeps hk, fun h => ?_⟩
  have hw := wellFounded_of_relays_eq_nil h
  have hrest := atRest_sweeps (s := s) hk hw 0
  rwa [maxDepth_of_relays_eq_nil h hw] at hrest

/-- Nodes that depend on earlier nodes only form no closed chain. -/
theorem wellFounded_of_lt (h : ∀ id ∈ g.nodes.keys, ∀ t ∈ g.dependencies id, t < id) :
    WellFounded g.Precedes := by
  refine Subrelation.wf (r := InvImage (· < ·) UInt64.toNat) (fun {t id} ht => ?_)
    (InvImage.wf _ Nat.lt_wfRel.wf)
  by_cases hid : id ∈ g.nodes.keys
  · exact UInt64.lt_iff_toNat_lt.1 (h id hid t ht)
  · simp [Graph.Precedes, Graph.dependencies, Graph.relays_eq_nil_of_not_mem_keys hid] at ht

theorem sweeps_converge_chained :
    chained.Keyed ∧ AtRest (sweeps 2 standard chained) ∧
    loose.Keyed ∧ (∀ id, loose.relays id = []) ∧ AtRest (standard.sweep loose) := by
  have hk : chained.Keyed := by decide
  have hw : WellFounded chained.Precedes := by
    have hkeys : chained.nodes.keys = [0, 1, 2, 3, 4, 5] := by decide
    have hdeps : chained.nodes.keys.map (fun id => chained.dependencies id) =
        [[], [], [], [1], [], []] := by decide
    rw [hkeys] at hdeps
    simp only [List.map_cons, List.cons.injEq] at hdeps
    apply wellFounded_of_lt
    rw [hkeys]
    simp [hdeps]
  have hdepth : chained.maxDepth hw = 1 := by
    have hkeys : chained.nodes.keys.filter (fun id => (chained.defines? id).isSome) =
        [1, 3, 5] := by decide
    have h1 : chained.depth hw 1 = 0 := by rw [Graph.depth_eq, if_pos (by decide)]
    have h3 : chained.depth hw 3 = 1 := by
      have hd : chained.dependencies 3 = [1] := by decide
      rw [Graph.depth_eq, if_neg (by decide), hd, List.map_singleton, h1]
      rfl
    have h5 : chained.depth hw 5 = 0 := by rw [Graph.depth_eq, if_pos (by decide)]
    rw [Graph.maxDepth, hkeys]
    simp [h1, h3, h5, largest]
  have hrest := (sweeps_converge standard chained hk).1 hw 0
  rw [hdepth] at hrest
  have hl : loose.Keyed := by decide
  have hnil : ∀ id, loose.relays id = [] := by
    intro id
    have hall : loose.nodes.keys.all (fun id => loose.relays id = []) = true := by decide
    by_cases hid : id ∈ loose.nodes.keys
    · exact of_decide_eq_true (List.all_eq_true.1 hall id hid)
    · exact Graph.relays_eq_nil_of_not_mem_keys hid
  exact ⟨hk, hrest, hl, hnil, (sweeps_converge standard loose hl).2 hnil⟩

end Session

end NodeVariables
