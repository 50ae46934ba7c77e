import Mathlib.Data.List.Find
import NodeVariables.Proofs.Pass

namespace NodeVariables

/-- In ascending order, what is found first is the least of what could be found. -/
theorem le_of_find? {l : List UInt64} {p : UInt64 → Bool} {a b : UInt64}
    (hl : l.Pairwise (· < ·)) (h : l.find? p = some a) (hb : b ∈ l) (hp : p b) : a ≤ b := by
  obtain ⟨-, before, after, rfl, hbefore⟩ := List.find?_eq_some_iff_append.1 h
  rcases List.mem_append.1 hb with hb | hb
  · have hnot := hbefore b hb
    simp [hp] at hnot
  · rcases List.mem_cons.1 hb with rfl | hb
    · exact UInt64.le_refl b
    · have hrest := (List.pairwise_append.1 hl).2.1
      exact UInt64.le_of_lt ((List.pairwise_cons.1 hrest).1 b hb)

namespace Graph

variable {g : Graph} {name : String} {id : NodeId}

def LowestKey (p : NodeId → Prop) (id : NodeId) : Prop := p id ∧ ∀ j, p j → id ≤ j

/-- The Set node under a key decides the type of its variable. -/
inductive Decides (g : Graph) (name : String) (id : NodeId) : Prop where
  | concrete (lowest : LowestKey
      (fun j => g.defines? j = some name ∧ (g.sourceTypeAt j).isConcrete) id)
  | wildcard (unclear : ∀ j, g.defines? j = some name → (g.sourceTypeAt j).isWildcard)
      (lowest : LowestKey (fun j => g.defines? j = some name) id)

def definer? (g : Graph) (name : String) : Option NodeId :=
  ((g.setNodeIds name).find? fun id => (g.sourceTypeAt id).isConcrete).or (g.setNodeIds name).head?

theorem pairwise_setNodeIds (g : Graph) (name : String) :
    (g.setNodeIds name).Pairwise (· < ·) :=
  g.nodes.pairwise_keys.filter _

theorem setNodes_eq (g : Graph) (name : String) :
    g.setNodes name = (g.setNodeIds name).filterMap g.node? := by
  have hv := g.nodes.filterMap_values fun n => if n.isSetOf name then some n else none
  have hfilter : g.setNodes name =
      g.nodes.values.filterMap fun n => if n.isSetOf name then some n else none := by
    rw [setNodes, ← List.filterMap_eq_filter]
    rfl
  rw [hfilter, hv, setNodeIds, List.filterMap_filter]
  apply List.filterMap_congr
  intro id _
  have hg : g.nodes.get? id = g.node? id := rfl
  cases hn : g.node? id with
  | none => simp [hg, hn]
  | some n => simp [hg, hn, defines?, Node.isSetOf_iff]

theorem definer?_eq_none_iff : g.definer? name = none ↔ ∀ id, g.defines? id ≠ some name := by
  have hids : g.setNodeIds name = [] ↔ ∀ id, g.defines? id ≠ some name := by
    simp only [List.eq_nil_iff_forall_not_mem, mem_setNodeIds, ne_eq]
  rw [← hids, definer?, Option.or_eq_none_iff, List.head?_eq_none_iff, and_iff_right_iff_imp]
  intro hnil
  rw [hnil, List.find?_nil]

theorem decides_of_definer? (h : g.definer? name = some id) : g.Decides name id := by
  have hsorted := g.pairwise_setNodeIds name
  unfold definer? at h
  cases hfind : (g.setNodeIds name).find? fun id => (g.sourceTypeAt id).isConcrete with
  | some found =>
    obtain rfl : found = id := by simpa [hfind] using h
    have hmem := List.mem_of_find?_eq_some hfind
    have hconcrete := List.find?_some (p := fun id => (g.sourceTypeAt id).isConcrete) hfind
    refine .concrete ⟨⟨mem_setNodeIds.1 hmem, hconcrete⟩, ?_⟩
    rintro j ⟨hd, hj⟩
    exact le_of_find? hsorted hfind (mem_setNodeIds.2 hd) hj
  | none =>
    have hhead : (g.setNodeIds name).head? = some id := by simpa [hfind] using h
    obtain ⟨rest, hids⟩ := List.head?_eq_some_iff.1 hhead
    refine .wildcard ?_ ⟨mem_setNodeIds.1 (by simp [hids]), ?_⟩
    · intro j hd
      have hnot := List.find?_eq_none.1 hfind j (mem_setNodeIds.2 hd)
      simpa [TypeName.isConcrete] using hnot
    · intro j hd
      have hfirst : (g.setNodeIds name).find? (fun _ => true) = some id := by simp [hids]
      exact le_of_find? hsorted hfirst (mem_setNodeIds.2 hd) rfl

theorem Decides.defines?_eq (h : g.Decides name id) : g.defines? id = some name := by
  cases h with
  | concrete lowest => exact lowest.1.1
  | wildcard unclear lowest => exact lowest.1

theorem defines?_of_definer? (h : g.definer? name = some id) : g.defines? id = some name :=
  (decides_of_definer? h).defines?_eq

theorem definingNode?_eq (g : Graph) (name : String) :
    g.definingNode? name = (g.definer? name).bind g.node? := by
  have hnode (id : NodeId) (hid : id ∈ g.setNodeIds name) : ∃ n, g.node? id = some n := by
    obtain ⟨n, hn, -⟩ := node?_of_defines? (mem_setNodeIds.1 hid)
    exact ⟨n, hn⟩
  have hconcrete : (g.setNodeIds name).find? (fun id => (g.node? id).any fun n =>
      (g.sourceType n).isConcrete) =
      (g.setNodeIds name).find? fun id => (g.sourceTypeAt id).isConcrete := by
    apply List.find?_congr
    intro id hid
    obtain ⟨n, hn⟩ := hnode id hid
    simp [hn, sourceTypeAt]
  rw [definingNode?, definer?, setNodes_eq, List.find?_filterMap, List.head?_filterMap, hconcrete]
  cases hfind : (g.setNodeIds name).find? fun id => (g.sourceTypeAt id).isConcrete with
  | some id =>
    obtain ⟨n, hn⟩ := hnode id (List.mem_of_find?_eq_some hfind)
    simp [hn]
  | none =>
    cases hids : g.setNodeIds name with
    | nil => rfl
    | cons id rest =>
      obtain ⟨n, hn⟩ := hnode id (by simp [hids])
      simp [hn]

theorem definingNode?_eq_none_iff :
    g.definingNode? name = none ↔ ∀ id, g.defines? id ≠ some name := by
  rw [definingNode?_eq, ← definer?_eq_none_iff]
  cases hid : g.definer? name with
  | none => simp
  | some id =>
    obtain ⟨n, hn, -⟩ := node?_of_defines? (defines?_of_definer? hid)
    simp [hn]

/-- The type of a variable is the one that feeds the Set node that defines it. -/
theorem variableType?_eq_map_definer? (g : Graph) (name : String) :
    g.variableType? name = (g.definer? name).map g.sourceTypeAt := by
  rw [variableType?_eq, firstConcrete?, List.find?_map, definer?]
  have hfind : (g.setNodeIds name).find? (TypeName.isConcrete ∘ g.sourceTypeAt) =
      (g.setNodeIds name).find? fun id => (g.sourceTypeAt id).isConcrete := rfl
  rw [hfind]
  cases hids : g.setNodeIds name with
  | nil => rfl
  | cons id rest =>
    cases hc : (id :: rest).find? fun id => (g.sourceTypeAt id).isConcrete with
    | some found => rfl
    | none =>
      have hid := List.find?_eq_none.1 hc id (by simp)
      simp [sourceTypeAt_eq_wildcard (Bool.eq_false_iff.2 hid)]

theorem LowestKey.eq {p : NodeId → Prop} {j : NodeId} (h : LowestKey p id) (h' : LowestKey p j) :
    id = j :=
  UInt64.le_antisymm (h.2 j h'.1) (h'.2 id h.1)

namespace Decides

variable {g' : Graph} {j : NodeId} (h : g.Decides name id)

include h

theorem eq (h' : g.Decides name j) : id = j := by
  cases h with
  | concrete lowest =>
    cases h' with
    | concrete lowest' => exact lowest.eq lowest'
    | wildcard unclear' lowest' =>
      have hwild := unclear' id lowest.1.1
      exact absurd lowest.1.2 (by simp [TypeName.isConcrete, hwild])
  | wildcard unclear lowest =>
    cases h' with
    | concrete lowest' =>
      have hwild := unclear j lowest'.1.1
      exact absurd lowest'.1.2 (by simp [TypeName.isConcrete, hwild])
    | wildcard unclear' lowest' => exact lowest.eq lowest'

theorem variableType?_eq : g.variableType? name = some (g.sourceTypeAt id) := by
  obtain ⟨decider, hdecider⟩ : ∃ decider, g.definer? name = some decider := by
    rw [← Option.ne_none_iff_exists']
    intro hnone
    exact definer?_eq_none_iff.1 hnone id h.defines?_eq
  rw [variableType?_eq_map_definer?, hdecider, h.eq (decides_of_definer? hdecider)]
  rfl

/-- A Set node still decides where the variable has fewer Set nodes. -/
theorem of_fewer (hd : g'.defines? id = some name) (hfewer : ∀ j, g'.defines? j = some name →
    g.defines? j = some name ∧ g'.sourceTypeAt j = g.sourceTypeAt j) : g'.Decides name id := by
  have hsource := (hfewer id hd).2
  cases h with
  | concrete lowest =>
    refine .concrete ⟨⟨hd, by rw [hsource]; exact lowest.1.2⟩, ?_⟩
    rintro j ⟨hj, hconcrete⟩
    obtain ⟨hj', hsource'⟩ := hfewer j hj
    exact lowest.2 j ⟨hj', hsource' ▸ hconcrete⟩
  | wildcard unclear lowest =>
    refine .wildcard ?_ ⟨hd, ?_⟩
    · intro j hj
      obtain ⟨hj', hsource'⟩ := hfewer j hj
      rw [hsource']
      exact unclear j hj'
    · intro j hj
      exact lowest.2 j (hfewer j hj).1

end Decides

/-- The three ways to settle which of several Set nodes counts agree. A variable has no type, no
defining Set node and no entry among the types by name exactly if it has no Set node. Otherwise the
deciding Set node defines it, and its type, which a pass records, is what feeds that node. -/
theorem duplicates_agree (g : Graph) (name : String) :
    (g.variableType? name = none ↔ ∀ id, g.defines? id ≠ some name) ∧
    (g.definingNode? name = none ↔ ∀ id, g.defines? id ≠ some name) ∧
    (∀ n, g.definingNode? name = some n → g.variableType? name = some (g.sourceType n) ∧
      ∃ id, g.node? id = some n ∧ g.Decides name id) ∧
    (typesByName g.bindings).get? name = g.variableType? name ∧
    ∀ palette c, (g.pass palette c).2.1.get? name = (g.variableType? name).or (c.get? name) := by
  refine ⟨?_, definingNode?_eq_none_iff, ?_, g.get?_typesByName_bindings name, ?_⟩
  · rw [variableType?_eq_map_definer?, Option.map_eq_none_iff, definer?_eq_none_iff]
  · intro n hn
    rw [definingNode?_eq] at hn
    obtain ⟨id, hid, hnode⟩ := Option.bind_eq_some_iff.1 hn
    refine ⟨?_, id, hnode, decides_of_definer? hid⟩
    rw [variableType?_eq_map_definer?, hid, Option.map_some, sourceTypeAt, hnode]
  · intro palette c
    exact get?_recorded c g name

end Graph

end NodeVariables
