import NodeVariables.Proofs.Pass
import NodeVariables.Session
/-!
States that need no refreshing. A state is up to date when every Set node shows the type that feeds
it, every Get node the recorded type of its variable, and the recorded type of every variable with a
Set node is the one that the graph defines. A full pass then changes neither the graph nor a
recorded type, and a pass that moves no type leaves such a state.
-/
namespace NodeVariables

namespace Cache

variable {c : Cache} {g : Graph}

theorem live?_empty (g : Graph) : live? g "" = none := by simp [live?, Graph.variableType?]

theorem lookup_fst (c : Cache) (g : Graph) (name : String) :
    (c.lookup g name).1 = (live? g name).getD ((c.get? name).getD .wildcard) := by
  unfold lookup
  split
  · next h =>
    subst h
    simp [live?_empty, get?, c.named]
  · cases live? g name with
    | some type => rfl
    | none => cases c.get? name <;> rfl

theorem get?_lookup (c : Cache) (g : Graph) (name n : String) :
    (c.lookup g name).2.get? n =
      if n = name then (live? g name).or (c.get? n) else c.get? n := by
  unfold lookup
  split
  · next h =>
    subst h
    simp [live?_empty]
  · next h =>
    cases live? g name with
    | some type => exact (get?_set ..).trans (by simp [h, get?])
    | none => cases hn : c.get? name <;> simp [get?]

section Cached

variable (hc : ∀ name type, g.variableType? name = some type → c.get? name = some type)

include hc

theorem live?_eq {name : String} {type : TypeName} (hl : live? g name = some type) :
    c.get? name = some type :=
  hc name type (Option.filter_eq_some_iff.1 hl).1

/-- Where the types that the graph defines are recorded, a lookup answers with what is recorded, and
with any type if nothing is. -/
theorem lookup_fst_of_cached (name : String) :
    (c.lookup g name).1 = (c.get? name).getD .wildcard := by
  rw [lookup_fst]
  cases hl : live? g name with
  | none => rfl
  | some type => simp [live?_eq hc hl]

theorem types_lookup_of_cached (name : String) : (c.lookup g name).2.types = c.types := by
  apply types_eq
  intro n
  rw [get?_lookup]
  split
  · next hn =>
    subst hn
    cases hl : live? g n with
    | none => rfl
    | some type => simp [live?_eq hc hl]
  · rfl

end Cached

end Cache

namespace Session

structure UpToDate (s : Session) (g : Graph) : Prop where
  sets : ∀ id name, g.defines? id = some name →
    g.Shows s.palette (Graph.valuePort id) (g.sourceTypeAt id)
  gets : ∀ id name, g.reads? id = some name →
    g.Shows s.palette (Graph.valuePort id) ((s.cache.get? name).getD .wildcard)
  cached : ∀ name type, g.variableType? name = some type → s.cache.get? name = some type

/-- What happened between two states changed neither the graph nor a recorded type. -/
def Idle (before after : Session × Graph) : Prop :=
  after.2 = before.2 ∧ after.1.cache.types = before.1.cache.types

variable {s s' : Session} {g : Graph}

theorem idle_refl (x : Session × Graph) : Idle x x := ⟨rfl, rfl⟩

theorem UpToDate.congr (h : s.UpToDate g) (hp : s'.palette = s.palette)
    (ht : s'.cache.types = s.cache.types) : s'.UpToDate g where
  sets := by
    rw [hp]
    exact h.sets
  gets := by
    have hget : s'.cache.get? = s.cache.get? := by
      funext name
      exact congrArg (Table.get? · name) ht
    rw [hp, hget]
    exact h.gets
  cached name type hv := (congrArg (Table.get? · name) ht).trans (h.cached name type hv)

theorem look?_sweep_of_defines? (s : Session) (hk : g.Keyed) {id : NodeId} {name : String}
    (hd : g.defines? id = some name) : (s.sweep g).2.look? (Graph.valuePort id) =
      (g.look? (Graph.valuePort id)).map fun _ => s.palette.look (g.sourceTypeAt id) :=
  Graph.look?_pass_of_defines? hk hd

theorem look?_sweep_of_reads? (s : Session) (hk : g.Keyed) {id : NodeId} {name : String}
    (hr : g.reads? id = some name) : (s.sweep g).2.look? (Graph.valuePort id) =
      (g.look? (Graph.valuePort id)).map fun _ =>
        s.palette.look (((g.recorded s.cache).get? name).getD .wildcard) :=
  Graph.look?_pass_of_reads? hk hr

theorem look?_sweep_of_other (s : Session) (hk : g.Keyed) {p : Port} (hp : p.slot =
    Node.valueSlot → g.defines? p.node = none ∧ g.reads? p.node = none) :
    (s.sweep g).2.look? p = g.look? p :=
  Graph.look?_pass_of_other hk hp

theorem bare_sweep (s : Session) (hk : g.Keyed) : (s.sweep g).2.bare = g.bare :=
  Graph.bare_pass hk

theorem sweeps_eq (n : Nat) (s : Session) (g : Graph) :
    sweeps (n + 1) s g = sweeps n (s.sweep g).1 (s.sweep g).2 := rfl

/-- A pass after which every Set node is fed the type it was fed before leaves an up-to-date
state. -/
theorem upToDate_sweep (hk : g.Keyed) (hs : ∀ id name, g.defines? id = some name →
    (s.sweep g).2.sourceTypeAt id = g.sourceTypeAt id) :
    (s.sweep g).1.UpToDate (s.sweep g).2 := by
  have hb := s.bare_sweep hk
  refine ⟨fun id name h => ?_, fun id name h => ?_, fun name type h => ?_⟩
  · rw [Graph.defines?_of_bare_eq hb] at h
    rw [hs id name h]
    intro look hlook
    have hl := s.look?_sweep_of_defines? hk h
    obtain ⟨-, -, rfl⟩ := Option.map_eq_some_iff.1 (hl.symm.trans hlook)
    rfl
  · rw [Graph.reads?_of_bare_eq hb] at h
    intro look hlook
    have hl := s.look?_sweep_of_reads? hk h
    obtain ⟨-, -, rfl⟩ := Option.map_eq_some_iff.1 (hl.symm.trans hlook)
    rfl
  · have hv : (s.sweep g).2.variableType? name = g.variableType? name :=
      Graph.variableType?_congr (Graph.setNodeIds_of_bare_eq hb name) fun id => hs id name
    rw [hv] at h
    exact (Graph.get?_recorded s.cache g name).trans (by rw [h, Option.some_or])

namespace UpToDate

variable (h : s.UpToDate g)

include h

theorem types_recorded : (g.recorded s.cache).types = s.cache.types := by
  apply Cache.types_eq
  intro name
  rw [Graph.get?_recorded]
  cases hv : g.variableType? name with
  | none => rfl
  | some type => simp [h.cached name type hv]

/-- A pass over an up-to-date state changes nothing that is seen or recorded. -/
theorem pass_eq (hk : g.Keyed) :
    (s.pass g).1.slotsChanged = 0 ∧ Idle (s, g) (s.sweep g) := by
  have hget : (g.recorded s.cache).get? = s.cache.get? := by
    funext name
    exact congrArg (Table.get? · name) h.types_recorded
  have hsets : g.displayAll s.palette g.setTypes = (0, g) := by
    apply Graph.displayAll_of_shows
    rintro ⟨p, type⟩ hx
    obtain ⟨id, name, rfl, hd, rfl⟩ := (Graph.mem_setTypes hk).1 hx
    exact h.sets id name hd
  have hgets : g.displayAll s.palette (g.getTypes (g.recorded s.cache)) = (0, g) := by
    apply Graph.displayAll_of_shows
    rintro ⟨p, type⟩ hx
    obtain ⟨id, name, rfl, hr, rfl⟩ := (Graph.mem_getTypes hk).1 hx
    rw [hget]
    exact h.gets id name hr
  have hp := Graph.pass_eq s.palette s.cache g
  simp only [hsets, hgets] at hp
  have hg : (s.sweep g).2 = g := congrArg (·.2.2) hp
  have hc : (s.sweep g).1.cache = g.recorded s.cache := congrArg (·.2.1) hp
  exact ⟨congrArg (·.1.slotsChanged) hp, hg, hc ▸ h.types_recorded⟩

theorem idle_sweeps (hk : g.Keyed) (n : Nat) : Idle (s, g) (sweeps n s g) := by
  induction n generalizing s with
  | zero => exact idle_refl _
  | succ n ih =>
    obtain ⟨-, hidle⟩ := h.pass_eq hk
    have hg : (s.sweep g).2 = g := hidle.1
    have hn : (s.sweep g).1.UpToDate g := h.congr rfl hidle.2
    have hrest := ih hn
    rw [sweeps_eq, hg]
    exact ⟨hrest.1, hrest.2.trans hidle.2⟩

theorem lookup_fst (name : String) :
    (s.cache.lookup g name).1 = (s.cache.get? name).getD .wildcard :=
  Cache.lookup_fst_of_cached h.cached name

theorem types_lookup (name : String) : (s.cache.lookup g name).2.types = s.cache.types :=
  Cache.types_lookup_of_cached h.cached name

end UpToDate

end Session

end NodeVariables
