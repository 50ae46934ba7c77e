import Mathlib.Data.List.Nodup
import NodeVariables.Proofs.Source

namespace NodeVariables

namespace Cache

theorem get?_foldl_set (c : Cache) {l : List (String × TypeName)}
    (hl : l.Pairwise fun a b => a.1 < b.1) (hn : l.lookup "" = none) (name : String) :
    (l.foldl (fun c e => c.set e.1 e.2) c).get? name = (l.lookup name).or (c.get? name) := by
  induction l generalizing c with
  | nil => rfl
  | cons e rest ih =>
    obtain ⟨key, type⟩ := e
    obtain ⟨hlt, hrest⟩ := List.pairwise_cons.1 hl
    have hkey : key ≠ "" := by
      rintro rfl
      simp at hn
    have hnone : rest.lookup "" = none := by
      simpa [List.lookup_cons, beq_eq_false_iff_ne.2 (Ne.symm hkey)] using hn
    rw [List.foldl_cons, ih _ hrest hnone, get?_set, List.lookup_cons]
    by_cases heq : name = key
    · subst heq
      have hfresh : rest.lookup name = none := by
        rw [Option.eq_none_iff_forall_ne_some]
        intro other hother
        exact KeyOrder.irrefl name (hlt _ (Table.mem_of_lookup hother))
      simp [hfresh, hkey]
    · simp [heq, beq_eq_false_iff_ne.2 heq]

theorem get?_setAll (c : Cache) {t : Table String TypeName} (ht : t.get? "" = none)
    (name : String) : (c.setAll t).get? name = (t.get? name).or (c.get? name) :=
  get?_foldl_set c t.sorted ht name

theorem types_eq {c c' : Cache} (h : ∀ name, c'.get? name = c.get? name) : c'.types = c.types :=
  Table.ext_get? h

end Cache

theorem sublist_map_filterMap {α β : Type} {f : α → Option β} {key : β → α}
    (hf : ∀ a b, f a = some b → key b = a) (l : List α) : ((l.filterMap f).map key).Sublist l := by
  induction l with
  | nil => exact .slnil
  | cons a rest ih =>
    cases ha : f a with
    | none =>
      rw [List.filterMap_cons_none ha]
      exact ih.cons a
    | some b =>
      rw [List.filterMap_cons_some ha, List.map_cons, hf a b ha]
      exact ih.cons_cons a

namespace Graph

variable {g : Graph} {palette : Palette} {c : Cache} {id : NodeId} {name : String}

theorem valuePort_injective : Function.Injective valuePort := fun _ _ h => congrArg Port.node h

theorem isVariablePort_of_defines? (h : g.defines? id = some name) :
    g.IsVariablePort (valuePort id) := by
  obtain ⟨n, hn, hs, -⟩ := node?_of_defines? h
  refine ⟨rfl, fun m hm => ?_⟩
  obtain rfl : n = m := Option.some.inj (hn.symm.trans hm)
  simp [Node.isGlobal, hs]

theorem isVariablePort_of_reads? (h : g.reads? id = some name) :
    g.IsVariablePort (valuePort id) := by
  obtain ⟨n, hn, hs, -⟩ := node?_of_reads? h
  refine ⟨rfl, fun m hm => ?_⟩
  obtain rfl : n = m := Option.some.inj (hn.symm.trans hm)
  simp [Node.isGlobal, hs]

section Bindings

theorem bindings_eq (hk : g.Keyed) : g.bindings = g.nodes.keys.filterMap fun id =>
    (g.defines? id).map fun name => ⟨id, name, g.sourceTypeAt id⟩ := by
  rw [bindings, List.filterMap_filter]
  refine (g.nodes.filterMap_values _).trans (List.filterMap_congr fun id hid => ?_)
  obtain ⟨n, hn⟩ := Table.mem_keys_iff.1 hid
  have hg : g.node? id = some n := hn
  cases hs : n.isSet <;> simp [hn, hs, defines?, Node.defines?, sourceTypeAt, hg, hk id n hg]

theorem readers_eq (hk : g.Keyed) : g.readers = g.nodes.keys.filterMap fun id =>
    (g.reads? id).map fun name => (id, name) := by
  rw [readers, List.filterMap_filter]
  refine (g.nodes.filterMap_values _).trans (List.filterMap_congr fun id hid => ?_)
  obtain ⟨n, hn⟩ := Table.mem_keys_iff.1 hid
  have hg : g.node? id = some n := hn
  cases hs : n.isGet <;> simp [hn, hs, reads?, Node.reads?, hg, hk id n hg]

theorem mem_bindings (hk : g.Keyed) {b : Binding} : b ∈ g.bindings ↔
    g.defines? b.node = some b.name ∧ b.type = g.sourceTypeAt b.node := by
  simp only [bindings_eq hk, List.mem_filterMap, Option.map_eq_some_iff]
  constructor
  · rintro ⟨id, -, name, hd, rfl⟩
    exact ⟨hd, rfl⟩
  · obtain ⟨id, name, type⟩ := b
    rintro ⟨hd, ht⟩
    obtain ⟨n, hn, -, -⟩ := node?_of_defines? hd
    exact ⟨id, mem_keys_of_node? hn, name, hd, congrArg _ ht.symm⟩

theorem mem_readers (hk : g.Keyed) {r : NodeId × String} :
    r ∈ g.readers ↔ g.reads? r.1 = some r.2 := by
  simp only [readers_eq hk, List.mem_filterMap, Option.map_eq_some_iff]
  constructor
  · rintro ⟨id, -, name, hr, rfl⟩
    exact hr
  · intro hr
    obtain ⟨n, hn, -, -⟩ := node?_of_reads? hr
    exact ⟨r.1, mem_keys_of_node? hn, r.2, hr, rfl⟩

theorem nodup_bindings (hk : g.Keyed) : (g.bindings.map Binding.node).Nodup := by
  rw [bindings_eq hk]
  refine g.nodes.nodup_keys.sublist (sublist_map_filterMap (fun id b hb => ?_) _)
  obtain ⟨name, -, rfl⟩ := Option.map_eq_some_iff.1 hb
  rfl

theorem nodup_readers (hk : g.Keyed) : (g.readers.map Prod.fst).Nodup := by
  rw [readers_eq hk]
  refine g.nodes.nodup_keys.sublist (sublist_map_filterMap (fun id r hr => ?_) _)
  obtain ⟨name, -, rfl⟩ := Option.map_eq_some_iff.1 hr
  rfl

end Bindings

def setTypes (g : Graph) : List (Port × TypeName) :=
  g.bindings.map fun b => (valuePort b.node, b.type)

def getTypes (c : Cache) (g : Graph) : List (Port × TypeName) :=
  g.readers.map fun r => (valuePort r.1, (c.get? r.2).getD .wildcard)

/-- The cache that a pass displays from. -/
def recorded (c : Cache) (g : Graph) : Cache := c.setAll (typesByName g.bindings)

theorem pass_eq (palette : Palette) (c : Cache) (g : Graph) :
    let g₁ := (g.displayAll palette g.setTypes).2
    let types := g₁.getTypes (g.recorded c)
    g.pass palette c = (⟨g.bindings.length, g₁.readers.length,
        (g.displayAll palette g.setTypes).1 + (g₁.displayAll palette types).1⟩,
      g.recorded c, (g₁.displayAll palette types).2) :=
  rfl

/-- A pass records the type of every variable with a Set node and keeps every other entry. -/
theorem get?_recorded (c : Cache) (g : Graph) (name : String) :
    (g.recorded c).get? name = (g.variableType? name).or (c.get? name) := by
  have hempty : (typesByName g.bindings).get? "" = none := by
    simp [get?_typesByName_bindings, variableType?]
  rw [recorded, Cache.get?_setAll c hempty, get?_typesByName_bindings]

theorem get?_recorded_of_binds (c : Cache) (hb : g.binds name) :
    (g.variableType? name).isSome ∧ (g.recorded c).get? name = g.variableType? name := by
  have hsome := variableType?_isSome_iff.2 (binds_iff.1 hb)
  obtain ⟨type, htype⟩ := Option.isSome_iff_exists.1 hsome
  exact ⟨hsome, by rw [get?_recorded, htype, Option.some_or]⟩

theorem get?_recorded_of_not_binds (c : Cache) (hb : ¬g.binds name) :
    (g.recorded c).get? name = c.get? name := by
  have hnone : g.variableType? name = none := by
    rwa [← Option.not_isSome_iff_eq_none, variableType?_isSome_iff, ← binds_iff]
  rw [get?_recorded, hnone, Option.none_or]

section Keyed

variable (hk : g.Keyed)

include hk

theorem mem_setTypes {p : Port} {type : TypeName} : (p, type) ∈ g.setTypes ↔
    ∃ id name, p = valuePort id ∧ g.defines? id = some name ∧ type = g.sourceTypeAt id := by
  simp only [setTypes, List.mem_map, mem_bindings hk, Prod.mk.injEq]
  constructor
  · rintro ⟨b, ⟨hd, ht⟩, rfl, rfl⟩
    exact ⟨b.node, b.name, rfl, hd, ht⟩
  · rintro ⟨id, name, rfl, hd, rfl⟩
    exact ⟨⟨id, name, _⟩, ⟨hd, rfl⟩, rfl, rfl⟩

theorem mem_getTypes {p : Port} {type : TypeName} : (p, type) ∈ g.getTypes c ↔
    ∃ id name, p = valuePort id ∧ g.reads? id = some name ∧
      type = (c.get? name).getD .wildcard := by
  simp only [getTypes, List.mem_map, Prod.exists, mem_readers hk, Prod.mk.injEq]
  constructor
  · rintro ⟨id, name, hr, rfl, rfl⟩
    exact ⟨id, name, rfl, hr, rfl⟩
  · rintro ⟨id, name, rfl, hr, rfl⟩
    exact ⟨id, name, hr, rfl, rfl⟩

theorem nodup_setTypes : (g.setTypes.map Prod.fst).Nodup := by
  have hm : g.setTypes.map Prod.fst = (g.bindings.map Binding.node).map valuePort := by
    simp [setTypes, Function.comp_def]
  rw [hm]
  exact List.Nodup.map valuePort_injective (nodup_bindings hk)

theorem nodup_getTypes : ((g.getTypes c).map Prod.fst).Nodup := by
  have hm : (g.getTypes c).map Prod.fst = (g.readers.map Prod.fst).map valuePort := by
    simp [getTypes, Function.comp_def]
  rw [hm]
  exact List.Nodup.map valuePort_injective (nodup_readers hk)

theorem isVariablePort_of_mem_setTypes : ∀ x ∈ g.setTypes, g.IsVariablePort x.1 := by
  rintro ⟨p, type⟩ hx
  obtain ⟨id, name, rfl, hd, -⟩ := (mem_setTypes hk).1 hx
  exact isVariablePort_of_defines? hd

theorem isVariablePort_of_mem_getTypes : ∀ x ∈ g.getTypes c, g.IsVariablePort x.1 := by
  rintro ⟨p, type⟩ hx
  obtain ⟨id, name, rfl, hr, -⟩ := (mem_getTypes hk).1 hx
  exact isVariablePort_of_reads? hr

theorem bare_displayAll_setTypes : (g.displayAll palette g.setTypes).2.bare = g.bare :=
  bare_displayAll (isVariablePort_of_mem_setTypes hk)

theorem bare_displayAll_getTypes : (g.displayAll palette (g.getTypes c)).2.bare = g.bare :=
  bare_displayAll (isVariablePort_of_mem_getTypes hk)

theorem keyed_displayAll_setTypes (palette : Palette) :
    (g.displayAll palette g.setTypes).2.Keyed :=
  keyed_of_bare_eq (bare_displayAll_setTypes hk) hk

theorem bare_pass : (g.pass palette c).2.2.bare = g.bare := by
  rw [pass_eq]
  exact (bare_displayAll_getTypes (keyed_displayAll_setTypes hk palette)).trans
    (bare_displayAll_setTypes hk)

/-- A Set node shows the type that fed it before the pass. -/
theorem look?_pass_of_defines? (hd : g.defines? id = some name) :
    (g.pass palette c).2.2.look? (valuePort id) =
      (g.look? (valuePort id)).map fun _ => palette.look (g.sourceTypeAt id) := by
  have hk₁ := keyed_displayAll_setTypes hk palette
  have hset : (valuePort id, g.sourceTypeAt id) ∈ g.setTypes :=
    (mem_setTypes hk).2 ⟨id, name, rfl, hd, rfl⟩
  rw [pass_eq]
  rw [look?_displayAll_of_not_mem, look?_displayAll_of_mem (nodup_setTypes hk) hset]
  -- the second round writes on Get nodes only, and no node is of both kinds
  intro hmem
  obtain ⟨⟨p, type⟩, hx, rfl⟩ := List.mem_map.1 hmem
  obtain ⟨j, other, hp, hr, -⟩ := (mem_getTypes hk₁).1 hx
  obtain rfl := valuePort_injective hp
  have hnone := defines?_eq_none_of_reads? hr
  rw [defines?_of_bare_eq (bare_displayAll_setTypes hk), hd] at hnone
  simp at hnone

/-- A Get node shows the type that the pass has recorded for its variable. -/
theorem look?_pass_of_reads? (hr : g.reads? id = some name) :
    (g.pass palette c).2.2.look? (valuePort id) = (g.look? (valuePort id)).map fun _ =>
      palette.look (((g.recorded c).get? name).getD .wildcard) := by
  have hk₁ := keyed_displayAll_setTypes hk palette
  have hr₁ : (g.displayAll palette g.setTypes).2.reads? id = some name := by
    rw [reads?_of_bare_eq (bare_displayAll_setTypes hk), hr]
  have hget := (mem_getTypes (c := g.recorded c) hk₁).2 ⟨id, name, rfl, hr₁, rfl⟩
  rw [pass_eq]
  rw [look?_displayAll_of_mem (nodup_getTypes hk₁) hget, look?_displayAll_of_not_mem]
  intro hmem
  obtain ⟨⟨p, type⟩, hx, rfl⟩ := List.mem_map.1 hmem
  obtain ⟨j, other, hp, hd, -⟩ := (mem_setTypes hk).1 hx
  obtain rfl := valuePort_injective hp
  rw [defines?_eq_none_of_reads? hr] at hd
  simp at hd

/-- Outputs that are no value outputs of named Set or Get nodes look as before. -/
theorem look?_pass_of_other {p : Port}
    (hp : p.slot = Node.valueSlot → g.defines? p.node = none ∧ g.reads? p.node = none) :
    (g.pass palette c).2.2.look? p = g.look? p := by
  rw [pass_eq]
  rw [look?_displayAll_of_not_mem, look?_displayAll_of_not_mem]
  · intro hmem
    obtain ⟨⟨q, type⟩, hx, rfl⟩ := List.mem_map.1 hmem
    obtain ⟨id, name, rfl, hd, -⟩ := (mem_setTypes hk).1 hx
    have hnone := (hp rfl).1
    simp [valuePort, hd] at hnone
  · intro hmem
    obtain ⟨⟨q, type⟩, hx, rfl⟩ := List.mem_map.1 hmem
    obtain ⟨id, name, rfl, hr, -⟩ := (mem_getTypes (keyed_displayAll_setTypes hk palette)).1 hx
    rw [reads?_of_bare_eq (bare_displayAll_setTypes hk)] at hr
    have hnone := (hp rfl).2
    simp [valuePort, hr] at hnone

end Keyed

/-- A pass that reports no changed slot changes no type. -/
theorem type_pass_of_unchanged (h : (g.pass palette c).1.slotsChanged = 0) (p : Port) :
    ((g.pass palette c).2.2.look? p).map Look.type = (g.look? p).map Look.type := by
  rw [pass_eq] at h ⊢
  have hsum := Nat.add_eq_zero_iff.1 h
  exact (type_displayAll_of_unchanged hsum.2 p).trans (type_displayAll_of_unchanged hsum.1 p)

end Graph

end NodeVariables
