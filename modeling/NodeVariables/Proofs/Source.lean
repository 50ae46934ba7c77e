import NodeVariables.Proofs.Bare
import NodeVariables.Variable.Pass

namespace NodeVariables

theorem isConcrete_of_firstConcrete? {types : List TypeName} {type : TypeName}
    (h : firstConcrete? types = some type) : type.isConcrete :=
  List.find?_some h

/-- The type that stays when another type is found for the same name. -/
def preferConcrete : Option TypeName → TypeName → TypeName
  | none, type => type
  | some first, type => if first.isWildcard && type.isConcrete then type else first

theorem foldl_preferConcrete (first : TypeName) (types : List TypeName) :
    types.foldl (fun found type => some (preferConcrete found type)) (some first) =
      some (if first.isConcrete then first else (firstConcrete? types).getD first) := by
  induction types generalizing first with
  | nil => simp [firstConcrete?]
  | cons type rest ih =>
    rw [List.foldl_cons, ih]
    cases hf : first.isWildcard <;> cases ht : type.isWildcard <;>
      simp [preferConcrete, TypeName.isConcrete, firstConcrete?, hf, ht]

def typesOf (bs : List Binding) (name : String) : List TypeName :=
  (bs.filter (·.name = name)).map (·.type)

theorem get?_addBinding (types : Table String TypeName) (b : Binding) (name : String) :
    (addBinding types b).get? name =
      if b.name = name then some (preferConcrete (types.get? name) b.type)
      else types.get? name := by
  unfold addBinding
  by_cases hn : b.name = name
  · subst hn
    cases hf : types.get? b.name with
    | none => simp [Table.get?_insert, preferConcrete]
    | some first =>
      simp only [if_true, preferConcrete]
      split
      · rw [Table.get?_insert, if_pos rfl]
      · exact hf
  · rw [if_neg hn]
    split
    · rw [Table.get?_insert, if_neg (Ne.symm hn)]
    · split
      · rw [Table.get?_insert, if_neg (Ne.symm hn)]
      · rfl

theorem get?_foldl_addBinding (types : Table String TypeName) (bs : List Binding) (name : String) :
    (bs.foldl addBinding types).get? name =
      (typesOf bs name).foldl (fun found type => some (preferConcrete found type))
        (types.get? name) := by
  induction bs generalizing types with
  | nil => rfl
  | cons b rest ih =>
    rw [List.foldl_cons, ih, get?_addBinding]
    by_cases hn : b.name = name <;> simp [typesOf, hn]

/-- The first concrete type that the bindings give a name, or else the first type at all. -/
theorem get?_typesByName (bs : List Binding) (name : String) :
    (typesByName bs).get? name =
      (typesOf bs name).head?.map fun first => (firstConcrete? (typesOf bs name)).getD first := by
  rw [typesByName, get?_foldl_addBinding, Table.get?_empty]
  cases typesOf bs name with
  | nil => rfl
  | cons first rest =>
    rw [List.foldl_cons, foldl_preferConcrete]
    cases hf : first.isConcrete <;> simp [preferConcrete, firstConcrete?, hf]

namespace Graph

variable {g g' : Graph} {id : NodeId} {name : String}

theorem feed?_eq (g : Graph) (input : Slot) :
    g.feed? input = (g.origin? input).bind fun p => (g.look? p).map Look.type := by
  unfold feed? origin? look?
  cases input.link with
  | none => rfl
  | some id =>
    cases hl : g.link? id with
    | none => simp [hl]
    | some link => cases ho : g.output? link.origin <;> simp [hl, ho, Slot.look]

theorem sourceType_eq (g : Graph) (n : Node) :
    g.sourceType n = (firstConcrete? ((n.valueInputs.filterMap g.origin?).filterMap fun p =>
      (g.look? p).map Look.type)).getD .wildcard := by
  have hf : g.feed? = fun input => (g.origin? input).bind fun p => (g.look? p).map Look.type :=
    funext g.feed?_eq
  rw [sourceType, hf, List.filterMap_filterMap]

theorem sourceTypeAt_eq (g : Graph) (id : NodeId) :
    g.sourceTypeAt id = (firstConcrete? ((g.feeders id).filterMap fun p =>
      (g.look? p).map Look.type)).getD .wildcard := by
  unfold sourceTypeAt feeders
  cases g.node? id with
  | none => rfl
  | some n => exact g.sourceType_eq n

theorem sourceTypeAt_congr (hf : g'.feeders id = g.feeders id)
    (hl : ∀ p ∈ g.feeders id, (g'.look? p).map Look.type = (g.look? p).map Look.type) :
    g'.sourceTypeAt id = g.sourceTypeAt id := by
  rw [sourceTypeAt_eq, sourceTypeAt_eq, hf, List.filterMap_congr hl]

theorem sourceTypeAt_eq_wildcard (h : (g.sourceTypeAt id).isConcrete = false) :
    g.sourceTypeAt id = .wildcard := by
  rw [sourceTypeAt_eq] at h ⊢
  cases hc : firstConcrete? ((g.feeders id).filterMap fun p => (g.look? p).map Look.type) with
  | none => rfl
  | some type =>
    have ht := isConcrete_of_firstConcrete? hc
    simp [hc, ht] at h

def setNodeIds (g : Graph) (name : String) : List NodeId :=
  g.nodes.keys.filter fun id => g.defines? id = some name

theorem mem_keys_of_node? {n : Node} (h : g.node? id = some n) : id ∈ g.nodes.keys :=
  Table.mem_keys_iff.2 ⟨n, h⟩

theorem node?_of_defines? (h : g.defines? id = some name) :
    ∃ n, g.node? id = some n ∧ n.isSet ∧ n.variableName? = some name := by
  obtain ⟨n, hn, hd⟩ := Option.bind_eq_some_iff.1 h
  unfold Node.defines? at hd
  split at hd
  · next hs => exact ⟨n, hn, hs, hd⟩
  · simp at hd

theorem node?_of_reads? (h : g.reads? id = some name) :
    ∃ n, g.node? id = some n ∧ n.isGet ∧ n.variableName? = some name := by
  obtain ⟨n, hn, hd⟩ := Option.bind_eq_some_iff.1 h
  unfold Node.reads? at hd
  split at hd
  · next hs => exact ⟨n, hn, hs, hd⟩
  · simp at hd

theorem defines?_ne_empty (h : g.defines? id = some name) : name ≠ "" := by
  obtain ⟨n, -, -, hv⟩ := node?_of_defines? h
  exact Node.variableName?_ne_empty hv

theorem defines?_eq_none_of_reads? (h : g.reads? id = some name) : g.defines? id = none := by
  obtain ⟨n, hn, hget, -⟩ := node?_of_reads? h
  simp [defines?, hn, Node.defines?, n.isSet_eq_false_of_isGet hget]

theorem mem_setNodeIds : id ∈ g.setNodeIds name ↔ g.defines? id = some name := by
  simp only [setNodeIds, List.mem_filter, decide_eq_true_eq, and_iff_right_iff_imp]
  intro h
  obtain ⟨n, hn, -, -⟩ := node?_of_defines? h
  exact mem_keys_of_node? hn

theorem map_sourceType_setNodes (g : Graph) (name : String) :
    (g.setNodes name).map g.sourceType = (g.setNodeIds name).map g.sourceTypeAt := by
  have hv := g.nodes.filterMap_values fun n =>
    if n.isSetOf name then some (g.sourceType n) else none
  rw [setNodes, setNodeIds, ← List.filterMap_eq_map, ← List.filterMap_eq_map,
    List.filterMap_filter, List.filterMap_filter]
  refine hv.trans (List.filterMap_congr fun id hid => ?_)
  obtain ⟨n, hn⟩ := Table.mem_keys_iff.1 hid
  have hg : g.node? id = some n := hn
  simp only [hn, Option.bind_some, Node.isSetOf_iff, defines?, hg, sourceTypeAt, decide_eq_true_eq,
    Function.comp]

theorem binds_iff : g.binds name = true ↔ ∃ id, g.defines? id = some name := by
  have hl : (g.setNodes name).isEmpty = (g.setNodeIds name).isEmpty := by
    simpa using congrArg List.isEmpty (g.map_sourceType_setNodes name)
  simp only [binds, hl, Bool.not_eq_true', List.isEmpty_eq_false_iff_exists_mem, mem_setNodeIds]

theorem binds_of_bare_eq (h : g'.bare = g.bare) (name : String) : g'.binds name = g.binds name := by
  rw [Bool.eq_iff_iff, binds_iff, binds_iff]
  simp only [defines?_of_bare_eq h]

theorem variableType?_eq (g : Graph) (name : String) :
    g.variableType? name = (g.setNodeIds name).head?.map fun _ =>
      (firstConcrete? ((g.setNodeIds name).map g.sourceTypeAt)).getD .wildcard := by
  unfold variableType?
  rw [map_sourceType_setNodes]
  cases hids : g.setNodeIds name with
  | nil =>
    have hb : ¬g.binds name = true := by
      rw [binds_iff]
      rintro ⟨id, hid⟩
      simpa [hids] using mem_setNodeIds.2 hid
    simp [hb]
  | cons id rest =>
    have hd : g.defines? id = some name := mem_setNodeIds.1 (by simp [hids])
    rw [if_pos ⟨defines?_ne_empty hd, binds_iff.2 ⟨id, hd⟩⟩]
    rfl

theorem variableType?_isSome_iff :
    (g.variableType? name).isSome = true ↔ ∃ id, g.defines? id = some name := by
  rw [variableType?_eq, Option.isSome_map]
  cases hids : g.setNodeIds name with
  | nil => simp [← mem_setNodeIds, hids]
  | cons id rest =>
    have hd : g.defines? id = some name := mem_setNodeIds.1 (by simp [hids])
    simpa using ⟨id, hd⟩

theorem variableType?_congr (hd : g'.setNodeIds name = g.setNodeIds name)
    (hs : ∀ id, g.defines? id = some name → g'.sourceTypeAt id = g.sourceTypeAt id) :
    g'.variableType? name = g.variableType? name := by
  have hm : (g.setNodeIds name).map g'.sourceTypeAt = (g.setNodeIds name).map g.sourceTypeAt :=
    List.map_congr_left fun id hid => hs id (mem_setNodeIds.1 hid)
  rw [variableType?_eq, variableType?_eq, hd, hm]

theorem setNodeIds_congr (hk : g'.nodes.keys = g.nodes.keys)
    (hd : ∀ id, g'.defines? id = some name ↔ g.defines? id = some name) :
    g'.setNodeIds name = g.setNodeIds name := by
  unfold setNodeIds
  rw [hk]
  exact List.filter_congr fun id _ => by simp [hd id]

theorem setNodeIds_of_bare_eq (h : g'.bare = g.bare) (name : String) :
    g'.setNodeIds name = g.setNodeIds name :=
  setNodeIds_congr (keys_of_bare_eq h) fun id => by rw [defines?_of_bare_eq h id]

theorem mem_getNodeIds : id ∈ g.getNodeIds name ↔ g.reads? id = some name := by
  simp only [getNodeIds, List.mem_map, List.mem_filter, Prod.exists, Node.isGetOf_iff]
  constructor
  · rintro ⟨i, n, ⟨hmem, hr⟩, rfl⟩
    have hn : g.node? i = some n := Table.get?_eq_some_iff.2 hmem
    simp [reads?, hn, hr]
  · intro h
    obtain ⟨n, hn, hr⟩ := Option.bind_eq_some_iff.1 h
    exact ⟨id, n, ⟨Table.get?_eq_some_iff.1 hn, hr⟩, rfl⟩

theorem nodup_getNodeIds (g : Graph) (name : String) : (g.getNodeIds name).Nodup := by
  have hsub : (g.getNodeIds name).Sublist g.nodes.keys :=
    List.filter_sublist.map _
  exact g.nodes.nodup_keys.sublist hsub

theorem typesOf_bindings (g : Graph) (name : String) :
    typesOf g.bindings name = (g.setNodes name).map g.sourceType := by
  unfold typesOf bindings setNodes
  induction g.nodes.values with
  | nil => rfl
  | cons n rest ih =>
    cases hs : n.isSet with
    | false => simpa [hs, Node.isSetOf] using ih
    | true =>
      cases hv : n.variableName? with
      | none => simpa [hs, hv, Node.isSetOf] using ih
      | some v => by_cases hvn : v = name <;> simpa [hs, hv, hvn, Node.isSetOf] using ih

/-- The fold over the bindings of a graph gives every variable its type. -/
theorem get?_typesByName_bindings (g : Graph) (name : String) :
    (typesByName g.bindings).get? name = g.variableType? name := by
  rw [get?_typesByName, typesOf_bindings, map_sourceType_setNodes, variableType?_eq]
  cases g.setNodeIds name with
  | nil => rfl
  | cons id rest =>
    simp only [List.map_cons, List.head?_cons, Option.map_some, Option.some.injEq]
    cases hc : firstConcrete? (g.sourceTypeAt id :: rest.map g.sourceTypeAt) with
    | some type => rfl
    | none =>
      have hid := List.find?_eq_none.1 hc (g.sourceTypeAt id) (by simp)
      exact sourceTypeAt_eq_wildcard (Bool.eq_false_iff.2 hid)

end Graph

end NodeVariables
