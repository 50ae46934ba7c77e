import NodeVariables.Proofs.EditFrame
import NodeVariables.Proofs.EditRuns

namespace NodeVariables.Graph

variable {g g' g'' : Graph} {id j : NodeId} {k : LinkId} {l : Link} {p : Port}

def kind? (g : Graph) (id : NodeId) : Option String := (g.node? id).map Node.nodeType

/-- The graphs differ at most in one node and in what it feeds. -/
structure SameOff (id : NodeId) (g g' : Graph) : Prop where
  kind : ∀ j type, g'.kind? j = some type → g.kind? j = some type
  defines : ∀ j, j ≠ id → g'.defines? j = g.defines? j
  reads : ∀ j, j ≠ id → g'.reads? j = g.reads? j
  look : ∀ p, p.node ≠ id → g'.look? p = g.look? p
  feeds : ∀ j p, p ∈ g'.feeders j → p ∈ g.feeders j
  feeders : ∀ j, j ≠ id → (∀ p ∈ g.feeders j, p.node ≠ id) → g'.feeders j = g.feeders j

theorem SameOff.refl (id : NodeId) (g : Graph) : SameOff id g g where
  kind _ _ h := h
  defines _ _ := rfl
  reads _ _ := rfl
  look _ _ := rfl
  feeds _ _ h := h
  feeders _ _ _ := rfl

theorem SameOff.trans (h : SameOff id g g') (h' : SameOff id g' g'') : SameOff id g g'' where
  kind j type ht := h.kind j type (h'.kind j type ht)
  defines j hj := (h'.defines j hj).trans (h.defines j hj)
  reads j hj := (h'.reads j hj).trans (h.reads j hj)
  look p hp := (h'.look p hp).trans (h.look p hp)
  feeds j p hp := h.feeds j p (h'.feeds j p hp)
  feeders j hj hfed := by
    have hfirst := h.feeders j hj hfed
    rw [h'.feeders j hj (by rwa [hfirst]), hfirst]

/-- What feeds a node is the same in both graphs if it is not the node in which they differ. -/
theorem SameOff.sourceTypeAt_eq (h : SameOff id g g') (hj : j ≠ id)
    (hfed : ∀ p ∈ g.feeders j, p.node ≠ id) : g'.sourceTypeAt j = g.sourceTypeAt j := by
  apply sourceTypeAt_congr (h.feeders j hj hfed)
  intro p hp
  rw [h.look p (hfed p hp)]

/-- Chains do not come from losing links or nodes. -/
theorem SameOff.unchained (h : SameOff id g g') (hu : g.Unchained) : g'.Unchained := by
  have hnode (j : NodeId) (n : Node) (hn : g'.node? j = some n) :
      ∃ m, g.node? j = some m ∧ m.nodeType = n.nodeType := by
    apply Option.map_eq_some_iff.1
    exact h.kind j n.nodeType (by rw [kind?, hn, Option.map_some])
  intro j n hn hs p hp hvariable
  obtain ⟨m, hm, htype⟩ := hnode j n hn
  refine hu j m hm ?_ p (h.feeds j p hp) ?_
  · rwa [Node.isSet, htype]
  · obtain ⟨hslot, n', hn', hglobal⟩ := hvariable
    obtain ⟨m', hm', htype'⟩ := hnode p.node n' hn'
    exact ⟨hslot, m', hm', by rwa [Node.isGlobal, Node.isSet, Node.isGet, htype']⟩

theorem kind?_modifyNode (g : Graph) (id j : NodeId) {f : Node → Node}
    (hf : ∀ n, (f n).nodeType = n.nodeType) : (g.modifyNode id f).kind? j = g.kind? j :=
  g.map_node?_modifyNode id j hf

theorem kind?_modifyInput (g : Graph) (p : Port) (f : Slot → Slot) (j : NodeId) :
    (g.modifyInput p f).kind? j = g.kind? j :=
  g.kind?_modifyNode p.node j fun _ => rfl

theorem kind?_modifyOutput (g : Graph) (p : Port) (f : Slot → Slot) (j : NodeId) :
    (g.modifyOutput p f).kind? j = g.kind? j :=
  g.kind?_modifyNode p.node j fun _ => rfl

theorem sameOff_setWidget (g : Graph) (id : NodeId) (name value : String) :
    SameOff id g (g.setWidget id name value) := by
  have hsame := g.sameBut_setWidget id name value
  have hfeeders (j : NodeId) : (g.setWidget id name value).feeders j = g.feeders j := by
    apply feeders_congr
    intro i
    rw [inputAt?_setWidget]
    rfl
  have hkind (j : NodeId) : (g.setWidget id name value).kind? j = g.kind? j :=
    g.kind?_modifyNode id j fun _ => rfl
  constructor
  case kind => exact fun j type ht => (hkind j).symm.trans ht
  case defines => exact fun j hj => hsame.defines j (by simpa using hj)
  case reads => exact fun j hj => hsame.reads j (by simpa using hj)
  case look => exact fun p _ => hsame.look p
  case feeds => exact fun j p hp => hfeeders j ▸ hp
  case feeders => exact fun j _ _ => hfeeders j

section Links

theorem mem_feeders_iff :
    p ∈ g.feeders j ↔ ∃ i, (g.inputAt? j i).map g.valueOrigin? = some (some p) := by
  rw [feeders_eq, List.mem_filterMap]
  cases hn : g.node? j with
  | none => simp [inputAt?, hn]
  | some n =>
    simp only [inputAt?, hn, Option.map_some, Option.getD_some, Option.bind_some,
      Option.map_eq_some_iff, List.mem_iff_getElem?]
    constructor
    · rintro ⟨s, ⟨i, hi⟩, hs⟩
      exact ⟨i, s, hi, hs⟩
    · rintro ⟨i, s, hi, hs⟩
      exact ⟨s, ⟨i, hi⟩, hs⟩

/-- A slot that held the removed link has no origin any more, whether it still holds the link or
not. -/
theorem valueOrigin?_removeLink (g : Graph) (k : LinkId) (s : Slot) :
    (g.removeLink k).valueOrigin? s = (if s.link = some k then none else g.valueOrigin? s) ∧
    (g.removeLink k).valueOrigin? (s.unlink k) =
      if s.link = some k then none else g.valueOrigin? s := by
  have hname : (s.unlink k).name = s.name := by
    unfold Slot.unlink
    split <;> rfl
  cases hs : s.link with
  | none => simp [valueOrigin?, origin?, hname, hs]
  | some m =>
    by_cases hm : m = k <;>
      simp [valueOrigin?, origin?, hname, hs, hm, link?_removeLink, Option.filter]

theorem map_valueOrigin?_removeLink (hl : g.link? k = some l) (j : NodeId) (i : Nat) :
    ((g.removeLink k).inputAt? j i).map (g.removeLink k).valueOrigin? =
      (g.inputAt? j i).map fun s => if s.link = some k then none else g.valueOrigin? s := by
  rw [inputAt?_removeLink _ _ hl]
  cases hs : g.inputAt? j i with
  | none => simp
  | some s =>
    obtain ⟨hkept, hunlinked⟩ := valueOrigin?_removeLink g k s
    split
    · exact congrArg some hunlinked
    · exact congrArg some hkept

theorem defines?_removeLink (g : Graph) (k : LinkId) (j : NodeId) :
    (g.removeLink k).defines? j = g.defines? j := by
  cases hl : g.link? k with
  | none => rw [removeLink_of_none hl]
  | some l =>
    rw [removeLink_of_some hl, defines?_modifyInput, defines?_modifyOutput]
    rfl

theorem kind?_removeLink (g : Graph) (k : LinkId) (j : NodeId) :
    (g.removeLink k).kind? j = g.kind? j := by
  cases hl : g.link? k with
  | none => rw [removeLink_of_none hl]
  | some l =>
    rw [removeLink_of_some hl, kind?_modifyInput, kind?_modifyOutput]
    rfl

/-- A link of a node is removed. -/
theorem Consistent.sameOff_removeLink (h : g.Consistent) (hl : g.link? k = some l)
    (htouches : l.touches id) : SameOff id g (g.removeLink k) := by
  have hr := h.relinked_removeLink hl
  constructor
  case kind => exact fun j type ht => (g.kind?_removeLink k j).symm.trans ht
  case defines => exact fun j _ => hr.defines j
  case reads => exact fun j _ => hr.reads j
  case look => exact fun p _ => hr.look p
  case feeds =>
    intro j p hp
    obtain ⟨i, hi⟩ := mem_feeders_iff.1 hp
    rw [map_valueOrigin?_removeLink hl] at hi
    obtain ⟨s, hs, horigin⟩ := Option.map_eq_some_iff.1 hi
    split at horigin
    · simp at horigin
    · exact mem_feeders_iff.2 ⟨i, by rw [hs, Option.map_some, horigin]⟩
  case feeders =>
    intro j hj hfed
    apply feeders_congr
    intro i
    rw [map_valueOrigin?_removeLink hl]
    cases hs : g.inputAt? j i with
    | none => rfl
    | some s =>
      simp only [Option.map_some, Option.some.injEq]
      split
      · next hk =>
        -- the link ends at another node, so it comes from the one that it touches
        obtain ⟨l', hl', hat⟩ := h.of_held j i k (held_eq_some_iff.2 ⟨s, hs, hk⟩)
        obtain rfl := Option.some.inj (hl.symm.trans hl')
        have horigin : l.origin.node = id := by
          simp only [Link.touches, Bool.or_eq_true, decide_eq_true_eq] at htouches
          exact htouches.resolve_right fun htarget => hj (hat.1.symm.trans htarget)
        cases hv : g.valueOrigin? s with
        | none => rfl
        | some p =>
          have hp : p = l.origin := by
            unfold valueOrigin? at hv
            split at hv
            · simpa [origin?, hk, hl] using hv.symm
            · simp at hv
          have hmem : p ∈ g.feeders j :=
            mem_feeders_iff.2 ⟨i, by rw [hs, Option.map_some, hv]⟩
          exact absurd (hp ▸ horigin) (hfed p hmem)
      · rfl

end Links

section Nodes

theorem Consistent.sameOff_foldl_removeLink (h : g.Consistent) {ids : List LinkId}
    (htouches : ∀ k ∈ ids, ∀ l, g.link? k = some l → l.touches id) :
    SameOff id g (ids.foldl Graph.removeLink g) := by
  induction ids generalizing g with
  | nil => exact .refl id g
  | cons k rest ih =>
    have hfirst : SameOff id g (Graph.removeLink g k) := by
      cases hl : g.link? k with
      | none =>
        rw [removeLink_of_none hl]
        exact .refl id g
      | some l => exact h.sameOff_removeLink hl (htouches k (by simp) l hl)
    refine hfirst.trans (ih (h.removeLink k) fun m hm l hl => ?_)
    exact htouches m (List.mem_cons_of_mem _ hm) l (link?_of_removeLink hl).2

theorem Consistent.sameOff_isolate (h : g.Consistent) (id : NodeId) :
    SameOff id g (g.isolate id) := by
  apply h.sameOff_foldl_removeLink
  intro k hk l hl
  obtain ⟨listed, hmem, rfl⟩ := List.mem_map.1 hk
  obtain ⟨hvalue, htouches⟩ := List.mem_filter.1 hmem
  obtain ⟨⟨m, listed⟩, hentry, rfl⟩ := List.mem_map.1 hvalue
  have hlisted : g.link? m = some listed := Table.get?_eq_some_iff.2 hentry
  -- a link is found under its own id
  rw [h.link_id m listed hlisted] at hl
  rwa [← Option.some.inj (hlisted.symm.trans hl)]

theorem sameOff_eraseNode (g : Graph) (id : NodeId) :
    SameOff id g { g with nodes := g.nodes.erase id } := by
  have hother (j : NodeId) (hj : j ≠ id) :
      node? { g with nodes := g.nodes.erase id } j = g.node? j :=
    (node?_eraseNode j g id).trans (if_neg hj)
  have hfeeders (j : NodeId) (hj : j ≠ id) :
      feeders { g with nodes := g.nodes.erase id } j = g.feeders j := by
    rw [feeders, feeders, hother j hj]
    rfl
  constructor
  case kind =>
    intro j type ht
    obtain ⟨n, hn, htype⟩ := Option.map_eq_some_iff.1 ht
    rw [kind?, node?_of_eraseNode hn, Option.map_some, htype]
  case defines => exact fun j hj => by rw [defines?, defines?, hother j hj]
  case reads => exact fun j hj => by rw [reads?, reads?, hother j hj]
  case look => exact fun p hp => by rw [look?, look?, output?, output?, hother p.node hp]
  case feeds =>
    intro j p hp
    by_cases hj : j = id
    · have hnone : node? { g with nodes := g.nodes.erase id } j = none :=
        (node?_eraseNode j g id).trans (if_pos hj)
      simp [feeders, hnone] at hp
    · rwa [← hfeeders j hj]
  case feeders => exact fun j hj _ => hfeeders j hj

/-- Nothing but what the removed node fed is different without it. -/
theorem Consistent.sameOff_removeNode (h : g.Consistent) (id : NodeId) :
    SameOff id g (g.removeNode id).2 :=
  (h.sameOff_isolate id).trans (sameOff_eraseNode _ id)

theorem node?_removeNode_self (g : Graph) (id : NodeId) : (g.removeNode id).2.node? id = none :=
  (node?_eraseNode id _ id).trans (if_pos rfl)

/-- What no removal of a link changes is the same when a node is isolated. -/
theorem isolate_induction {P : Graph → Prop} (h : P g)
    (hstep : ∀ g k, P g → P (g.removeLink k)) (id : NodeId) : P (g.isolate id) := by
  unfold isolate
  generalize g.linksAt id = ids
  induction ids generalizing g with
  | nil => exact h
  | cons k rest ih => exact ih (hstep g k h)

theorem keyed_removeNode (hk : g.Keyed) (id : NodeId) : (g.removeNode id).2.Keyed := by
  have hisolated : (g.isolate id).Keyed :=
    isolate_induction hk (fun _ k h => keyed_removeLink h k) id
  exact fun j n hn => hisolated j n (node?_of_eraseNode hn)

theorem defines?_isolate (g : Graph) (id j : NodeId) : (g.isolate id).defines? j = g.defines? j :=
  isolate_induction (P := fun g' => g'.defines? j = g.defines? j) rfl
    (fun g' k h => (g'.defines?_removeLink k j).trans h) id

/-- A Set node that is removed is returned with its variable. -/
theorem defines?_returned {n : Node} (hn : (g.removeNode id).1 = some n) :
    n.defines? = g.defines? id := by
  have hisolated : (g.isolate id).node? id = some n := hn
  rw [← defines?_isolate g id id, defines?, hisolated, Option.bind_some]

end Nodes

end NodeVariables.Graph
