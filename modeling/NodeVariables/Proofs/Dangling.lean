import NodeVariables.Proofs.Guard
import NodeVariables.Proofs.Linking
import NodeVariables.Proofs.Loading
/-!
References that find nothing, such as a saved graph may hold. The counters of a loaded graph are
above the ids that are in use, but not above those that links and inputs merely name. So an edit
that hands out an id may give such a reference something to find. A node is then fed by what was
added, and nothing else changes what feeds it.
-/
namespace NodeVariables

theorem firstConcrete?_filterMap_cases {α : Type} {f f' : α → Option TypeName} {l : List α}
    (h : ∀ a ∈ l, f' a = f a ∨ f a = none) :
    firstConcrete? (l.filterMap f') = firstConcrete? (l.filterMap f) ∨
      ∃ a ∈ l, f a = none ∧ ∃ type, f' a = some type ∧
        firstConcrete? (l.filterMap f') = some type := by
  simp only [firstConcrete?_filterMap]
  induction l with
  | nil => exact .inl rfl
  | cons a l ih =>
    have hl := ih fun x hx => h x (List.mem_cons_of_mem _ hx)
    simp only [List.findSome?_cons]
    cases hfound : (f' a).filter TypeName.isConcrete with
    | none =>
      -- what finds no concrete type now found none before
      have hbefore : (f a).filter TypeName.isConcrete = none := by
        rcases h a (by simp) with ha | ha
        · rw [← ha, hfound]
        · rw [ha, Option.filter_none]
      rw [hbefore]
      refine hl.imp_right ?_
      rintro ⟨x, hx, hrest⟩
      exact ⟨x, List.mem_cons_of_mem _ hx, hrest⟩
    | some type =>
      rcases h a (by simp) with ha | ha
      · exact .inl (by rw [← ha, hfound])
      · exact .inr ⟨a, by simp, ha, type, (Option.filter_eq_some_iff.1 hfound).1, rfl⟩

namespace Graph

variable {g g' : Graph} {origin target : Port} {n : NodeId} {k : LinkId} {l : Link}

def valueLinks (g : Graph) (n : NodeId) : List LinkId :=
  (((g.node? n).map Node.valueInputs).getD []).filterMap (·.link)

/-- What was found before is found again, and outputs keep their types. -/
structure Grows (g g' : Graph) : Prop where
  link : ∀ k l, g.link? k = some l → g'.link? k = some l
  type : ∀ p s, g.output? p = some s → (g'.output? p).map Slot.type = some s.type

/-- A node takes the type of an output that a link now leads to, which one of its value inputs named
when it led to none. -/
structure Revived (g g' : Graph) (n : NodeId) (k : LinkId) (l : Link) : Prop where
  named : k ∈ g.valueLinks n
  dead : ∀ l', g.link? k = some l' → g.output? l'.origin = none
  live : g'.link? k = some l
  takes : ∃ s, g'.output? l.origin = some s ∧ s.type.isConcrete ∧ g'.sourceTypeAt n = s.type

theorem feed?_eq_some_iff {input : Slot} {type : TypeName} : g.feed? input = some type ↔
    ∃ k l s, input.link = some k ∧ g.link? k = some l ∧ g.output? l.origin = some s ∧
      s.type = type := by
  simp [feed?, Option.bind_eq_some_iff]

theorem Grows.feed? (h : Grows g g') (input : Slot) :
    g'.feed? input = g.feed? input ∨ g.feed? input = none := by
  cases hfeed : g.feed? input with
  | none => exact .inr rfl
  | some type =>
    obtain ⟨k, l, s, hk, hl, hs, rfl⟩ := feed?_eq_some_iff.1 hfeed
    obtain ⟨s', hs', htype⟩ := Option.map_eq_some_iff.1 (h.type _ s hs)
    exact .inl (feed?_eq_some_iff.2 ⟨k, l, s', hk, h.link k l hl, hs', htype⟩)

theorem Grows.sourceType (h : Grows g g') (m : Node) :
    g'.sourceType m = g.sourceType m ∨ ∃ s ∈ m.valueInputs, g.feed? s = none ∧
      ∃ type, g'.feed? s = some type ∧ type.isConcrete ∧ g'.sourceType m = type := by
  unfold Graph.sourceType
  rcases firstConcrete?_filterMap_cases fun s (_ : s ∈ m.valueInputs) => h.feed? s with
    heq | ⟨s, hs, hnone, type, hfeed, hfirst⟩
  · exact .inl (by rw [heq])
  · refine .inr ⟨s, hs, hnone, type, hfeed, isConcrete_of_firstConcrete? hfirst, ?_⟩
    rw [hfirst, Option.getD_some]

/-- In a graph that grows a node keeps its type unless a reference of its own is revived. -/
theorem Grows.sourceTypeAt (h : Grows g g')
    (hinputs : (g'.node? n).map Node.inputs = (g.node? n).map Node.inputs) :
    g'.sourceTypeAt n = g.sourceTypeAt n ∨ ∃ k l, Revived g g' n k l := by
  cases hn : g.node? n with
  | none =>
    have hn' : g'.node? n = none := by simpa [hn] using hinputs
    simp [Graph.sourceTypeAt, hn, hn']
  | some m =>
    rw [hn, Option.map_some] at hinputs
    obtain ⟨m', hn', hsame⟩ := Option.map_eq_some_iff.1 hinputs
    have hsource : g.sourceTypeAt n = g.sourceType m := by rw [Graph.sourceTypeAt, hn]
    have hsource' : g'.sourceTypeAt n = g'.sourceType m := by
      simp only [Graph.sourceTypeAt, hn', Graph.sourceType, Node.valueInputs, hsame]
    rw [hsource, hsource']
    refine (h.sourceType m).imp_right ?_
    rintro ⟨s, hs, hnone, type, hfeed, hconcrete, htakes⟩
    obtain ⟨k, l, o, hk, hl, ho, rfl⟩ := feed?_eq_some_iff.1 hfeed
    refine ⟨k, l, ?_, ?_, hl, o, ho, hconcrete, hsource'.trans htakes⟩
    · rw [valueLinks, hn]
      exact List.mem_filterMap.2 ⟨s, hs, hk⟩
    · intro l' hl'
      rw [Option.eq_none_iff_forall_ne_some]
      intro o' ho'
      have hfed := feed?_eq_some_iff.2 ⟨k, l', o', hk, hl', ho', rfl⟩
      simp [hnone] at hfed

theorem outputAt?_addNode (node : Node) (hn : n ≠ g.nextNodeId) (i : Nat) :
    (g.addNode node).2.outputAt? n i = g.outputAt? n i :=
  (outputAt?_putNode n i g g.nextNodeId node).trans (if_neg hn)

theorem NodesBelow.grows_addNode (h : g.NodesBelow) (node : Node) :
    Grows g (g.addNode node).2 where
  link _ _ hl := hl
  type p s hs := by
    have hne : p.node ≠ g.nextNodeId := by
      intro hp
      simp [output?, hp, h.node?_nextNodeId] at hs
    rw [← outputAt?_port, outputAt?_addNode node hne, outputAt?_port, hs, Option.map_some]

theorem LinksBelow.grows_attach (h : g.LinksBelow) (origin target : Port) :
    Grows g (g.attach origin target) where
  link k l hl := by
    have hne : k ≠ g.nextLinkId := by
      rintro rfl
      simp [h.link?_nextLinkId] at hl
    rw [link?_attach, if_neg hne, hl]
  type p s hs := by
    rw [← outputAt?_port, outputAt?_attach, outputAt?_port, hs]
    split <;> rfl

theorem inputs_attach (g : Graph) (hn : n ≠ target.node) :
    ((g.attach origin target).node? n).map Node.inputs = (g.node? n).map Node.inputs := by
  rw [attach, modifyInput, node?_modifyNode, if_neg hn]
  exact map_node?_modifyNode _ origin.node n fun _ => rfl

theorem nodesBelow_of_ofText {text : String} (h : ofText text = .ok g) : g.NodesBelow :=
  (below_of_ofText h).1

theorem linksBelow_of_ofText {text : String} (h : ofText text = .ok g) : g.LinksBelow :=
  fun k l hl => (below_of_ofText h).2 k (Table.mem_keys_iff.2 ⟨l, hl⟩)

/-- A graph that was loaded has its counter of links above every id in use. -/
theorem linksOnly_of_ofText {text : String} {id : LinkId} (h : ofText text = .ok g)
    (hc : g.Consistent) (ok : g.addLink origin target = .ok (id, g')) :
    LinksOnly g origin target id g' :=
  hc.linksOnly_addLink (linksBelow_of_ofText h) ok

/-- Adding a node revives nothing but links whose origin is on the node. -/
theorem sourceTypeAt_addNode (hb : g.NodesBelow) (node : Node) (hn : (g.node? n).isSome) :
    (g.addNode node).2.sourceTypeAt n = g.sourceTypeAt n ∨
      ∃ k l, Revived g (g.addNode node).2 n k l ∧ g.link? k = some l ∧
        l.origin.node = g.nextNodeId := by
  have hne : n ≠ g.nextNodeId := by
    rintro rfl
    simp [hb.node?_nextNodeId] at hn
  have hnode : (g.addNode node).2.node? n = g.node? n :=
    (node?_putNode n g g.nextNodeId node).trans (if_neg hne)
  refine ((hb.grows_addNode node).sourceTypeAt (congrArg _ hnode)).imp_right ?_
  rintro ⟨k, l, hrevived⟩
  have hlink : g.link? k = some l := hrevived.live
  refine ⟨k, l, hrevived, hlink, ?_⟩
  by_contra horigin
  obtain ⟨s, hs, -⟩ := hrevived.takes
  rw [← outputAt?_port, outputAt?_addNode node horigin, outputAt?_port,
    hrevived.dead l hlink] at hs
  simp at hs

/-- Adding a link to a free input revives nothing but the references to its id. -/
theorem sourceTypeAt_addLink {id : LinkId} (hb : g.LinksBelow)
    (ok : g.addLink origin target = .ok (id, g')) (hfree : g.linkInto? target = none)
    (hn : n ≠ target.node) :
    g'.sourceTypeAt n = g.sourceTypeAt n ∨ Revived g g' n id ⟨id, origin, target⟩ := by
  obtain ⟨-, -, -, hresult⟩ := addLink_eq_ok ok
  have hclear : g.clearInput target = g := by rw [clearInput, hfree]
  rw [hclear] at hresult
  obtain ⟨rfl, rfl⟩ := Prod.mk.inj hresult
  refine ((hb.grows_attach origin target).sourceTypeAt (inputs_attach g hn)).imp_right ?_
  rintro ⟨k, l, hrevived⟩
  rcases link?_attach_cases hrevived.live with ⟨rfl, rfl⟩ | ⟨-, hl⟩
  · exact hrevived
  · -- an old link led to no output, and still leads to none
    obtain ⟨s, hs, -⟩ := hrevived.takes
    rw [← outputAt?_port, outputAt?_attach, outputAt?_port, hrevived.dead l hl] at hs
    simp at hs

/-- On a loaded graph a new node or link changes the type of no other node, unless an input of that
node names a link that led to no output before: one with the new id for an origin, or the new link.
The type is then that of the output to which the link leads. -/
theorem sourceTypeAt_of_ofText {text : String} (h : ofText text = .ok g) :
    (∀ node n, (g.node? n).isSome →
      (g.addNode node).2.sourceTypeAt n = g.sourceTypeAt n ∨
        ∃ k l, Revived g (g.addNode node).2 n k l ∧ g.link? k = some l ∧
          l.origin.node = g.nextNodeId) ∧
    ∀ origin target id g', g.addLink origin target = .ok (id, g') → g.linkInto? target = none →
      ∀ n, n ≠ target.node →
        g'.sourceTypeAt n = g.sourceTypeAt n ∨ Revived g g' n id ⟨id, origin, target⟩ := by
  refine ⟨fun node n hn => sourceTypeAt_addNode (nodesBelow_of_ofText h) node hn, ?_⟩
  intro origin target id g' ok hfree n hn
  exact sourceTypeAt_addLink (linksBelow_of_ofText h) ok hfree hn

/-- A saved graph with two Set nodes and a producer of images. An input of node 0 names a link from
a node 3 that is not there, and the input of node 1 a link that is not there. -/
def danglingText : String :=
  "[\x7b\"0\":[0,\"SetNodeGlobal\",\"\"," ++
  "[[0,\"\",\"\",\"*\",\"Input\",0],[1,\"\",\"\",\"*\",\"Input\"]]]," ++
  "\"1\":[1,\"SetNodeGlobal\",\"\",[[0,\"\",\"\",\"*\",\"Input\",1]]]," ++
  "\"2\":[2,\"\",\"\",[],[[0,\"\",\"\",\"IMAGE\",\"Output\"]]]\x7d,\x7b\"0\":[0,3,0,0,0]\x7d]"

def dangling : Graph where
  nodes := .ofList [
    (0, { Node.new 0 Node.setType with
      title := ""
      inputs := [⟨0, "", "", .wildcard, .input, some 0, [], none, none⟩,
        ⟨1, "", "", .wildcard, .input, none, [], none, none⟩] }),
    (1, { Node.new 1 Node.setType with
      title := ""
      inputs := [⟨0, "", "", .wildcard, .input, some 1, [], none, none⟩] }),
    (2, { Node.new 2 "" with
      outputs := [⟨0, "", "", ⟨"IMAGE"⟩, .output, none, [], none, none⟩] })]
  links := .ofList [(0, ⟨0, ⟨3, 0⟩, ⟨0, 0⟩⟩)]
  nextNodeId := 3
  nextLinkId := 1

theorem ofText_danglingText : ofText danglingText = .ok dangling := ofText_eq_ok (by decide +kernel)

theorem addLink_dangling : dangling.addLink ⟨2, 0⟩ ⟨0, 1⟩ =
    .ok (1, dangling.attach ⟨2, 0⟩ ⟨0, 1⟩) := rfl

theorem sourceTypeAt_of_ofText_danglingText : ofText danglingText = .ok dangling ∧
    (∃ k l, Revived dangling (dangling.addNode maskLoader).2 0 k l ∧ dangling.link? k = some l ∧
      l.origin.node = 3) ∧
    dangling.linkInto? ⟨0, 1⟩ = none ∧
    Revived dangling (dangling.attach ⟨2, 0⟩ ⟨0, 1⟩) 1 1 ⟨1, ⟨2, 0⟩, ⟨0, 1⟩⟩ ∧
    (dangling.attach ⟨2, 0⟩ ⟨0, 1⟩).sourceTypeAt 2 = dangling.sourceTypeAt 2 := by
  obtain ⟨hnode, hlink⟩ := sourceTypeAt_of_ofText ofText_danglingText
  have hfree : dangling.linkInto? ⟨0, 1⟩ = none := by decide
  have hfed := (hnode maskLoader 0 (by decide)).resolve_left (by decide)
  have hrevived := (hlink _ _ _ _ addLink_dangling hfree 1 (by decide)).resolve_left (by decide)
  have hkept := (hlink _ _ _ _ addLink_dangling hfree 2 (by decide)).resolve_right fun h =>
    absurd h.named (by decide)
  exact ⟨ofText_danglingText, hfed, hfree, hrevived, hkept⟩

/-- New ids can give a reference of a saved graph something to find. A node is added and feeds
node 0, and a link to node 0 is added and feeds node 1. -/
theorem not_sourceTypeAt_dangling :
    (¬∀ text g node n, ofText text = .ok g → (g.node? n).isSome →
      (g.addNode node).2.sourceTypeAt n = g.sourceTypeAt n) ∧
    ¬∀ text g origin target id g', ofText text = .ok g →
      g.addLink origin target = .ok (id, g') → g.linkInto? target = none →
      ∀ n, n ≠ target.node → g'.sourceTypeAt n = g.sourceTypeAt n := by
  constructor
  · intro h
    have hkept := h danglingText dangling maskLoader 0 ofText_danglingText (by decide)
    exact absurd hkept (by decide)
  · intro h
    have hkept := h danglingText dangling _ _ _ _ ofText_danglingText addLink_dangling (by decide)
      1 (by decide)
    exact absurd hkept (by decide)

end Graph

end NodeVariables
