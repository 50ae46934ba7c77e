import NodeVariables.Proofs.Guard

namespace NodeVariables

def Node.untitled (n : Node) : Node := { n with title := "" }

namespace Graph

variable {g g' : Graph} {id : NodeId} {name : String}

def untitled (g : Graph) : Graph := { g with nodes := g.nodes.map Node.untitled }

section Laws

variable (g : Graph)

@[simp] theorem node?_untitled (id : NodeId) :
    g.untitled.node? id = (g.node? id).map Node.untitled :=
  Table.get?_map ..

@[simp] theorem defines?_untitled (id : NodeId) : g.untitled.defines? id = g.defines? id := by
  cases h : g.node? id with
  | none => simp [defines?, h]
  | some n =>
    simp only [defines?, node?_untitled, h, Option.map_some, Option.bind_some]
    rfl

@[simp] theorem reads?_untitled (id : NodeId) : g.untitled.reads? id = g.reads? id := by
  cases h : g.node? id with
  | none => simp [reads?, h]
  | some n =>
    simp only [reads?, node?_untitled, h, Option.map_some, Option.bind_some]
    rfl

@[simp] theorem output?_untitled (p : Port) : g.untitled.output? p = g.output? p := by
  cases h : g.node? p.node with
  | none => simp [output?, h]
  | some n =>
    simp only [output?, node?_untitled, h, Option.map_some, Option.bind_some]
    rfl

@[simp] theorem look?_untitled (p : Port) : g.untitled.look? p = g.look? p := by
  rw [look?, output?_untitled, look?]

@[simp] theorem feeders_untitled (id : NodeId) : g.untitled.feeders id = g.feeders id := by
  cases h : g.node? id with
  | none => simp [feeders, h]
  | some n =>
    simp only [feeders, node?_untitled, h, Option.map_some]
    rfl

theorem sourceTypeAt_untitled (id : NodeId) : g.untitled.sourceTypeAt id = g.sourceTypeAt id :=
  sourceTypeAt_congr (g.feeders_untitled id) fun p _ => by rw [look?_untitled]

theorem variableType?_untitled (name : String) :
    g.untitled.variableType? name = g.variableType? name := by
  have hids : g.untitled.setNodeIds name = g.setNodeIds name :=
    setNodeIds_congr (Table.keys_map ..) fun id => by rw [defines?_untitled]
  exact variableType?_congr hids fun id _ => g.sourceTypeAt_untitled id

theorem untitled_modifyOutput (p : Port) (f : Slot → Slot) :
    (g.modifyOutput p f).untitled = g.untitled.modifyOutput p f := by
  have hnodes : (g.nodes.modify p.node (Node.modifyOutput p.slot f)).map Node.untitled =
      (g.nodes.map Node.untitled).modify p.node (Node.modifyOutput p.slot f) := by
    apply Table.ext_get?
    intro id
    simp only [Table.get?_map, Table.get?_modify]
    split
    · simp only [Option.map_map]
      rfl
    · rfl
  simp only [untitled, modifyOutput, modifyNode, hnodes]

theorem untitled_display (palette : Palette) (p : Port) (type : TypeName) :
    (g.display palette p type).2.untitled = (g.untitled.display palette p type).2 := by
  unfold display
  rw [output?_untitled]
  cases g.output? p with
  | none => rfl
  | some slot =>
    have hshown := g.untitled_modifyOutput p (Slot.display palette type)
    dsimp only
    split
    · exact hshown
    · exact congrArg (requestRedraw · p.node) hshown

end Laws

/-- What can be seen without the titles is the same on graphs that differ in titles only. -/
theorem view_eq_of_untitled_eq {α : Type} (view : Graph → α) (hv : ∀ g, view g.untitled = view g)
    (h : g.untitled = g'.untitled) : view g = view g' := by
  rw [← hv g, h, hv g']

end Graph

namespace Session

variable {s s' : Session} {g g' : Graph}

/-- The states show and record the same; titles may differ, and how often the cache was asked. -/
structure SameButTitles (a b : Session × Graph) : Prop where
  graph : a.2.untitled = b.2.untitled
  palette : a.1.palette = b.1.palette
  types : a.1.cache.types = b.1.cache.types

namespace SameButTitles

theorem refl (a : Session × Graph) : SameButTitles a a := ⟨rfl, rfl, rfl⟩

theorem trans {a b c : Session × Graph} (h : SameButTitles a b) (h' : SameButTitles b c) :
    SameButTitles a c :=
  ⟨h.graph.trans h'.graph, h.palette.trans h'.palette, h.types.trans h'.types⟩

section Refresh

variable (h : SameButTitles (s, g) (s', g'))

include h

theorem variableType (name : String) :
    (s.variableType g name).1 = (s'.variableType g' name).1 ∧
      (s.variableType g name).2.cache.types = (s'.variableType g' name).2.cache.types := by
  have hlive : Cache.live? g name = Cache.live? g' name := by
    have hv : g.variableType? name = g'.variableType? name :=
      Graph.view_eq_of_untitled_eq (·.variableType? name) (·.variableType?_untitled name) h.graph
    exact congrArg (Option.filter TypeName.isConcrete) hv
  have hget (n : String) : s.cache.get? n = s'.cache.get? n := congrArg (Table.get? · n) h.types
  refine ⟨?_, Cache.types_eq fun n => ?_⟩
  · exact (Cache.lookup_fst ..).trans (by rw [hlive, hget, ← Cache.lookup_fst]; rfl)
  · exact (Cache.get?_lookup ..).trans (by rw [hlive, hget, ← Cache.get?_lookup]; rfl)

theorem display (id : NodeId) (type : TypeName) :
    (s.display g id type).untitled = (s'.display g' id type).untitled := by
  have hg : g.untitled = g'.untitled := h.graph
  have hp : s.palette = s'.palette := h.palette
  calc (s.display g id type).untitled
      = (g.untitled.display s.palette (Graph.valuePort id) type).2 := g.untitled_display ..
    _ = (g'.untitled.display s'.palette (Graph.valuePort id) type).2 := by rw [hg, hp]
    _ = (s'.display g' id type).untitled := (g'.untitled_display ..).symm

theorem refresh (r : Request) :
    (s.refresh g r).1 = (s'.refresh g' r).1 ∧
      SameButTitles (s.refresh g r).2 (s'.refresh g' r).2 := by
  have hd : g.defines? r.node = g'.defines? r.node :=
    Graph.view_eq_of_untitled_eq (·.defines? r.node) (·.defines?_untitled r.node) h.graph
  have hr : g.reads? r.node = g'.reads? r.node :=
    Graph.view_eq_of_untitled_eq (·.reads? r.node) (·.reads?_untitled r.node) h.graph
  have hsource : g.sourceTypeAt r.node = g'.sourceTypeAt r.node :=
    Graph.view_eq_of_untitled_eq (·.sourceTypeAt r.node) (·.sourceTypeAt_untitled r.node) h.graph
  by_cases hslot : r.purpose.slot = Node.valueSlot
  · cases hname : g.defines? r.node with
    | some name =>
      rw [refresh_of_defines? hname hslot, refresh_of_defines? (hd ▸ hname) hslot]
      exact ⟨congrArg r.overrides hsource, hsource ▸ h.display .., h.palette, h.types⟩
    | none =>
      cases hread : g.reads? r.node with
      | some name =>
        obtain ⟨htype, htypes⟩ := h.variableType name
        rw [refresh_of_reads? hread hslot, refresh_of_reads? (hr ▸ hread) hslot]
        exact ⟨congrArg r.overrides htype, htype ▸ h.display .., h.palette, htypes⟩
      | none =>
        rw [refresh_of_other fun _ => ⟨hname, hread⟩,
          refresh_of_other fun _ => ⟨hd ▸ hname, hr ▸ hread⟩]
        exact ⟨rfl, h⟩
  · rw [refresh_of_other fun hv => absurd hv hslot, refresh_of_other fun hv => absurd hv hslot]
    exact ⟨rfl, h⟩

end Refresh

/-- A refresh after others of the same request, with changed titles between them, asks for what the
first one asked for and leaves what it left. -/
theorem refresh_again {r : Request}
    (h : SameButTitles (s', g') (s, g) ∨ SameButTitles (s', g') (s.refresh g r).2) :
    (s'.refresh g' r).1 = (s.refresh g r).1 ∧
      SameButTitles (s'.refresh g' r).2 (s.refresh g r).2 := by
  rcases h with h | h
  · exact h.refresh r
  · obtain ⟨hasked, hstate⟩ := h.refresh r
    obtain ⟨hsame, hgraph, htypes⟩ := refresh_refresh s g r
    have hidle : SameButTitles ((s.refresh g r).2.1.refresh (s.refresh g r).2.2 r).2
        (s.refresh g r).2 := ⟨congrArg Graph.untitled hgraph, palette_refresh .., htypes⟩
    exact ⟨hasked.trans hsame, hstate.trans hidle⟩

end SameButTitles

end Session

namespace Hook

open Session (SameButTitles)

/-- A hook that changes titles at most. -/
def Retitles : Hook → Prop
  | .guard => True
  | .custom run => ∀ g r, (run g r).2.untitled = g.untitled

def custom? : Hook → Option (Graph → Request → Overrides × Graph)
  | .guard => none
  | .custom run => some run

def answers (busy : Bool) (r : Request) : List Hook → Session → Graph → List Overrides
  | [], _, _ => []
  | hook :: hooks, s, g =>
    let (asked, s, g) := hook.run busy r s g
    asked :: answers busy r hooks s g

def lastFilter? (asked : List Overrides) : Option TypeName :=
  (asked.filterMap (·.typeFilter)).getLast?

variable {hooks : List Hook} {r : Request} {s s' : Session} {g g' : Graph}

theorem lastFilter?_cons (asked : Overrides) (rest : List Overrides) :
    lastFilter? (asked :: rest) = (lastFilter? rest).or asked.typeFilter := by
  unfold lastFilter?
  cases hf : asked.typeFilter with
  | none => simp [hf]
  | some type =>
    rw [List.filterMap_cons_some hf, List.getLast?_cons]
    cases (rest.filterMap (·.typeFilter)).getLast? <;> rfl

/-- The filter that is left is the last one that was asked for. -/
theorem typeFilter_runAll (busy : Bool) (r : Request) (hooks : List Hook) (asked : Overrides)
    (s : Session) (g : Graph) : (runAll busy r hooks asked s g).1.typeFilter =
      (lastFilter? (answers busy r hooks s g)).or asked.typeFilter := by
  induction hooks generalizing asked s g with
  | nil => rfl
  | cons hook hooks ih =>
    have hrest := ih (asked.merge (hook.run busy r s g).1) (hook.run busy r s g).2.1
      (hook.run busy r s g).2.2
    have hanswers := lastFilter?_cons (hook.run busy r s g).1
      (answers busy r hooks (hook.run busy r s g).2.1 (hook.run busy r s g).2.2)
    rw [answers, hanswers, Option.or_assoc]
    exact hrest

section Retitling

theorem sameButTitles_run {run : Graph → Request → Overrides × Graph}
    (h : (Hook.custom run).Retitles) (busy : Bool) (r : Request) (s : Session) (g : Graph) :
    SameButTitles ((Hook.custom run).run busy r s g).2 (s, g) :=
  ⟨h g r, rfl, rfl⟩

variable (hh : ∀ hook ∈ hooks, hook.Retitles)

include hh

/-- Hooks that change titles leave what one refresh leaves, if they come after it or the guard is
among them. -/
theorem sameButTitles_runAll (h : SameButTitles (s', g') (s.refresh g r).2 ∨
      SameButTitles (s', g') (s, g) ∧ .guard ∈ hooks) (asked : Overrides) :
    SameButTitles (runAll false r hooks asked s' g').2 (s.refresh g r).2 := by
  induction hooks generalizing asked s' g' with
  | nil => exact h.resolve_right fun h => absurd h.2 (by simp)
  | cons hook hooks ih =>
    have hrest (hook) (hmem : hook ∈ hooks) := hh hook (List.mem_cons_of_mem _ hmem)
    cases hook with
    | guard =>
      have hguard := SameButTitles.refresh_again (h.symm.imp_left And.left)
      exact ih hrest (.inl hguard.2) _
    | custom run =>
      have hrun := sameButTitles_run (hh (.custom run) (by simp)) false r s' g'
      refine ih hrest (h.imp hrun.trans fun h => ⟨hrun.trans h.1, ?_⟩) _
      simpa using h.2

/-- Every guard asks for what one refresh asks for. -/
theorem answers_guard (h : SameButTitles (s', g') (s, g) ∨
      SameButTitles (s', g') (s.refresh g r).2) {i : Nat} (hi : hooks[i]? = some .guard) :
    (answers false r hooks s' g')[i]? = some (s.refresh g r).1 := by
  induction hooks generalizing i s' g' with
  | nil => simp at hi
  | cons hook hooks ih =>
    have hrest (hook) (hmem : hook ∈ hooks) := hh hook (List.mem_cons_of_mem _ hmem)
    cases hook with
    | guard =>
      have hguard := SameButTitles.refresh_again h
      cases i with
      | zero => exact congrArg some hguard.1
      | succ i => exact ih hrest (.inr hguard.2) (by simpa using hi)
    | custom run =>
      have hrun := sameButTitles_run (hh (.custom run) (by simp)) false r s' g'
      cases i with
      | zero => simp at hi
      | succ i => exact ih hrest (h.imp hrun.trans hrun.trans) (by simpa using hi)

end Retitling

/-- While the session is busy the other hooks run on the graph as if there were no guards. -/
theorem runAll_busy (r : Request) (hooks : List Hook) (asked : Overrides) (s : Session)
    (g : Graph) : (runAll true r hooks asked s g).2 =
      (s, (hooks.filterMap custom?).foldl (fun g run => (run g r).2) g) := by
  induction hooks generalizing asked g with
  | nil => rfl
  | cons hook hooks ih => cases hook <;> exact ih ..

end Hook

open Session (Idle SameButTitles)
open Hook (answers lastFilter?)

/-- A second refresh changes nothing, and neither do further guards among hooks that change titles
only. The presenter is handed the last filter that a hook asked for. While the session is busy the
guards do nothing. -/
theorem guards_refresh_once :
    (∀ (s : Session) (g : Graph) (r : Request),
      ((s.refresh g r).2.1.refresh (s.refresh g r).2.2 r).1 = (s.refresh g r).1 ∧
      Idle (s.refresh g r).2 ((s.refresh g r).2.1.refresh (s.refresh g r).2.2 r).2) ∧
    (∀ (α : Type) (hooks : List Hook) (r : Request) (s : Session) (g : Graph)
      (openMenu : Overrides → Graph → α × Graph),
      .guard ∈ hooks → (∀ hook ∈ hooks, hook.Retitles) →
      ∃ asked s' g', present hooks false r s g openMenu =
          ((openMenu asked g').1, s', (openMenu asked g').2) ∧
        SameButTitles (s', g') (s.refresh g r).2 ∧
        asked.typeFilter = lastFilter? (answers false r hooks s g) ∧
        ∀ i : Nat, hooks[i]? = some .guard →
          (answers false r hooks s g)[i]? = some (s.refresh g r).1) ∧
    (∀ (α : Type) (hooks : List Hook) (r : Request) (s : Session) (g : Graph)
      (openMenu : Overrides → Graph → α × Graph),
      ∃ asked g', present hooks true r s g openMenu =
          ((openMenu asked g').1, s, (openMenu asked g').2) ∧
        g' = (hooks.filterMap Hook.custom?).foldl (fun g run => (run g r).2) g ∧
        asked.typeFilter = lastFilter? (answers true r hooks s g)) := by
  have hfilter (busy : Bool) (hooks : List Hook) (r : Request) (s : Session) (g : Graph) :
      (Hook.runAll busy r hooks .none s g).1.typeFilter = lastFilter? (answers busy r hooks s g) :=
    (Hook.typeFilter_runAll ..).trans (Option.or_none ..)
  refine ⟨Session.refresh_refresh, ?_, ?_⟩
  · intro α hooks r s g openMenu hguard hh
    exact ⟨_, _, _, rfl, Hook.sameButTitles_runAll hh (.inr ⟨.refl _, hguard⟩) .none,
      hfilter .., fun i => Hook.answers_guard hh (.inl (.refl _))⟩
  · intro α hooks r s g openMenu
    obtain ⟨hs, hg⟩ := Prod.mk.inj (Hook.runAll_busy r hooks .none s g)
    refine ⟨(Hook.runAll true r hooks .none s g).1, _, ?_, hg, hfilter ..⟩
    exact congrArg (fun s' => (_, s', _)) hs

def retitling (title : String) (filter : Option TypeName) : Hook :=
  .custom fun g r => (⟨filter⟩, g.modifyNode r.node (Node.withTitle title))

theorem retitles_retitling (title : String) (filter : Option TypeName) :
    (retitling title filter).Retitles := by
  intro g r
  have hnodes : (g.nodes.modify r.node (Node.withTitle title)).map Node.untitled =
      g.nodes.map Node.untitled := by
    apply Table.ext_get?
    intro id
    simp only [Table.get?_map, Table.get?_modify]
    split
    · simp only [Option.map_map]
      rfl
    · rfl
  simp only [Graph.modifyNode, Graph.untitled, hnodes]

/-- A Get node feeds the Set node of the variable that it reads. -/
def looped : Graph :=
  let nodes := [Node.setGlobal 0 "mask", .getGlobal 0 "mask"]
  let placed := nodes.foldl (fun g n => (Graph.addNode g n).2) {}
  placed.attach ⟨1, 0⟩ ⟨0, 0⟩

def informed : Session := { Session.standard with cache := Cache.empty.set "mask" ⟨"MASK"⟩ }

/-- The first guard answers with the recorded type, the second with the type that the first one has
fed to the Set node. -/
theorem guards_refresh_once_looped :
    let hooks := [retitling "menu" none, .guard, retitling "box" (some ⟨"LATENT"⟩), .guard]
    let r : Request := ⟨1, .searchBox 0⟩
    .guard ∈ hooks ∧ (∀ hook ∈ hooks, hook.Retitles) ∧
    (∃ asked s' g', present hooks false r informed looped (fun asked g => (asked, g)) =
        (asked, s', g') ∧
      SameButTitles (s', g') (informed.refresh looped r).2 ∧
      asked.typeFilter = some ⟨"MASK"⟩ ∧
      (answers false r hooks informed looped)[3]? = some (informed.refresh looped r).1) ∧
    Cache.live? looped "mask" = none ∧
    Cache.live? (informed.refresh looped r).2.2 "mask" = some ⟨"MASK"⟩ := by
  intro hooks r
  have hguard : Hook.guard ∈ hooks := by simp [hooks]
  have hh : ∀ hook ∈ hooks, hook.Retitles := by
    simp [hooks, retitles_retitling, show Hook.guard.Retitles from trivial]
  obtain ⟨-, hpresent, -⟩ := guards_refresh_once
  obtain ⟨asked, s', g', heq, hsame, hfilter, hanswers⟩ :=
    hpresent Overrides hooks r informed looped (fun asked g => (asked, g)) hguard hh
  have hlast : lastFilter? (answers false r hooks informed looped) = some ⟨"MASK"⟩ := by decide
  exact ⟨hguard, hh, ⟨asked, s', g', heq, hsame, hfilter.trans hlast, hanswers 3 rfl⟩, by decide,
    by decide⟩

end NodeVariables
