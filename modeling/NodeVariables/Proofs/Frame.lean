import NodeVariables.Graph.Edit
import NodeVariables.Menu
import NodeVariables.Proofs.Touched
import NodeVariables.Proofs.UpToDate

namespace NodeVariables

open NodeVariables.Graph (Displayed)

namespace Graph

variable {g g' : Graph} {id : NodeId} {n : Node}

theorem isVariablePort_valuePort (h : ∀ n, g.node? id = some n → n.isGlobal) :
    g.IsVariablePort (valuePort id) :=
  ⟨rfl, h⟩

theorem displayed_propagate (palette : Palette) (name : String) (type : TypeName) (g : Graph) :
    Displayed palette g (g.propagate palette name type).2 := by
  apply Displayed.displayAll
  intro x hx
  obtain ⟨id, hid, rfl⟩ := List.mem_map.1 hx
  exact isVariablePort_of_reads? (mem_getNodeIds.1 hid)

theorem bare_propagate (palette : Palette) (name : String) (type : TypeName) (g : Graph) :
    (g.propagate palette name type).2.bare = g.bare :=
  (displayed_propagate ..).bare_eq

theorem displayed_pass (hk : g.Keyed) (palette : Palette) (c : Cache) :
    Displayed palette g (g.pass palette c).2.2 := by
  have hk₁ := keyed_displayAll_setTypes hk palette
  rw [pass_eq]
  exact (Displayed.displayAll (isVariablePort_of_mem_setTypes hk)).trans
    (Displayed.displayAll (isVariablePort_of_mem_getTypes hk₁))

end Graph

/-- A hook that asks for something but leaves the graph to the session. -/
def Hook.Reads : Hook → Prop
  | .guard => True
  | .custom run => ∀ g r, (run g r).2 = g

namespace Session

inductive Step (s : Session) (g : Graph) : Session × Graph → Prop where
  | handle (event : Event) (now : Instant) : Step s g (s.handle g event now)
  | poll (now : Instant) : Step s g (s.poll g now).2
  | pass : Step s g (s.pass g).2
  | propagate (name : String) (type : TypeName) : Step s g (s, (s.propagate g name type).2)
  | variableType (name : String) : Step s g ((s.variableType g name).2, g)
  | refresh (r : Request) : Step s g (s.refresh g r).2
  | present {α : Type} (hooks : List Hook) (busy : Bool) (r : Request)
      (openMenu : Overrides → Graph → α × Graph) (hooks_read : ∀ hook ∈ hooks, hook.Reads)
      (menu_reads : ∀ overrides g, (openMenu overrides g).2 = g) :
      Step s g (present hooks busy r s g openMenu).2
  | start (now : Instant) : Step s g (s.start now, g)
  | reset : Step s g (s.reset, g)

variable {s : Session} {g : Graph} {id : NodeId}

theorem keyed_sweep (s : Session) (hk : g.Keyed) : (s.sweep g).2.Keyed :=
  Graph.keyed_of_bare_eq (s.bare_sweep hk) hk

theorem sweeps_succ (n : Nat) (s : Session) (g : Graph) :
    sweeps (n + 1) s g = (sweeps n s g).1.sweep (sweeps n s g).2 := by
  induction n generalizing s g with
  | zero => rfl
  | succ n ih => rw [sweeps_eq, ih, ← sweeps_eq]

section CacheOnly

/-- Two sessions that differ in the recorded types at most. -/
def CacheOnly (s s' : Session) : Prop := s' = { s with cache := s'.cache }

theorem CacheOnly.trans {s s' s'' : Session} (h : s.CacheOnly s') (h' : s'.CacheOnly s'') :
    s.CacheOnly s'' := by
  rw [CacheOnly, h', h]

section Fields

variable {s' : Session} (h : s.CacheOnly s')

include h

theorem CacheOnly.settings_eq : s'.settings = s.settings := by rw [h]

theorem CacheOnly.palette_eq : s'.palette = s.palette := by rw [h]

theorem CacheOnly.timer_eq : s'.timer = s.timer := by rw [h]

end Fields

theorem cacheOnly_updateSet (s : Session) (g : Graph) (id : NodeId) :
    s.CacheOnly (s.updateSet g id).1 := by
  unfold updateSet
  split
  · rfl
  · dsimp only
    split <;> rfl

theorem cacheOnly_updateGet (s : Session) (g : Graph) (id : NodeId) :
    s.CacheOnly (s.updateGet g id).1 := by
  unfold updateGet
  split <;> rfl

theorem cacheOnly_purge (s : Session) (g : Graph) (name : String) :
    s.CacheOnly (s.purge g name).1 := by
  unfold purge
  split <;> rfl

theorem cacheOnly_handleRenamed (s : Session) (g : Graph) (id : NodeId) (previous : String) :
    s.CacheOnly (s.handleRenamed g id previous).1 := by
  unfold handleRenamed
  split
  · rfl
  · split
    · exact (cacheOnly_updateSet ..).trans (cacheOnly_purge ..)
    · split
      · exact cacheOnly_updateGet ..
      · rfl

theorem cacheOnly_handleRemoved (s : Session) (g : Graph) (node : Node) :
    s.CacheOnly (s.handleRemoved g node).1 := by
  unfold handleRemoved
  split
  · split
    · exact cacheOnly_purge ..
    · rfl
  · rfl

theorem cacheOnly_handleAnnounced (s : Session) (g : Graph) (a : Announcement) :
    s.CacheOnly (s.handleAnnounced g a).1 := by
  unfold handleAnnounced
  split <;> rfl

theorem cacheOnly_sweeps (n : Nat) (s : Session) (g : Graph) :
    s.CacheOnly (sweeps n s g).1 := by
  induction n with
  | zero => rfl
  | succ n ih =>
    rw [sweeps_succ]
    exact ih.trans rfl

theorem cacheOnly_refresh (s : Session) (g : Graph) (r : Request) :
    s.CacheOnly (s.refresh g r).2.1 := by
  unfold refresh currentType
  split
  · rfl
  · split
    · rfl
    · split
      · dsimp only
        split <;> rfl
      · rfl

theorem cacheOnly_run (busy : Bool) (r : Request) (s : Session) (g : Graph) (hook : Hook) :
    s.CacheOnly (hook.run busy r s g).2.1 := by
  cases hook with
  | guard =>
    rw [Hook.run]
    split
    · rfl
    · exact cacheOnly_refresh ..
  | custom run => rfl

theorem cacheOnly_runAll (busy : Bool) (r : Request) (hooks : List Hook) (asked : Overrides)
    (s : Session) (g : Graph) :
    s.CacheOnly (Hook.runAll busy r hooks asked s g).2.1 := by
  induction hooks generalizing asked s g with
  | nil => rfl
  | cons hook rest ih => exact (cacheOnly_run busy r s g hook).trans (ih ..)

theorem palette_sweeps (n : Nat) (s : Session) (g : Graph) :
    (sweeps n s g).1.palette = s.palette :=
  (cacheOnly_sweeps ..).palette_eq

theorem palette_refresh (s : Session) (g : Graph) (r : Request) :
    (s.refresh g r).2.1.palette = s.palette :=
  (cacheOnly_refresh ..).palette_eq

theorem settings_updateSet (s : Session) (g : Graph) (id : NodeId) :
    (s.updateSet g id).1.settings = s.settings :=
  (cacheOnly_updateSet ..).settings_eq

end CacheOnly

section Displays

theorem displayed_display (h : ∀ n, g.node? id = some n → n.isGlobal) (s : Session)
    (type : TypeName) : Displayed s.palette g (s.display g id type) :=
  .display .refl type (Graph.isVariablePort_valuePort h)

theorem bare_display (h : ∀ n, g.node? id = some n → n.isGlobal) (s : Session) (type : TypeName) :
    (s.display g id type).bare = g.bare :=
  (displayed_display h s type).bare_eq

theorem displayed_record (s : Session) (g : Graph) (name : String) (type : TypeName) :
    Displayed s.palette g (s.record g name type).2 :=
  Graph.displayed_propagate ..

theorem displayed_updateSet (h : ∀ n, g.node? id = some n → n.isSet) (s : Session) :
    Displayed s.palette g (s.updateSet g id).2 := by
  unfold updateSet
  split
  · exact .refl
  · next n hn =>
    have hglobal : ∀ n, g.node? id = some n → n.isGlobal := by
      intro n hn
      simp [Node.isGlobal, h n hn]
    have hown := displayed_display hglobal s (g.sourceType n)
    split
    · exact hown
    · exact hown.trans (displayed_record ..)

theorem bare_updateSet (h : ∀ n, g.node? id = some n → n.isSet) (s : Session) :
    (s.updateSet g id).2.bare = g.bare :=
  (displayed_updateSet h s).bare_eq

theorem displayed_updateGet (h : ∀ n, g.node? id = some n → n.isGet) (s : Session) :
    Displayed s.palette g (s.updateGet g id).2 := by
  have hglobal : ∀ n, g.node? id = some n → n.isGlobal := by
    intro n hn
    simp [Node.isGlobal, h n hn]
  unfold updateGet
  split
  · exact displayed_display hglobal s .wildcard
  · exact displayed_display hglobal s _

theorem displayed_purge (s : Session) (g : Graph) (name : String) :
    Displayed s.palette g (s.purge g name).2 := by
  unfold purge
  split
  · exact Graph.displayed_propagate ..
  · exact .refl

theorem displayed_handleRenamed (s : Session) (g : Graph) (id : NodeId) (previous : String) :
    Displayed s.palette g (s.handleRenamed g id previous).2 := by
  unfold handleRenamed
  split
  · exact .refl
  · next n hn =>
    split
    · next hset =>
      have hpurge := displayed_purge (s.updateSet g id).1 (s.updateSet g id).2 previous
      rw [(cacheOnly_updateSet s g id).palette_eq] at hpurge
      exact (displayed_updateSet (by simp_all) s).trans hpurge
    · split
      · next hget => exact displayed_updateGet (by simp_all) s
      · exact .refl

theorem displayed_handleRemoved (s : Session) (g : Graph) (node : Node) :
    Displayed s.palette g (s.handleRemoved g node).2 := by
  unfold handleRemoved
  split
  · split
    · exact displayed_purge ..
    · exact .refl
  · exact .refl

theorem displayed_handleAnnounced (s : Session) (g : Graph) (a : Announcement) :
    Displayed s.palette g (s.handleAnnounced g a).2 := by
  unfold handleAnnounced
  split
  · exact .refl
  · exact displayed_record ..

theorem displayed_sweeps (hk : g.Keyed) (n : Nat) : Displayed s.palette g (sweeps n s g).2 := by
  induction n with
  | zero => exact .refl
  | succ n ih =>
    have hkn : (sweeps n s g).2.Keyed := Graph.keyed_of_bare_eq ih.bare_eq hk
    have hlast : Displayed (sweeps n s g).1.palette (sweeps n s g).2
        ((sweeps n s g).1.sweep (sweeps n s g).2).2 := Graph.displayed_pass hkn ..
    rw [palette_sweeps] at hlast
    rw [sweeps_succ]
    exact ih.trans hlast

theorem bare_sweeps (hk : g.Keyed) (n : Nat) : (sweeps n s g).2.bare = g.bare :=
  (displayed_sweeps hk n).bare_eq

theorem keyed_sweeps (hk : g.Keyed) (n : Nat) : (sweeps n s g).2.Keyed :=
  Graph.keyed_of_bare_eq (bare_sweeps hk n) hk

theorem displayed_handle (hk : g.Keyed) (s : Session) (event : Event) (now : Instant) :
    Displayed s.palette g (s.handle g event now).2 := by
  cases event with
  | nodeCreated node => exact .refl
  | nodeLoaded node => exact .refl
  | connectionsChanged node side slot connected =>
    rw [handle]
    split
    · next hfeeds =>
      apply displayed_updateSet
      intro n hn
      simp only [feedsSet, hn, Bool.and_eq_true] at hfeeds
      exact hfeeds.2.1
    · exact .refl
  | renamed node previous => exact displayed_handleRenamed ..
  | nodeRemoved node => exact displayed_handleRemoved ..
  | announced a => exact displayed_handleAnnounced ..
  | executed => exact Graph.displayed_pass hk ..

theorem bare_handle (hk : g.Keyed) (s : Session) (event : Event) (now : Instant) :
    (s.handle g event now).2.bare = g.bare :=
  (displayed_handle hk s event now).bare_eq

theorem displayed_refresh (s : Session) (g : Graph) (r : Request) :
    Displayed s.palette g (s.refresh g r).2.2 := by
  unfold refresh
  split
  · exact .refl
  · next n hn =>
    obtain ⟨hnode, hglobal⟩ := Option.filter_eq_some_iff.1 hn
    split
    · exact .refl
    · next name hv =>
      split
      · have hpalette : (s.currentType g n r.node name).2.palette = s.palette := by
          unfold currentType
          split <;> rfl
        have hglobal' : ∀ m, g.node? r.node = some m → m.isGlobal := by simp_all
        rw [← hpalette]
        exact displayed_display hglobal' ..
      · exact .refl

theorem bare_refresh (s : Session) (g : Graph) (r : Request) :
    (s.refresh g r).2.2.bare = g.bare :=
  (displayed_refresh s g r).bare_eq

theorem displayed_runAll (busy : Bool) (r : Request) {hooks : List Hook}
    (h : ∀ hook ∈ hooks, hook.Reads) (asked : Overrides) (s : Session) (g : Graph) :
    Displayed s.palette g (Hook.runAll busy r hooks asked s g).2.2 := by
  induction hooks generalizing asked s g with
  | nil => exact .refl
  | cons hook rest ih =>
    have hhead : Displayed s.palette g (hook.run busy r s g).2.2 := by
      cases hook with
      | guard =>
        rw [Hook.run]
        split
        · exact .refl
        · exact displayed_refresh ..
      | custom run =>
        have hrun : (run g r).2 = g := h (.custom run) (by simp) g r
        show Displayed s.palette g (run g r).2
        rw [hrun]
        exact .refl
    have hrest := ih (fun hook hmem => h hook (List.mem_cons_of_mem _ hmem))
      (asked.merge (hook.run busy r s g).1) (hook.run busy r s g).2.1 (hook.run busy r s g).2.2
    rw [(cacheOnly_run busy r s g hook).palette_eq] at hrest
    exact hhead.trans hrest

theorem displayed_present {α : Type} {hooks : List Hook} (busy : Bool) (r : Request)
    {openMenu : Overrides → Graph → α × Graph} (hh : ∀ hook ∈ hooks, hook.Reads)
    (hm : ∀ overrides g, (openMenu overrides g).2 = g) (s : Session) (g : Graph) :
    Displayed s.palette g (present hooks busy r s g openMenu).2.2 := by
  have hrun := displayed_runAll busy r hh .none s g
  rw [← hm (Hook.runAll busy r hooks .none s g).1 (Hook.runAll busy r hooks .none s g).2.2] at hrun
  exact hrun

theorem bare_present {α : Type} {hooks : List Hook} (busy : Bool) (r : Request)
    {openMenu : Overrides → Graph → α × Graph} (hh : ∀ hook ∈ hooks, hook.Reads)
    (hm : ∀ overrides g, (openMenu overrides g).2 = g) (s : Session) (g : Graph) :
    (present hooks busy r s g openMenu).2.2.bare = g.bare :=
  (displayed_present busy r hh hm s g).bare_eq

end Displays

/-- A step of a session displays types on value outputs of Set and Get nodes and leaves the graph
alone otherwise. -/
theorem Step.displayed {next : Session × Graph} (h : Step s g next) (hk : g.Keyed) :
    Displayed s.palette g next.2 := by
  cases h with
  | handle event now => exact displayed_handle hk s event now
  | poll now =>
    exact displayed_sweeps (s := { s with timer := (s.timer.due now).2 }) hk _
  | pass => exact Graph.displayed_pass hk ..
  | propagate name type => exact Graph.displayed_propagate ..
  | variableType name => exact .refl
  | refresh r => exact displayed_refresh ..
  | present hooks busy r openMenu hh hm => exact displayed_present busy r hh hm s g
  | start now => exact .refl
  | reset => exact .refl

/-- No step of a session changes the bare graph. -/
theorem Step.bare_eq {next : Session × Graph} (h : Step s g next) (hk : g.Keyed) :
    next.2.bare = g.bare :=
  (h.displayed hk).bare_eq

/-- Whatever a session does with a graph, it changes the looks of value outputs of Set and Get nodes
at most, in its own colors, and asks for a redraw of every node whose type changes. -/
theorem touched_of_step {next : Session × Graph} (h : Step s g next) (hk : g.Keyed) :
    g.Touched s.palette next.2 :=
  (h.displayed hk).touched

/-- A loader feeds a Set node whose variable was called `old` before. One Get node still reads the
old name and shows its type, another one reads the new name. -/
def moved : Graph :=
  let loader := Node.new 0 "LoadImage" |>.addOutput "IMAGE" ⟨"IMAGE"⟩
  let nodes := [loader, .setGlobal 0 "new", .getGlobal 0 "old", .getGlobal 0 "new"]
  let placed := nodes.foldl (fun g n => (Graph.addNode g n).2) {}
  ((placed.attach ⟨0, 0⟩ ⟨1, 0⟩).display .builtin (Graph.valuePort 2) ⟨"IMAGE"⟩).2

def forgetful : Session :=
  { standard with
    settings := { purgeOnSetRemoved := true }
    cache := Cache.empty.set "old" ⟨"IMAGE"⟩ }

theorem touched_moved :
    Step forgetful moved (forgetful.handle moved (.renamed 1 "old") 0) ∧ moved.Keyed ∧
    moved.Touched forgetful.palette (forgetful.handle moved (.renamed 1 "old") 0).2 ∧
    moved.redraws = [2] ∧
    (forgetful.handle moved (.renamed 1 "old") 0).2.redraws = [2] ++ [1, 3, 2] := by
  have hstep : Step forgetful moved (forgetful.handle moved (.renamed 1 "old") 0) := .handle ..
  have hk : moved.Keyed := by decide
  exact ⟨hstep, hk, touched_of_step hstep hk, by decide, by decide⟩

end Session

end NodeVariables
