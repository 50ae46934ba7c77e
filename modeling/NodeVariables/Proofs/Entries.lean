import NodeVariables.Proofs.Refresh
import NodeVariables.Proofs.Targeted
/-!
How the recorded type of a variable changes. Of itself a session records types of variables with Set
nodes only, drops a type only when it purges, and records that a variable may be of any type only if
the graph gives it no other, before or after: what a session displays on its way can take a concrete
type from an output, but then no Set node finds it there afterwards either.
-/
namespace NodeVariables

theorem isWildcard_firstConcrete? {types : List TypeName} :
    ((firstConcrete? types).getD .wildcard).isWildcard = true ↔
      ∀ type ∈ types, type.isWildcard = true := by
  cases hc : firstConcrete? types with
  | none =>
    have hnone : ∀ type ∈ types, type.isWildcard = true := by
      simpa [TypeName.isConcrete] using List.find?_eq_none.1 hc
    exact ⟨fun _ => hnone, fun _ => rfl⟩
  | some type =>
    have hconcrete := isConcrete_of_firstConcrete? hc
    have hmem : type ∈ types := List.mem_of_find?_eq_some hc
    simp only [TypeName.isConcrete, Bool.not_eq_true'] at hconcrete
    simp only [Option.getD_some, hconcrete, Bool.false_eq_true, false_iff]
    intro hall
    simp [hall type hmem] at hconcrete

namespace Graph

variable {g g' : Graph} {palette : Palette} {id : NodeId} {name : String} {type : TypeName}

/-- A variable has a Set node, but none of its Set nodes is fed a concrete type. -/
def Wild (g : Graph) (name : String) : Prop :=
  ∃ type, g.variableType? name = some type ∧ type.isWildcard

/-- Another graph of the same build shows a wildcard wherever it does not show what a graph
shows. -/
structure Fades (g g' : Graph) : Prop where
  bare : g'.bare = g.bare
  looks : ∀ p look, g'.look? p = some look → look.type.isWildcard ∨ g.look? p = some look

theorem sourceTypeAt_isWildcard : (g.sourceTypeAt id).isWildcard = true ↔
    ∀ p ∈ g.feeders id, ∀ look, g.look? p = some look → look.type.isWildcard = true := by
  rw [sourceTypeAt_eq, isWildcard_firstConcrete?]
  constructor
  · intro h p hp look hlook
    exact h look.type (List.mem_filterMap.2 ⟨p, hp, by rw [hlook, Option.map_some]⟩)
  · intro h type htype
    obtain ⟨p, hp, hshown⟩ := List.mem_filterMap.1 htype
    obtain ⟨look, hlook, rfl⟩ := Option.map_eq_some_iff.1 hshown
    exact h p hp look hlook

theorem wild_iff : g.Wild name ↔ (∃ id, g.defines? id = some name) ∧
    ∀ id, g.defines? id = some name → (g.sourceTypeAt id).isWildcard = true := by
  have hall : (∀ type ∈ (g.setNodeIds name).map g.sourceTypeAt, type.isWildcard = true) ↔
      ∀ id, g.defines? id = some name → (g.sourceTypeAt id).isWildcard = true := by
    simp [mem_setNodeIds]
  rw [← variableType?_isSome_iff, ← hall, ← isWildcard_firstConcrete?, Wild, variableType?_eq]
  cases (g.setNodeIds name).head? <;> simp

/-- What is not concrete does not become concrete by fading. -/
theorem Wild.of_fades (hw : g.Wild name) (h : g.Fades g') : g'.Wild name := by
  rw [wild_iff] at hw ⊢
  obtain ⟨⟨id, hd⟩, hall⟩ := hw
  refine ⟨⟨id, by rw [defines?_of_bare_eq h.bare, hd]⟩, fun id hd => ?_⟩
  rw [defines?_of_bare_eq h.bare] at hd
  rw [sourceTypeAt_isWildcard, feeders_of_bare_eq h.bare]
  intro p hp look hlook
  rcases h.looks p look hlook with hwild | hsame
  · exact hwild
  · exact sourceTypeAt_isWildcard.1 (hall id hd) p hp look hsame

theorem binds_of_variableType? (hv : g.variableType? name = some type) : g.binds name :=
  binds_iff.2 (variableType?_isSome_iff.1 (by rw [hv, Option.isSome_some]))

theorem fades_refl (g : Graph) : g.Fades g := ⟨rfl, fun _ _ h => .inr h⟩

theorem fades_propagate (h : type.isWildcard) (palette : Palette) (name : String) (g : Graph) :
    g.Fades (g.propagate palette name type).2 := by
  refine ⟨bare_propagate .., fun p look hlook => ?_⟩
  rw [look?_propagate] at hlook
  split at hlook
  · obtain ⟨-, -, rfl⟩ := Option.map_eq_some_iff.1 hlook
    exact .inl h
  · exact .inr hlook

end Graph

namespace Session

/-- What a session does of itself, that is, without being told a type. -/
inductive Act where
  | pass
  | refresh (r : Request)
  | variableType (name : String)
  | handle (event : Event) (now : Instant) (untold : ∀ a, event ≠ .announced a)

def act (s : Session) (g : Graph) : Act → Session × Graph
  | .pass => s.sweep g
  | .refresh r => (s.refresh g r).2
  | .variableType name => ((s.variableType g name).2, g)
  | .handle event now _ => s.handle g event now

/-- An act that may purge a variable: a Set node of the variable was removed or got another name. -/
def Purges (s : Session) (g : Graph) (name : String) : Act → Prop
  | .handle (.nodeRemoved node) _ _ => s.settings.purgeOnSetRemoved ∧ node.isSetOf name
  | .handle (.renamed id previous) _ _ =>
    s.settings.purgeOnSetRemoved ∧ previous = name ∧ (g.node? id).any Node.isSet
  | _ => False

/-- How the recorded type of a variable may change from one graph to the next. -/
inductive Change (g g' : Graph) (name : String) (purges : Prop) (before : Option TypeName) :
    Option TypeName → Prop where
  | kept : Change g g' name purges before before
  | recorded {type : TypeName} (bound : g.binds name)
      (wild : type.isWildcard → g.Wild name ∨ g'.Wild name) :
      Change g g' name purges before (some type)
  | purged (unbound : g.binds name = false) (allowed : purges) :
      Change g g' name purges before none

variable {s : Session} {g g' : Graph} {id : NodeId} {name other : String} {purges : Prop}
  {before after : Option TypeName}

namespace Change

theorem of_fades {g'' : Graph} (h : Change g g' name purges before after)
    (hf : g'.Fades g'') : Change g g'' name purges before after := by
  cases h with
  | kept => exact .kept
  | recorded bound wild => exact .recorded bound fun hw => (wild hw).imp_right (·.of_fades hf)
  | purged unbound allowed => exact .purged unbound allowed

variable (h : Change g g' name purges before after)

include h

theorem eq_or_purged (hb : g.binds name = false) : after = before ∨ (purges ∧ after = none) := by
  cases h with
  | kept => exact .inl rfl
  | recorded bound wild => simp [bound] at hb
  | purged unbound allowed => exact .inr ⟨allowed, rfl⟩

theorem isSome_or_purged (hb : before.isSome) :
    after.isSome ∨ (g.binds name = false ∧ purges) := by
  cases h with
  | kept => exact .inl hb
  | recorded bound wild => exact .inl rfl
  | purged unbound allowed => exact .inr ⟨unbound, allowed⟩

theorem wild_of_isWildcard {type : TypeName} (hafter : after = some type) (hw : type.isWildcard)
    (hne : before ≠ some type) : g.Wild name ∨ g'.Wild name := by
  cases h with
  | kept => exact absurd hafter hne
  | recorded bound wild =>
    obtain rfl := Option.some.inj hafter
    exact wild hw
  | purged unbound allowed => simp at hafter

theorem concrete_of_not_wild {type : TypeName} (hbefore : before = some type)
    (hc : type.isConcrete) (bound : g.binds name) (hg : ¬g.Wild name) (hg' : ¬g'.Wild name) :
    ∃ later, after = some later ∧ later.isConcrete := by
  cases h with
  | kept => exact ⟨type, hbefore, hc⟩
  | recorded bound wild =>
    refine ⟨_, rfl, ?_⟩
    rw [TypeName.isConcrete, Bool.not_eq_true', Bool.eq_false_iff]
    exact fun hw => (wild hw).elim hg hg'
  | purged unbound allowed => simp [bound] at unbound

end Change

theorem change_sweep (s : Session) (g g' : Graph) (name : String) :
    Change g g' name purges (s.cache.get? name) ((s.sweep g).1.cache.get? name) := by
  have hget : (s.sweep g).1.cache.get? name =
      (g.variableType? name).or (s.cache.get? name) := Graph.get?_recorded s.cache g name
  rw [hget]
  cases hv : g.variableType? name with
  | none => exact .kept
  | some type => exact .recorded (Graph.binds_of_variableType? hv) fun hw => .inl ⟨type, hv, hw⟩

/-- A lookup records concrete types only. -/
theorem change_variableType (s : Session) (g g' : Graph) (looked name : String) :
    Change g g' name purges (s.cache.get? name)
      ((s.variableType g looked).2.cache.get? name) := by
  have hget : (s.variableType g looked).2.cache.get? name =
      if name = looked then (Cache.live? g looked).or (s.cache.get? name)
      else s.cache.get? name := Cache.get?_lookup ..
  rw [hget]
  split
  · next hname =>
    subst hname
    cases hl : Cache.live? g name with
    | none => exact .kept
    | some type =>
      obtain ⟨hv, hc⟩ := Option.filter_eq_some_iff.1 hl
      refine .recorded (Graph.binds_of_variableType? hv) fun hw => ?_
      simp [TypeName.isConcrete, hw] at hc
  · exact .kept

theorem change_updateGet (s : Session) (g g' : Graph) (id : NodeId) (name : String) :
    Change g g' name purges (s.cache.get? name) ((s.updateGet g id).1.cache.get? name) := by
  unfold updateGet
  split
  · exact .kept
  · exact change_variableType ..

theorem change_refresh (s : Session) (g g' : Graph) (r : Request) (name : String) :
    Change g g' name purges (s.cache.get? name) ((s.refresh g r).2.1.cache.get? name) := by
  unfold refresh currentType
  split
  · exact .kept
  · split
    · exact .kept
    · split
      · dsimp only
        split
        · exact .kept
        · exact change_variableType ..
      · exact .kept

/-- The type that is recorded is the one that the variable has once the Set node shows its own type.
The Get nodes that then show it can only take concrete types from Set nodes if it is none. -/
theorem change_updateSet (s : Session) (hs : ∀ n, g.node? id = some n → n.isSet) (name : String) :
    Change g (s.updateSet g id).2 name purges (s.cache.get? name)
      ((s.updateSet g id).1.cache.get? name) := by
  unfold updateSet
  split
  · exact .kept
  · next n hn =>
    have hshown : (s.display g id (g.sourceType n)).bare = g.bare :=
      bare_display (fun m hm => by simp [Node.isGlobal, hs m hm]) s (g.sourceType n)
    generalize g.sourceType n = own at hshown ⊢
    dsimp only
    split
    · exact .kept
    · next v hv =>
      have hd : g.defines? id = some v := by simp [Graph.defines?, Node.defines?, hn, hs n hn, hv]
      have hd' : (s.display g id own).defines? id = some v := by
        rw [Graph.defines?_of_bare_eq hshown, hd]
      obtain ⟨type, htype⟩ := Option.isSome_iff_exists.1
        (Graph.variableType?_isSome_iff.2 ⟨id, hd'⟩)
      rw [htype, Option.getD_some]
      have hget : (s.record (s.display g id own) v type).1.cache.get? name =
          if name = v ∧ v ≠ "" then some type else s.cache.get? name := Cache.get?_set ..
      rw [hget]
      split
      · next hname =>
        obtain ⟨rfl, -⟩ := hname
        refine .recorded (Graph.binds_iff.2 ⟨id, hd⟩) fun hw => .inr ?_
        have hwild : (s.display g id own).Wild name := ⟨type, htype, hw⟩
        exact hwild.of_fades (Graph.fades_propagate hw ..)
      · exact .kept

theorem fades_purge (s : Session) (g : Graph) (name : String) : g.Fades (s.purge g name).2 := by
  unfold purge
  split
  · exact Graph.fades_propagate rfl ..
  · exact Graph.fades_refl g

theorem get?_purge (s : Session) (g : Graph) (purged name : String) :
    (s.purge g purged).1.cache.get? name = s.cache.get? name ∨
      s.settings.purgeOnSetRemoved ∧ purged = name ∧ g.binds name = false ∧
        (s.purge g purged).1.cache.get? name = none := by
  unfold purge
  split
  · next hp =>
    simp only [Bool.and_eq_true, Bool.not_eq_true'] at hp
    by_cases hname : name = purged
    · subst hname
      exact .inr ⟨hp.1.1.1, rfl, hp.1.2, (Cache.get?_forget ..).trans (if_pos rfl)⟩
    · exact .inl ((Cache.get?_forget ..).trans (if_neg hname))
  · exact .inl rfl

theorem change_handleRenamed (s : Session) (g : Graph) (id : NodeId) (previous name : String)
    (now : Instant) (untold : ∀ a, Event.renamed id previous ≠ .announced a) :
    Change g (s.handleRenamed g id previous).2 name
      (s.Purges g name (.handle (.renamed id previous) now untold)) (s.cache.get? name)
      ((s.handleRenamed g id previous).1.cache.get? name) := by
  unfold handleRenamed
  split
  · exact .kept
  · next n hn =>
    split
    · next hs =>
      have hset : ∀ m, g.node? id = some m → m.isSet := by
        intro m hm
        obtain rfl : n = m := Option.some.inj (hn.symm.trans hm)
        exact hs
      have hupdate : Change g (s.updateSet g id).2 name
          (s.Purges g name (.handle (.renamed id previous) now untold)) (s.cache.get? name)
          ((s.updateSet g id).1.cache.get? name) := change_updateSet s hset name
      -- what is purged has no Set node, so the update before has not recorded it
      rcases get?_purge (s.updateSet g id).1 (s.updateSet g id).2 previous name with
        hkept | ⟨hon, hprevious, hunbound, hnone⟩
      · rw [hkept]
        exact hupdate.of_fades (fades_purge ..)
      · rw [hnone]
        rw [Graph.binds_of_bare_eq (bare_updateSet hset s)] at hunbound
        rw [settings_updateSet] at hon
        exact .purged hunbound ⟨hon, hprevious, by simp [hn, hs]⟩
    · split
      · exact change_updateGet ..
      · exact .kept

theorem change_handleRemoved (s : Session) (g : Graph) (node : Node) (name : String)
    (now : Instant) (untold : ∀ a, Event.nodeRemoved node ≠ .announced a) :
    Change g (s.handleRemoved g node).2 name
      (s.Purges g name (.handle (.nodeRemoved node) now untold)) (s.cache.get? name)
      ((s.handleRemoved g node).1.cache.get? name) := by
  unfold handleRemoved
  split
  · next v hv =>
    split
    · next hs =>
      rcases get?_purge s g v name with hkept | ⟨hon, rfl, hunbound, hnone⟩
      · rw [hkept]
        exact .kept
      · rw [hnone]
        exact .purged hunbound ⟨hon, by simp [Node.isSetOf, hs, hv]⟩
    · exact .kept
  · exact .kept

theorem change_handle (s : Session) (g : Graph) (event : Event) (now : Instant)
    (untold : ∀ a, event ≠ .announced a) (name : String) :
    Change g (s.handle g event now).2 name (s.Purges g name (.handle event now untold))
      (s.cache.get? name) ((s.handle g event now).1.cache.get? name) := by
  have hadded (node : NodeId) : (s.handleAdded g node now).cache = s.cache := by
    unfold handleAdded
    split <;> rfl
  cases event with
  | nodeCreated node =>
    rw [handle, hadded]
    exact .kept
  | nodeLoaded node =>
    rw [handle, hadded]
    exact .kept
  | connectionsChanged node side slot connected =>
    rw [handle]
    split
    · next hfeeds =>
      apply change_updateSet
      intro n hn
      simp only [feedsSet, hn, Bool.and_eq_true] at hfeeds
      exact hfeeds.2.1
    · exact .kept
  | renamed node previous => exact change_handleRenamed ..
  | nodeRemoved node => exact change_handleRemoved ..
  | announced a => exact absurd rfl (untold a)
  | executed => exact change_sweep ..

theorem change_act (s : Session) (g : Graph) (a : Act) (name : String) :
    Change g (s.act g a).2 name (s.Purges g name a) (s.cache.get? name)
      ((s.act g a).1.cache.get? name) := by
  cases a with
  | pass => exact change_sweep ..
  | refresh r => exact change_refresh ..
  | variableType looked => exact change_variableType ..
  | handle event now untold => exact change_handle ..

/-- What an act does to the recorded type of a variable: nothing or a purge if the variable has no
Set node; a recorded type goes by a purge only; and any type is recorded anew only if the graph
gives the variable no other before or after the act, so that a concrete type lasts while the graph
gives one. -/
theorem entry_act (s : Session) (g : Graph) (a : Act) (name : String) :
    let before := s.cache.get? name
    let after := (s.act g a).1.cache.get? name
    (g.binds name = false → after = before ∨ (s.Purges g name a ∧ after = none)) ∧
    (before.isSome → after.isSome ∨ (g.binds name = false ∧ s.Purges g name a)) ∧
    (∀ type, after = some type → type.isWildcard → before ≠ some type →
      g.Wild name ∨ (s.act g a).2.Wild name) ∧
    (∀ type, before = some type → type.isConcrete → g.binds name → ¬g.Wild name →
      ¬(s.act g a).2.Wild name → ∃ later, after = some later ∧ later.isConcrete) := by
  intro before after
  have hchange : Change g (s.act g a).2 name (s.Purges g name a) before after :=
    change_act s g a name
  refine ⟨hchange.eq_or_purged, hchange.isSome_or_purged, ?_, ?_⟩
  · intro type hafter hw hne
    exact hchange.wild_of_isWildcard hafter hw hne
  · intro type hbefore hc hb hg hg'
    exact hchange.concrete_of_not_wild hbefore hc hb hg hg'

def detached : Graph := chained.removeLink 0

def detaching : Act :=
  .handle (.connectionsChanged 1 .input 0 false) 0 fun _ h => Event.noConfusion h

/-- The recorded type gives way, as the Set node is fed nothing any more. -/
theorem entry_detached :
    (sweeps 2 standard chained).1.cache.get? "image" = some ⟨"IMAGE"⟩ ∧
    ((sweeps 2 standard chained).1.act detached detaching).1.cache.get? "image" =
      some .wildcard ∧
    (detached.Wild "image" ∨ ((sweeps 2 standard chained).1.act detached detaching).2.Wild
      "image") := by
  have hbefore : (sweeps 2 standard chained).1.cache.get? "image" = some ⟨"IMAGE"⟩ := by decide
  have hafter : ((sweeps 2 standard chained).1.act detached detaching).1.cache.get? "image" =
      some .wildcard := by decide
  have hne : (sweeps 2 standard chained).1.cache.get? "image" ≠ some .wildcard := by decide
  obtain ⟨-, -, hwild, -⟩ := entry_act (sweeps 2 standard chained).1 detached detaching "image"
  exact ⟨hbefore, hafter, hwild .wildcard hafter rfl hne⟩

end Session

end NodeVariables
