import NodeVariables.Proofs.Refresh
/-!
The guard before a menu. The type that a refresh shows may feed the very Set nodes that decide it,
yet the first concrete type among what feeds them stays the same. So a second refresh finds and
changes nothing new, on any graph, and several guards with hooks between them that change titles do
what a single guard does.
-/
namespace NodeVariables

/-- Where each element finds what it found before or one and the same thing, so does the list. -/
theorem findSome?_eq_or {α β : Type} {f f' : α → Option β} {b : β} {l : List α}
    (h : ∀ a ∈ l, f' a = f a ∨ f' a = some b) :
    l.findSome? f' = l.findSome? f ∨ l.findSome? f' = some b := by
  induction l with
  | nil => exact .inl rfl
  | cons a l ih =>
    have hl := ih fun x hx => h x (List.mem_cons_of_mem _ hx)
    rcases h a (by simp) with ha | ha
    · cases hfound : f a with
      | none => simpa [List.findSome?_cons, ha, hfound] using hl
      | some _ => exact .inl (by simp [ha, hfound])
    · exact .inr (by simp [ha])

theorem firstConcrete?_filterMap {α : Type} (f : α → Option TypeName) (l : List α) :
    firstConcrete? (l.filterMap f) = l.findSome? fun a => (f a).filter TypeName.isConcrete := by
  induction l with
  | nil => rfl
  | cons a l ih =>
    cases ha : f a with
    | none =>
      rw [List.filterMap_cons_none ha, List.findSome?_cons, ha]
      exact ih
    | some type =>
      rw [List.filterMap_cons_some ha, List.findSome?_cons, ha, Option.filter_some, firstConcrete?,
        List.find?_cons]
      cases type.isConcrete with
      | true => rfl
      | false => exact ih

namespace Graph

variable {g g' : Graph} {palette : Palette} {p : Port} {id : NodeId} {name : String}
  {type : TypeName}

section Feeding

def concreteOn? (g : Graph) (p : Port) : Option TypeName :=
  ((g.look? p).map Look.type).filter TypeName.isConcrete

def concreteAt? (g : Graph) (id : NodeId) : Option TypeName :=
  (g.feeders id).findSome? g.concreteOn?

theorem sourceTypeAt_eq_concreteAt? (g : Graph) (id : NodeId) :
    g.sourceTypeAt id = (g.concreteAt? id).getD .wildcard := by
  rw [sourceTypeAt_eq, firstConcrete?_filterMap]
  rfl

theorem isConcrete_of_concreteAt? (h : g.concreteAt? id = some type) : type.isConcrete := by
  obtain ⟨p, -, hp⟩ := List.exists_of_findSome?_eq_some h
  exact (Option.filter_eq_some_iff.1 hp).2

theorem filter_sourceTypeAt (g : Graph) (id : NodeId) :
    (some (g.sourceTypeAt id)).filter TypeName.isConcrete = g.concreteAt? id := by
  rw [sourceTypeAt_eq_concreteAt?]
  cases hc : g.concreteAt? id with
  | none => rfl
  | some type => simp [isConcrete_of_concreteAt? hc]

/-- The graph answers for a variable with the first concrete type that feeds a Set node of it. -/
theorem live?_eq_findSome? (g : Graph) (name : String) :
    Cache.live? g name = (g.setNodeIds name).findSome? g.concreteAt? := by
  have hfirst : firstConcrete? ((g.setNodeIds name).map g.sourceTypeAt) =
      (g.setNodeIds name).findSome? g.concreteAt? := by
    have hf := firstConcrete?_filterMap (fun id => some (g.sourceTypeAt id)) (g.setNodeIds name)
    simpa only [List.filterMap_eq_map', filter_sourceTypeAt] using hf
  rw [Cache.live?, variableType?_eq, hfirst]
  cases hids : g.setNodeIds name with
  | nil => rfl
  | cons id rest =>
    cases hfound : (id :: rest).findSome? g.concreteAt? with
    | none => rfl
    | some type =>
      obtain ⟨j, -, hj⟩ := List.exists_of_findSome?_eq_some hfound
      simp [isConcrete_of_concreteAt? hj]

/-- A display leaves the concrete type that feeds a node, or makes it the displayed one. -/
theorem concreteAt?_display (palette : Palette) (hp : g.IsVariablePort p)
    (h : type.isConcrete ∨ g.concreteAt? id = none) :
    (g.display palette p type).2.concreteAt? id = g.concreteAt? id ∨
      (g.display palette p type).2.concreteAt? id = some type := by
  unfold concreteAt?
  rw [feeders_of_bare_eq (bare_display palette type hp)]
  apply findSome?_eq_or
  intro q hq
  unfold concreteOn?
  rw [look?_display]
  split
  · cases hlook : g.look? q with
    | none => exact .inl rfl
    | some look =>
      cases hc : type.isConcrete with
      | true => exact .inr (by simp [Palette.look, hc])
      | false =>
        -- any type takes the place of a type that was not concrete either
        have hshown : (some type).filter TypeName.isConcrete = none := by simp [Option.filter, hc]
        have hnone := List.findSome?_eq_none_iff.1 (h.resolve_left (by simp [hc])) q hq
        rw [concreteOn?, hlook] at hnone
        exact .inl (hshown.trans hnone.symm)
  · exact .inl rfl

theorem live?_display (palette : Palette) (hp : g.IsVariablePort p)
    (h : type.isConcrete ∨ Cache.live? g name = none) :
    Cache.live? (g.display palette p type).2 name = Cache.live? g name ∨
      Cache.live? (g.display palette p type).2 name = some type := by
  rw [live?_eq_findSome?] at h
  rw [live?_eq_findSome?, live?_eq_findSome?,
    setNodeIds_of_bare_eq (bare_display palette type hp)]
  apply findSome?_eq_or
  intro id hid
  exact concreteAt?_display palette hp
    (h.imp_right fun hnone => List.findSome?_eq_none_iff.1 hnone id hid)

/-- The type that feeds a node still does so when it is displayed. -/
theorem sourceTypeAt_display_sourceTypeAt (hp : g.IsVariablePort p) :
    (g.display palette p (g.sourceTypeAt id)).2.sourceTypeAt id = g.sourceTypeAt id := by
  have h : (g.sourceTypeAt id).isConcrete ∨ g.concreteAt? id = none := by
    rw [sourceTypeAt_eq_concreteAt?]
    cases hc : g.concreteAt? id with
    | none => exact .inr rfl
    | some type => exact .inl (isConcrete_of_concreteAt? hc)
  rw [sourceTypeAt_eq_concreteAt?]
  rcases concreteAt?_display palette hp h with heq | heq
  · rw [heq, ← sourceTypeAt_eq_concreteAt?]
  · rw [heq, Option.getD_some]

end Feeding

end Graph

/-- The type that a lookup finds is found again once it is displayed, and recorded already. -/
theorem Cache.lookup_display_lookup (c : Cache) {g : Graph} {p : Port} (palette : Palette)
    (hp : g.IsVariablePort p) (name : String) :
    let type := (c.lookup g name).1
    let later := (c.lookup g name).2.lookup (g.display palette p type).2 name
    later.1 = type ∧ later.2.types = (c.lookup g name).2.types := by
  intro type later
  have htype : type = (live? g name).getD ((c.get? name).getD .wildcard) := c.lookup_fst g name
  have hrecorded : (c.lookup g name).2.get? name = (live? g name).or (c.get? name) := by
    rw [get?_lookup, if_pos rfl]
  have h : type.isConcrete ∨ live? g name = none := by
    cases hl : live? g name with
    | none => exact .inr rfl
    | some found =>
      rw [htype, hl]
      exact .inl (Option.filter_eq_some_iff.1 hl).2
  have hlater : later.1 = (live? (g.display palette p type).2 name).getD
      (((c.lookup g name).2.get? name).getD .wildcard) := lookup_fst ..
  have hget (n : String) : later.2.get? n = if n = name then
      (live? (g.display palette p type).2 name).or ((c.lookup g name).2.get? n)
      else (c.lookup g name).2.get? n := get?_lookup ..
  rcases Graph.live?_display palette hp h with heq | heq
  · rw [heq, hrecorded] at hlater
    refine ⟨?_, types_eq fun n => ?_⟩
    · rw [hlater, htype]
      cases live? g name <;> rfl
    · rw [hget, heq]
      split
      · next hn =>
        rw [hn, hrecorded]
        cases live? g name <;> rfl
      · rfl
  · rw [heq] at hlater
    refine ⟨hlater, types_eq fun n => ?_⟩
    rw [hget, heq]
    split
    · next hn =>
      -- the graph answers with the displayed type, which was its own answer or the recorded one
      have hc : type.isConcrete := (Option.filter_eq_some_iff.1 heq).2
      have hknown : (live? g name).or (c.get? name) = some type := by
        rw [htype] at hc ⊢
        cases hl : live? g name with
        | some found => rfl
        | none =>
          cases hcached : c.get? name with
          | some cached => rfl
          | none => simp [hl, hcached, TypeName.isConcrete, TypeName.isWildcard_wildcard] at hc
      rw [hn, hrecorded, hknown]
      rfl
    · rfl

namespace Session

open NodeVariables.Graph (valuePort)

/-- A second refresh asks for the same and changes nothing. -/
theorem refresh_refresh (s : Session) (g : Graph) (r : Request) :
    ((s.refresh g r).2.1.refresh (s.refresh g r).2.2 r).1 = (s.refresh g r).1 ∧
      Idle (s.refresh g r).2 ((s.refresh g r).2.1.refresh (s.refresh g r).2.2 r).2 := by
  have hb := bare_refresh s g r
  by_cases hslot : r.purpose.slot = Node.valueSlot
  · cases hd : g.defines? r.node with
    | some name =>
      have hd' := (Graph.defines?_of_bare_eq hb r.node).trans hd
      rw [refresh_of_defines? hd hslot] at hd' ⊢
      have htype : (s.display g r.node (g.sourceTypeAt r.node)).sourceTypeAt r.node =
          g.sourceTypeAt r.node :=
        Graph.sourceTypeAt_display_sourceTypeAt (Graph.isVariablePort_of_defines? hd)
      rw [refresh_of_defines? hd' hslot, htype]
      exact ⟨rfl, Graph.display_display .., rfl⟩
    | none =>
      cases hr : g.reads? r.node with
      | some name =>
        have hr' := (Graph.reads?_of_bare_eq hb r.node).trans hr
        rw [refresh_of_reads? hr hslot] at hr' ⊢
        obtain ⟨htype, htypes⟩ := s.cache.lookup_display_lookup s.palette
          (Graph.isVariablePort_of_reads? hr) name
        have hfound : ((s.variableType g name).2.variableType
            (s.display g r.node (s.variableType g name).1) name).1 =
              (s.variableType g name).1 := htype
        rw [refresh_of_reads? hr' hslot, hfound]
        exact ⟨rfl, Graph.display_display .., htypes⟩
      | none =>
        rw [refresh_of_other fun _ => ⟨hd, hr⟩, refresh_of_other fun _ => ⟨hd, hr⟩]
        exact ⟨rfl, idle_refl _⟩
  · rw [refresh_of_other fun h => absurd h hslot, refresh_of_other fun h => absurd h hslot]
    exact ⟨rfl, idle_refl _⟩

end Session

end NodeVariables
