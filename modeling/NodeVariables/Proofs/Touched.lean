import NodeVariables.Proofs.Bare
import NodeVariables.Proofs.Displays

namespace NodeVariables.Graph

variable {g g' g'' : Graph} {palette : Palette} {p : Port}

/-- The second graph comes from the first by displays on value outputs of Set and Get nodes. -/
inductive Displayed (palette : Palette) (g : Graph) : Graph → Prop where
  | refl : Displayed palette g g
  | display {g' : Graph} {p : Port} (before : Displayed palette g g') (type : TypeName)
    (variablePort : g'.IsVariablePort p) : Displayed palette g (g'.display palette p type).2

/-- The graphs differ at most in what the value outputs of Set and Get nodes show and in redraw
requests at the end. -/
structure Touched (palette : Palette) (g g' : Graph) : Prop where
  nodes : ∀ id, g'.node? id = g.node? id ∨ ∃ n type, g.node? id = some n ∧ n.isGlobal ∧
    g'.node? id = some (n.modifyOutput Node.valueSlot (Slot.display palette type))
  links : g'.links = g.links
  counters : g'.nextNodeId = g.nextNodeId ∧ g'.nextLinkId = g.nextLinkId
  redraws : ∃ asked, g'.redraws = g.redraws ++ asked ∧
    (∀ id ∈ asked, ∃ n, g.node? id = some n ∧ n.isGlobal) ∧
    ∀ p, (g'.output? p).map Slot.type ≠ (g.output? p).map Slot.type → p.node ∈ asked

namespace Displayed

theorem trans (h : Displayed palette g g') (h' : Displayed palette g' g'') :
    Displayed palette g g'' := by
  induction h' with
  | refl => exact h
  | display _ type hp ih => exact ih.display type hp

theorem bare_eq (h : Displayed palette g g') : g'.bare = g.bare := by
  induction h with
  | refl => rfl
  | display _ type hp ih => exact (bare_display palette type hp).trans ih

theorem displayAll {types : List (Port × TypeName)} (h : ∀ x ∈ types, g.IsVariablePort x.1) :
    Displayed palette g (g.displayAll palette types).2 := by
  induction types generalizing g with
  | nil => exact .refl
  | cons x rest ih =>
    obtain ⟨p, type⟩ := x
    have hp : g.IsVariablePort p := h (p, type) (by simp)
    have hbare := bare_display palette type hp
    rw [displayAll_cons]
    refine (Displayed.refl.display type hp).trans (ih fun y hy => ?_)
    exact (view_eq (fun g => g.IsVariablePort y.1) (fun g => propext (g.isVariablePort_bare y.1))
      hbare).symm ▸ h y (List.mem_cons_of_mem _ hy)

end Displayed

namespace Touched

theorem refl (palette : Palette) (g : Graph) : Touched palette g g where
  nodes _ := .inl rfl
  links := rfl
  counters := ⟨rfl, rfl⟩
  redraws := ⟨[], by simp, by simp, fun _ h => absurd rfl h⟩

/-- A Set or Get node after the displays was one before them. -/
theorem isGlobal (h : Touched palette g g') {id : NodeId} {m : Node} (hm : g'.node? id = some m)
    (hg : m.isGlobal) : ∃ n, g.node? id = some n ∧ n.isGlobal := by
  rcases h.nodes id with heq | ⟨n, type, hn, hglobal, -⟩
  · exact ⟨m, heq ▸ hm, hg⟩
  · exact ⟨n, hn, hglobal⟩

theorem display (h : Touched palette g g') (type : TypeName) (hp : g'.IsVariablePort p) :
    Touched palette g (g'.display palette p type).2 := by
  obtain ⟨id, slot⟩ := p
  obtain ⟨rfl, hglobal⟩ := hp
  have hframe := display_frame palette ⟨id, Node.valueSlot⟩ type g'
  obtain ⟨asked, hasked, hnamed, hchanged⟩ := h.redraws
  constructor
  case nodes =>
    intro j
    rw [node?_display]
    split
    · next hj =>
      obtain rfl : j = id := hj
      rcases h.nodes j with heq | ⟨n, shown, hn, hg, heq⟩
      · cases hn : g.node? j with
        | none => exact .inl (by rw [heq, hn, Option.map_none])
        | some n => exact .inr ⟨n, type, rfl, hglobal n (heq.trans hn), by rw [heq, hn]; rfl⟩
      · -- the later display overwrites the earlier one
        have hover := n.shown_shown palette (some shown) (some type)
        exact .inr ⟨n, type, hn, hg, by rw [heq]; exact congrArg some hover⟩
    · exact h.nodes j
  case links =>
    rw [hframe]
    exact h.links
  case counters =>
    rw [hframe]
    exact h.counters
  case redraws =>
    refine ⟨asked ++ if (g'.display palette ⟨id, Node.valueSlot⟩ type).1 then [id] else [], ?_, ?_,
      ?_⟩
    · rw [redraws_display, hasked, List.append_assoc]
    · intro j hj
      rcases List.mem_append.1 hj with hj | hj
      · exact hnamed j hj
      -- a display that changes a type has found the node
      · have hid : (g'.display palette ⟨id, Node.valueSlot⟩ type).1 = true ∧ j = id := by
          split at hj
          · next hc => exact ⟨hc, List.mem_singleton.1 hj⟩
          · simp at hj
        obtain ⟨hc, rfl⟩ := hid
        cases hn : g'.node? j with
        | none => simp [fst_display, look?, output?, hn] at hc
        | some n => exact h.isGlobal hn (hglobal n hn)
    · intro q hq
      rw [List.mem_append]
      by_cases hc : (g'.display palette ⟨id, Node.valueSlot⟩ type).1 = true
      · by_cases hqp : q = ⟨id, Node.valueSlot⟩
        · exact .inr (by simp [hc, hqp])
        · rw [output?_display, if_neg hqp] at hq
          exact .inl (hchanged q hq)
      · have hsame := type_display_of_unchanged (Bool.eq_false_iff.2 hc) q
        rw [map_type_output?, hsame, ← map_type_output?] at hq
        exact .inl (hchanged q hq)

end Touched

theorem Displayed.touched (h : Displayed palette g g') : Touched palette g g' := by
  induction h with
  | refl => exact .refl palette g
  | display _ type hp ih => exact ih.display type hp

end NodeVariables.Graph
