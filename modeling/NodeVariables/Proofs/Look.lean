import Mathlib.Tactic.Common
import NodeVariables.Variable.Display

namespace NodeVariables

structure Look where
  type : TypeName
  label : String
  colorOn : Option Color
  colorOff : Option Color
deriving DecidableEq

def Palette.look (palette : Palette) (type : TypeName) : Look :=
  ⟨type, type.label, some (palette.color type), some (palette.color type)⟩

namespace Slot

def look (s : Slot) : Look := ⟨s.type, s.label, s.colorOn, s.colorOff⟩

@[simp] theorem look_display (palette : Palette) (type : TypeName) (s : Slot) :
    (s.display palette type).look = palette.look type := rfl

theorem display_eq_self {palette : Palette} {type : TypeName} {s : Slot}
    (h : s.look = palette.look type) : s.display palette type = s := by
  cases s
  simp only [look, Palette.look, Look.mk.injEq] at h
  obtain ⟨rfl, rfl, rfl, rfl⟩ := h
  rfl

end Slot

theorem Table.modify_eq_self {κ ν : Type} [LT κ] [DecidableEq κ] [KeyOrder κ] {t : Table κ ν}
    {k : κ} {f : ν → ν} (h : ∀ v, t.get? k = some v → f v = v) : t.modify k f = t := by
  apply Table.ext_get?
  intro j
  rw [Table.get?_modify]
  split
  · next hj =>
    subst hj
    cases hv : t.get? j with
    | none => rfl
    | some v => simp [h v hv]
  · rfl

theorem modify_eq_self {α : Type} {l : List α} {i : Nat} {f : α → α}
    (h : ∀ a, l[i]? = some a → f a = a) : l.modify i f = l := by
  apply List.ext_getElem?
  intro j
  rw [List.getElem?_modify]
  split
  · next hj =>
    subst hj
    cases ha : l[i]? with
    | none => rfl
    | some a => simp [h a ha]
  · exact Option.map_id' ..

theorem Node.modifyOutput_eq_self {n : Node} {i : SlotIndex} {f : Slot → Slot}
    (h : ∀ s, n.output? i = some s → f s = s) : n.modifyOutput i f = n := by
  rw [Node.modifyOutput, modify_eq_self h]

theorem Node.modifyInput_eq_self {n : Node} {i : SlotIndex} {f : Slot → Slot}
    (h : ∀ s, n.input? i = some s → f s = s) : n.modifyInput i f = n := by
  rw [Node.modifyInput, modify_eq_self h]

namespace Graph

theorem modifyNode_eq_self {g : Graph} {id : NodeId} {f : Node → Node}
    (h : ∀ n, g.node? id = some n → f n = n) : g.modifyNode id f = g := by
  rw [modifyNode, Table.modify_eq_self h]

theorem modifyOutput_eq_self {g : Graph} {p : Port} {f : Slot → Slot}
    (h : ∀ s, g.output? p = some s → f s = s) : g.modifyOutput p f = g := by
  apply modifyNode_eq_self
  intro n hn
  apply Node.modifyOutput_eq_self
  intro s hs
  exact h s (by simp [output?, hn, hs])

theorem modifyInput_eq_self {g : Graph} {p : Port} {f : Slot → Slot}
    (h : ∀ s, g.input? p = some s → f s = s) : g.modifyInput p f = g := by
  apply modifyNode_eq_self
  intro n hn
  apply Node.modifyInput_eq_self
  intro s hs
  exact h s (by simp [input?, hn, hs])

def look? (g : Graph) (p : Port) : Option Look := (g.output? p).map Slot.look

/-- An output shows a type, with its label and colors, if it is there at all. -/
def Shows (g : Graph) (palette : Palette) (p : Port) (type : TypeName) : Prop :=
  ∀ look, g.look? p = some look → look = palette.look type

theorem map_type_output? (g : Graph) (p : Port) :
    (g.output? p).map Slot.type = (g.look? p).map Look.type := by
  rw [look?, Option.map_map]
  rfl

theorem Shows.congr {g g' : Graph} {palette : Palette} {p : Port} {type : TypeName}
    (h : g.Shows palette p type) (hl : g'.look? p = g.look? p) : g'.Shows palette p type := by
  intro look hlook
  exact h look (hl ▸ hlook)

section Display

variable (palette : Palette) (port : Port) (type : TypeName) (g : Graph)

theorem look?_display (q : Port) :
    (g.display palette port type).2.look? q =
      if q = port then (g.look? q).map (fun _ => palette.look type) else g.look? q := by
  rw [look?, output?_display]
  split
  · cases h : g.output? q <;> simp [look?, h]
  · rfl

theorem shows_display_self : (g.display palette port type).2.Shows palette port type := by
  intro look hlook
  rw [look?_display, if_pos rfl] at hlook
  obtain ⟨-, -, rfl⟩ := Option.map_eq_some_iff.1 hlook
  rfl

variable {palette port type g}

theorem display_of_shows (h : g.Shows palette port type) :
    g.display palette port type = (false, g) := by
  unfold display
  cases hs : g.output? port with
  | none => rfl
  | some slot =>
    have hl : slot.look = palette.look type := h slot.look (by simp [look?, hs])
    have ht : slot.type = type := congrArg Look.type hl
    have hg : g.modifyOutput port (Slot.display palette type) = g := by
      apply modifyOutput_eq_self
      intro s hs'
      obtain rfl : slot = s := Option.some.inj (hs.symm.trans hs')
      exact Slot.display_eq_self hl
    simp [ht, hg]

theorem display_display (palette : Palette) (port : Port) (type : TypeName) (g : Graph) :
    ((g.display palette port type).2.display palette port type).2 =
      (g.display palette port type).2 := by
  rw [display_of_shows (shows_display_self palette port type g)]

theorem type_display_of_unchanged (h : (g.display palette port type).1 = false) (q : Port) :
    ((g.display palette port type).2.look? q).map Look.type = (g.look? q).map Look.type := by
  rw [look?_display]
  split
  · next hq =>
    subst hq
    cases hs : g.output? q with
    | none => simp [look?, hs]
    | some slot =>
      have ht : slot.type = type := by
        by_contra hne
        simp [display, hs, hne] at h
      simp [look?, hs, Slot.look, Palette.look, ht]
  · rfl

end Display

section DisplayAll

variable {palette : Palette} {g : Graph}

theorem displayAll_cons (port : Port) (type : TypeName) (rest : List (Port × TypeName)) :
    (g.displayAll palette ((port, type) :: rest)).2 =
      ((g.display palette port type).2.displayAll palette rest).2 := rfl

theorem displayAll_of_shows {types : List (Port × TypeName)}
    (h : ∀ x ∈ types, g.Shows palette x.1 x.2) : g.displayAll palette types = (0, g) := by
  induction types with
  | nil => rfl
  | cons x rest ih =>
    obtain ⟨port, type⟩ := x
    have hd := display_of_shows (h (port, type) (by simp))
    have hr := ih fun x hx => h x (List.mem_cons_of_mem _ hx)
    simp [displayAll, hd, hr]

theorem look?_displayAll_of_not_mem {types : List (Port × TypeName)} {q : Port}
    (h : q ∉ types.map Prod.fst) : (g.displayAll palette types).2.look? q = g.look? q := by
  induction types generalizing g with
  | nil => rfl
  | cons x rest ih =>
    obtain ⟨port, type⟩ := x
    simp only [List.map_cons, List.mem_cons, not_or] at h
    rw [displayAll_cons, ih h.2, look?_display, if_neg h.1]

/-- Of displays on different outputs each one lasts. -/
theorem look?_displayAll_of_mem {types : List (Port × TypeName)} {q : Port} {type : TypeName}
    (hd : (types.map Prod.fst).Nodup) (h : (q, type) ∈ types) :
    (g.displayAll palette types).2.look? q = (g.look? q).map fun _ => palette.look type := by
  induction types generalizing g with
  | nil => simp at h
  | cons x rest ih =>
    obtain ⟨port, shown⟩ := x
    obtain ⟨hport, hrest⟩ := List.nodup_cons.1 hd
    rw [displayAll_cons]
    rcases List.mem_cons.1 h with heq | hmem
    · obtain ⟨rfl, rfl⟩ := Prod.mk.inj heq
      rw [look?_displayAll_of_not_mem hport, look?_display, if_pos rfl]
    · have hne : q ≠ port := by
        rintro rfl
        exact hport (List.mem_map.2 ⟨_, hmem, rfl⟩)
      rw [ih hrest hmem, look?_display, if_neg hne]

theorem type_displayAll_of_unchanged {types : List (Port × TypeName)}
    (h : (g.displayAll palette types).1 = 0) (q : Port) :
    ((g.displayAll palette types).2.look? q).map Look.type = (g.look? q).map Look.type := by
  induction types generalizing g with
  | nil => rfl
  | cons x rest ih =>
    obtain ⟨port, type⟩ := x
    have hsum : (g.display palette port type).1.toNat +
        ((g.display palette port type).2.displayAll palette rest).1 = 0 := h
    have hhead : (g.display palette port type).1 = false := by
      cases hc : (g.display palette port type).1 with
      | false => rfl
      | true => simp [hc] at hsum
    rw [displayAll_cons, ih (by omega), type_display_of_unchanged hhead]

end DisplayAll

end Graph

end NodeVariables
