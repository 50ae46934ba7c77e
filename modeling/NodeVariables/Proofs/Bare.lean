import Mathlib.Data.List.Basic
import NodeVariables.Proofs.Look
import NodeVariables.Variable.Source
/-!
The bare graph: a graph without its redraw requests and without what the value outputs of its Set
and Get nodes show. Which variables the nodes define and read, and which outputs feed them, can be
seen on the bare graph, and displaying types on value outputs leaves it as it is.
-/
namespace NodeVariables

namespace Table

variable {κ ν μ : Type} [LT κ]

def map (f : ν → μ) (t : Table κ ν) : Table κ μ where
  entries := t.entries.map fun e => (e.1, f e.2)
  sorted := t.sorted.map _ fun _ _ h => h

@[simp] theorem keys_map (f : ν → μ) (t : Table κ ν) : (t.map f).keys = t.keys := by
  simp [keys, map]

omit [LT κ] in
theorem lookup_map_values [DecidableEq κ] (f : ν → μ) (l : List (κ × ν)) (k : κ) :
    (l.map fun e => (e.1, f e.2)).lookup k = (l.lookup k).map f := by
  induction l with
  | nil => rfl
  | cons e r ih =>
    obtain ⟨i, v⟩ := e
    simp only [List.map_cons, List.lookup_cons, ih]
    split <;> rfl

@[simp] theorem get?_map [DecidableEq κ] (f : ν → μ) (t : Table κ ν) (k : κ) :
    (t.map f).get? k = (t.get? k).map f :=
  lookup_map_values f t.entries k

theorem pairwise_keys (t : Table κ ν) : t.keys.Pairwise (· < ·) :=
  List.Pairwise.map _ (fun _ _ h => h) t.sorted

theorem nodup_keys [KeyOrder κ] (t : Table κ ν) : t.keys.Nodup := by
  refine List.Pairwise.map _ (fun a b h => ?_) t.sorted
  intro heq
  exact KeyOrder.irrefl b.1 (heq ▸ h)

theorem filterMap_values [DecidableEq κ] [KeyOrder κ] (t : Table κ ν) (f : ν → Option μ) :
    t.values.filterMap f = t.keys.filterMap fun k => (t.get? k).bind f := by
  simp only [values, keys, List.filterMap_map]
  apply List.filterMap_congr
  intro e he
  have hget : t.get? e.1 = some e.2 := get?_eq_some_iff.2 he
  simp [hget]

end Table

def Slot.bare (s : Slot) : Slot :=
  { s with label := "", type := .wildcard, colorOn := none, colorOff := none }

namespace Node

/-- A Set or Get node without the look of its value output. -/
def bare (n : Node) : Node := if n.isGlobal then n.modifyOutput valueSlot Slot.bare else n

def defines? (n : Node) : Option String := if n.isSet then n.variableName? else none

def reads? (n : Node) : Option String := if n.isGet then n.variableName? else none

section Laws

variable (n : Node)

theorem bare_cases : n.bare = n ∨ n.bare = n.modifyOutput valueSlot Slot.bare := by
  unfold bare
  split
  · exact .inr rfl
  · exact .inl rfl

@[simp] theorem id_bare : n.bare.id = n.id := by rcases n.bare_cases with h | h <;> rw [h]; rfl

@[simp] theorem inputs_bare : n.bare.inputs = n.inputs := by
  rcases n.bare_cases with h | h <;> rw [h]; rfl

@[simp] theorem isSet_bare : n.bare.isSet = n.isSet := by
  rcases n.bare_cases with h | h <;> rw [h]; rfl

@[simp] theorem isGet_bare : n.bare.isGet = n.isGet := by
  rcases n.bare_cases with h | h <;> rw [h]; rfl

@[simp] theorem isGlobal_bare : n.bare.isGlobal = n.isGlobal := by simp [isGlobal]

@[simp] theorem variableName?_bare : n.bare.variableName? = n.variableName? := by
  rcases n.bare_cases with h | h <;> rw [h]; rfl

@[simp] theorem defines?_bare : n.bare.defines? = n.defines? := by simp [defines?]

@[simp] theorem reads?_bare : n.bare.reads? = n.reads? := by simp [reads?]

@[simp] theorem valueInputs_bare : n.bare.valueInputs = n.valueInputs := by simp [valueInputs]

@[simp] theorem input?_bare (i : SlotIndex) : n.bare.input? i = n.input? i := by simp [input?]

theorem output?_bare (i : SlotIndex) :
    (n.bare.output? i).map Slot.bare = (n.output? i).map Slot.bare := by
  rcases n.bare_cases with h | h
  · rw [h]
  · rw [h, output?_modifyOutput]
    split
    · cases n.output? i <;> rfl
    · rfl

theorem bare_modifyOutput {n : Node} {f : Slot → Slot} (hn : n.isGlobal)
    (hf : ∀ s, (f s).bare = s.bare) : (n.modifyOutput valueSlot f).bare = n.bare := by
  have hcomp : Slot.bare ∘ f = Slot.bare := funext hf
  have hg : (n.modifyOutput valueSlot f).isGlobal = true := hn
  rw [bare, bare, if_pos hg, if_pos hn]
  simp [modifyOutput, List.modify_modify_eq, hcomp]

theorem variableName?_ne_empty {n : Node} {name : String} (h : n.variableName? = some name) :
    name ≠ "" := by
  simp only [variableName?, Option.filter_eq_some_iff, decide_eq_true_eq] at h
  exact h.2

theorem isSet_eq_false_of_isGet (h : n.isGet = true) : n.isSet = false := by
  cases hs : n.isSet with
  | false => rfl
  | true => simp [n.isGet_eq_false_of_isSet hs] at h

theorem isSetOf_iff {name : String} : n.isSetOf name = true ↔ n.defines? = some name := by
  cases hs : n.isSet <;> simp [isSetOf, defines?, hs]

theorem isGetOf_iff {name : String} : n.isGetOf name = true ↔ n.reads? = some name := by
  cases hs : n.isGet <;> simp [isGetOf, reads?, hs]

end Laws

end Node

namespace Graph

/-- Every node carries its key as its id. -/
def Keyed (g : Graph) : Prop := ∀ id n, g.node? id = some n → n.id = id

instance (g : Graph) : Decidable g.Keyed :=
  decidable_of_iff (∀ e ∈ g.nodes.entries, e.2.id = e.1)
    ⟨fun h id n hn => h (id, n) (Table.get?_eq_some_iff.1 hn),
      fun h e he => h e.1 e.2 (Table.get?_eq_some_iff.2 he)⟩

def defines? (g : Graph) (id : NodeId) : Option String := (g.node? id).bind Node.defines?

def reads? (g : Graph) (id : NodeId) : Option String := (g.node? id).bind Node.reads?

/-- The output at the other end of the link that an input holds. -/
def origin? (g : Graph) (input : Slot) : Option Port :=
  input.link.bind fun id => (g.link? id).map Link.origin

/-- The outputs that are linked to the value inputs of a node. -/
def feeders (g : Graph) (id : NodeId) : List Port :=
  (((g.node? id).map Node.valueInputs).getD []).filterMap g.origin?

/-- A value output whose node, if it is there, is a Set or Get node. -/
def IsVariablePort (g : Graph) (p : Port) : Prop :=
  p.slot = Node.valueSlot ∧ ∀ n, g.node? p.node = some n → n.isGlobal

def bare (g : Graph) : Graph := { g with nodes := g.nodes.map Node.bare, redraws := [] }

section Laws

variable (g : Graph)

@[simp] theorem node?_bare (id : NodeId) : g.bare.node? id = (g.node? id).map Node.bare :=
  Table.get?_map ..

@[simp] theorem link?_bare (id : LinkId) : g.bare.link? id = g.link? id := rfl

@[simp] theorem keys_bare : g.bare.nodes.keys = g.nodes.keys := Table.keys_map ..

@[simp] theorem defines?_bare (id : NodeId) : g.bare.defines? id = g.defines? id := by
  cases h : g.node? id <;> simp [defines?, h]

@[simp] theorem reads?_bare (id : NodeId) : g.bare.reads? id = g.reads? id := by
  cases h : g.node? id <;> simp [reads?, h]

@[simp] theorem origin?_bare (input : Slot) : g.bare.origin? input = g.origin? input := rfl

@[simp] theorem feeders_bare (id : NodeId) : g.bare.feeders id = g.feeders id := by
  have ho : g.bare.origin? = g.origin? := funext g.origin?_bare
  cases h : g.node? id <;> simp [feeders, h, ho]

@[simp] theorem input?_bare (p : Port) : g.bare.input? p = g.input? p := by
  cases h : g.node? p.node <;> simp [input?, h]

theorem output?_bare (p : Port) :
    (g.bare.output? p).map Slot.bare = (g.output? p).map Slot.bare := by
  cases h : g.node? p.node with
  | none => simp [output?, h]
  | some n => simpa [output?, h] using n.output?_bare p.slot

@[simp] theorem keyed_bare : g.bare.Keyed ↔ g.Keyed := by
  constructor
  · intro h id n hn
    have hid := h id n.bare (by simp [hn])
    simpa using hid
  · intro h id n hn
    obtain ⟨m, hm, rfl⟩ := Option.map_eq_some_iff.1 (g.node?_bare id ▸ hn)
    simpa using h id m hm

@[simp] theorem isVariablePort_bare (p : Port) : g.bare.IsVariablePort p ↔ g.IsVariablePort p := by
  cases h : g.node? p.node <;> simp [IsVariablePort, h]

variable {g}

/-- What can be seen on the bare graph is the same on graphs with the same bare graph. -/
theorem view_eq {α : Type} (view : Graph → α) (hv : ∀ g, view g.bare = view g) {g' : Graph}
    (h : g'.bare = g.bare) : view g' = view g := by
  rw [← hv g', h, hv g]

section SameBare

variable {g' : Graph} (h : g'.bare = g.bare)

include h

theorem keyed_of_bare_eq (hk : g.Keyed) : g'.Keyed :=
  (view_eq Keyed (fun g => propext g.keyed_bare) h).mpr hk

theorem keys_of_bare_eq : g'.nodes.keys = g.nodes.keys :=
  view_eq (fun g => g.nodes.keys) keys_bare h

theorem link?_of_bare_eq (id : LinkId) : g'.link? id = g.link? id :=
  view_eq (fun g => g.link? id) (fun g => g.link?_bare id) h

theorem defines?_of_bare_eq (id : NodeId) : g'.defines? id = g.defines? id :=
  view_eq (fun g => g.defines? id) (fun g => g.defines?_bare id) h

theorem reads?_of_bare_eq (id : NodeId) : g'.reads? id = g.reads? id :=
  view_eq (fun g => g.reads? id) (fun g => g.reads?_bare id) h

theorem feeders_of_bare_eq (id : NodeId) : g'.feeders id = g.feeders id :=
  view_eq (fun g => g.feeders id) (fun g => g.feeders_bare id) h

theorem look?_isSome_of_bare_eq (p : Port) : (g'.look? p).isSome = (g.look? p).isSome := by
  have ho : (g'.output? p).map Slot.bare = (g.output? p).map Slot.bare :=
    view_eq (fun g => (g.output? p).map Slot.bare) (fun g => g.output?_bare p) h
  simpa [look?] using congrArg Option.isSome ho

end SameBare

theorem bare_display (palette : Palette) {p : Port} (type : TypeName) (h : g.IsVariablePort p) :
    (g.display palette p type).2.bare = g.bare := by
  obtain ⟨id, slot⟩ := p
  obtain ⟨rfl, hn⟩ := h
  have hm : (g.modifyOutput ⟨id, Node.valueSlot⟩ (Slot.display palette type)).bare = g.bare := by
    have ht : (g.nodes.modify id (Node.modifyOutput Node.valueSlot
        (Slot.display palette type))).map Node.bare = g.nodes.map Node.bare := by
      apply Table.ext_get?
      intro j
      rw [Table.get?_map, Table.get?_map, Table.get?_modify]
      split
      · next hj =>
        subst hj
        cases hv : g.nodes.get? j with
        | none => rfl
        | some n =>
          have hb : (n.modifyOutput Node.valueSlot (Slot.display palette type)).bare = n.bare :=
            Node.bare_modifyOutput (hn n hv) fun _ => rfl
          simp [hb]
      · rfl
    simp only [bare, modifyOutput, modifyNode, ht]
  unfold display
  split
  · rfl
  · split
    · exact hm
    · exact hm

theorem bare_displayAll {palette : Palette} {types : List (Port × TypeName)}
    (h : ∀ x ∈ types, g.IsVariablePort x.1) : (g.displayAll palette types).2.bare = g.bare := by
  induction types generalizing g with
  | nil => rfl
  | cons x rest ih =>
    obtain ⟨p, type⟩ := x
    have hp := bare_display palette type (h (p, type) (by simp))
    rw [displayAll_cons, ih, hp]
    intro y hy
    exact (view_eq (fun g => g.IsVariablePort y.1) (fun g => propext (g.isVariablePort_bare y.1))
      hp).symm ▸ h y (List.mem_cons_of_mem _ hy)

end Laws

end Graph

end NodeVariables
