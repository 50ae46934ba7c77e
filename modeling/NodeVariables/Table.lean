namespace NodeVariables

/-- A strict order in which any two different keys compare. -/
class KeyOrder (κ : Type) [LT κ] : Prop where
  irrefl (a : κ) : ¬a < a
  trans {a b c : κ} : a < b → b < c → a < c
  total (a b : κ) : a < b ∨ a = b ∨ b < a

instance : KeyOrder UInt64 where
  irrefl a := UInt64.lt_irrefl a
  trans := UInt64.lt_trans
  total := Std.lt_trichotomy

instance : KeyOrder String where
  irrefl := String.lt_irrefl
  trans := String.lt_trans
  total := Std.lt_trichotomy

/-- Entries in strictly ascending key order, so no key occurs twice. -/
structure Table (κ ν : Type) [LT κ] where
  entries : List (κ × ν) := []
  sorted : entries.Pairwise (fun a b => a.1 < b.1) := by exact .nil

namespace Table

variable {κ ν : Type} [LT κ]

instance [DecidableEq κ] [DecidableEq ν] : DecidableEq (Table κ ν) := fun t u =>
  decidable_of_iff (t.entries = u.entries) ⟨fun h => by cases t; cases u; cases h; rfl, congrArg _⟩

def empty : Table κ ν := {}

instance : EmptyCollection (Table κ ν) := ⟨empty⟩
instance : Inhabited (Table κ ν) := ⟨empty⟩

theorem ext_entries {t u : Table κ ν} (h : t.entries = u.entries) : t = u := by
  cases t; cases u; cases h; rfl

def keys (t : Table κ ν) : List κ := t.entries.map (·.1)

def values (t : Table κ ν) : List ν := t.entries.map (·.2)

def size (t : Table κ ν) : Nat := t.entries.length

def isEmpty (t : Table κ ν) : Bool := t.entries.isEmpty

def maxKey? (t : Table κ ν) : Option κ := t.keys.getLast?

section Lookup

variable [DecidableEq κ]

def get? (t : Table κ ν) (k : κ) : Option ν := t.entries.lookup k

def contains (t : Table κ ν) (k : κ) : Bool := (t.get? k).isSome

def erase (t : Table κ ν) (k : κ) : Table κ ν where
  entries := t.entries.filter (·.1 ≠ k)
  sorted := t.sorted.filter _

/-- The value of one key replaced by its image; a missing key stays missing. -/
def modify (t : Table κ ν) (k : κ) (f : ν → ν) : Table κ ν where
  entries := t.entries.map fun e => if e.1 = k then (e.1, f e.2) else e
  sorted := by
    refine List.Pairwise.map _ (fun a b h => ?_) t.sorted
    split <;> split <;> exact h

end Lookup

section Insertion

variable [DecidableEq κ] [DecidableLT κ]

/-- Puts an entry at its place in a sorted list, over any entry with the same key. -/
def insertEntry (k : κ) (v : ν) : List (κ × ν) → List (κ × ν)
  | [] => [(k, v)]
  | e :: r =>
    if k < e.1 then (k, v) :: e :: r
    else if k = e.1 then (k, v) :: r
    else e :: insertEntry k v r

theorem mem_insertEntry {k : κ} {v : ν} {e : κ × ν} {l : List (κ × ν)}
    (h : e ∈ insertEntry k v l) : e = (k, v) ∨ e ∈ l := by
  induction l with
  | nil => simpa [insertEntry] using h
  | cons x r ih => grind [insertEntry]

theorem pairwise_insertEntry [KeyOrder κ] (k : κ) (v : ν) {l : List (κ × ν)}
    (h : l.Pairwise (fun a b => a.1 < b.1)) :
    (insertEntry k v l).Pairwise (fun a b => a.1 < b.1) := by
  induction l with
  | nil => simp [insertEntry]
  | cons x r ih =>
    obtain ⟨hx, hr⟩ := List.pairwise_cons.1 h
    rw [insertEntry]
    split
    · next hlt =>
      refine List.pairwise_cons.2 ⟨fun e he => ?_, h⟩
      rcases List.mem_cons.1 he with rfl | he
      · exact hlt
      · exact KeyOrder.trans hlt (hx e he)
    · split
      · next heq => exact List.pairwise_cons.2 ⟨fun e he => heq ▸ hx e he, hr⟩
      · next hnlt hne =>
        refine List.pairwise_cons.2 ⟨fun e he => ?_, ih hr⟩
        rcases mem_insertEntry he with rfl | he
        · exact ((KeyOrder.total k x.1).resolve_left hnlt).resolve_left hne
        · exact hx e he

theorem lookup_insertEntry (k : κ) (v : ν) (l : List (κ × ν)) (j : κ) :
    (insertEntry k v l).lookup j = if j = k then some v else l.lookup j := by
  induction l with
  | nil => grind [insertEntry]
  | cons e r ih =>
    obtain ⟨i, w⟩ := e
    by_cases hlt : k < i <;> by_cases hki : k = i <;> by_cases hj : j = i <;>
      grind [insertEntry]

variable [KeyOrder κ]

def insert (t : Table κ ν) (k : κ) (v : ν) : Table κ ν where
  entries := insertEntry k v t.entries
  sorted := pairwise_insertEntry k v t.sorted

/-- A table from entries in any order; of two entries with one key the later wins. -/
def ofList (l : List (κ × ν)) : Table κ ν := l.foldl (fun t e => t.insert e.1 e.2) empty

end Insertion

section Laws

variable [DecidableEq κ]

@[simp] theorem get?_empty (k : κ) : (empty : Table κ ν).get? k = none := rfl

omit [LT κ] in
theorem mem_of_lookup {l : List (κ × ν)} {k : κ} {v : ν} (h : l.lookup k = some v) :
    (k, v) ∈ l := by
  induction l with
  | nil => simp at h
  | cons e r ih => obtain ⟨i, w⟩ := e; grind

theorem lookup_of_mem [KeyOrder κ] {l : List (κ × ν)} {k : κ} {v : ν}
    (hs : l.Pairwise (fun a b => a.1 < b.1)) (h : (k, v) ∈ l) : l.lookup k = some v := by
  induction l with
  | nil => simp at h
  | cons e r ih =>
    obtain ⟨hlt, hr⟩ := List.pairwise_cons.1 hs
    rcases List.mem_cons.1 h with rfl | hmem
    · simp
    · have hne : k ≠ e.1 := fun heq => KeyOrder.irrefl e.1 (heq ▸ hlt _ hmem)
      obtain ⟨i, w⟩ := e
      have hb : (k == i) = false := beq_eq_false_iff_ne.2 hne
      simpa [List.lookup_cons, hb] using ih hr hmem

omit [LT κ] in
theorem lookup_filter_ne (l : List (κ × ν)) (k j : κ) :
    (l.filter (·.1 ≠ k)).lookup j = if j = k then none else l.lookup j := by
  induction l with
  | nil => simp
  | cons e r ih =>
    obtain ⟨i, v⟩ := e
    by_cases hi : i = k <;> by_cases hj : j = i <;> grind

omit [LT κ] in
theorem lookup_map_modify (l : List (κ × ν)) (k : κ) (f : ν → ν) (j : κ) :
    (l.map fun e => if e.1 = k then (e.1, f e.2) else e).lookup j =
      if j = k then (l.lookup j).map f else l.lookup j := by
  induction l with
  | nil => simp
  | cons e r ih =>
    obtain ⟨i, v⟩ := e
    by_cases hi : i = k <;> by_cases hj : j = i <;> grind

theorem get?_eq_some_iff [KeyOrder κ] {t : Table κ ν} {k : κ} {v : ν} :
    t.get? k = some v ↔ (k, v) ∈ t.entries :=
  ⟨mem_of_lookup, lookup_of_mem t.sorted⟩

theorem mem_keys_iff [KeyOrder κ] {t : Table κ ν} {k : κ} :
    k ∈ t.keys ↔ ∃ v, t.get? k = some v := by
  simp [keys, get?_eq_some_iff]

theorem get?_erase (t : Table κ ν) (k j : κ) :
    (t.erase k).get? j = if j = k then none else t.get? j :=
  lookup_filter_ne t.entries k j

theorem get?_modify (t : Table κ ν) (k : κ) (f : ν → ν) (j : κ) :
    (t.modify k f).get? j = if j = k then (t.get? j).map f else t.get? j :=
  lookup_map_modify t.entries k f j

theorem keys_modify (t : Table κ ν) (k : κ) (f : ν → ν) : (t.modify k f).keys = t.keys := by
  simp only [keys, modify, List.map_map]
  exact List.map_congr_left fun e _ => by simp only [Function.comp]; split <;> rfl

theorem get?_insert [DecidableLT κ] [KeyOrder κ] (t : Table κ ν) (k : κ) (v : ν) (j : κ) :
    (t.insert k v).get? j = if j = k then some v else t.get? j :=
  lookup_insertEntry k v t.entries j

omit [DecidableEq κ] in
theorem eq_of_mem_iff [KeyOrder κ] {l m : List (κ × ν)}
    (hl : l.Pairwise (fun a b => a.1 < b.1)) (hm : m.Pairwise (fun a b => a.1 < b.1))
    (h : ∀ e, e ∈ l ↔ e ∈ m) : l = m := by
  induction l generalizing m with
  | nil =>
    cases m with
    | nil => rfl
    | cons x r => exact absurd ((h x).2 (by simp)) (by simp)
  | cons a l ih =>
    cases m with
    | nil => exact absurd ((h a).1 (by simp)) (by simp)
    | cons b m =>
      obtain ⟨ha, hl'⟩ := List.pairwise_cons.1 hl
      obtain ⟨hb, hm'⟩ := List.pairwise_cons.1 hm
      have hab : a = b := by
        rcases List.mem_cons.1 ((h a).1 (by simp)) with rfl | h₁
        · rfl
        rcases List.mem_cons.1 ((h b).2 (by simp)) with h₂ | h₂
        · exact h₂.symm
        exact absurd (KeyOrder.trans (hb a h₁) (ha b h₂)) (KeyOrder.irrefl _)
      subst hab
      refine congrArg (a :: ·) (ih hl' hm' fun e => ⟨fun he => ?_, fun he => ?_⟩)
      · rcases List.mem_cons.1 ((h e).1 (List.mem_cons_of_mem _ he)) with rfl | h'
        · exact absurd (ha e he) (KeyOrder.irrefl _)
        · exact h'
      · rcases List.mem_cons.1 ((h e).2 (List.mem_cons_of_mem _ he)) with rfl | h'
        · exact absurd (hb e he) (KeyOrder.irrefl _)
        · exact h'

theorem ext_get? [KeyOrder κ] {t u : Table κ ν} (h : ∀ k, t.get? k = u.get? k) : t = u := by
  refine ext_entries (eq_of_mem_iff t.sorted u.sorted fun e => ?_)
  obtain ⟨k, v⟩ := e
  rw [← get?_eq_some_iff, ← get?_eq_some_iff, h k]

end Laws

end Table

end NodeVariables
