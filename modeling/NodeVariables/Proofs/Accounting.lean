import Mathlib.Data.List.Induction
import NodeVariables.Proofs.UpToDate

namespace NodeVariables

namespace Table

variable {κ ν : Type} [LT κ] [DecidableEq κ]

theorem length_insertEntry_le [DecidableLT κ] (k : κ) (v : ν) (l : List (κ × ν)) :
    (insertEntry k v l).length ≤ l.length + 1 := by
  induction l with
  | nil => exact Nat.le_refl _
  | cons e r ih =>
    rw [insertEntry]
    split
    · exact Nat.le_refl _
    · split
      · exact Nat.le_succ _
      · exact Nat.succ_le_succ ih

theorem size_insert_le [DecidableLT κ] [KeyOrder κ] (t : Table κ ν) (k : κ) (v : ν) :
    (t.insert k v).size ≤ t.size + 1 :=
  length_insertEntry_le k v t.entries

theorem size_erase_le (t : Table κ ν) (k : κ) : (t.erase k).size ≤ t.size :=
  List.length_filter_le ..

end Table

namespace Cache

inductive Op where
  | lookup (g : Graph) (name : String)
  | set (name : String) (type : TypeName)
  | forget (name : String)
  | clear
  | describe (g : Graph) (name : String)

def apply (c : Cache) : Op → Cache
  | .lookup g name => (c.lookup g name).2
  | .set name type => c.set name type
  | .forget name => c.forget name
  | .clear => .empty
  | .describe g name => (c.describe g name).2

def run (c : Cache) (ops : List Op) : Cache := ops.foldl apply c

namespace Op

def isClear : Op → Bool
  | .clear => true
  | _ => false

/-- Whether an operation asks for the type of a named variable. -/
def asks : Op → Bool
  | .lookup _ name => name ≠ ""
  | .describe _ name => name ≠ ""
  | _ => false

end Op

/-- How often the type of a named variable was asked for since the cache was last cleared. -/
def asked (ops : List Op) : Nat :=
  (ops.reverse.takeWhile fun op => !op.isClear).countP Op.asks

/-- The counts of a cache when the types of named variables were asked for so many times. -/
structure Accounted (asked : Nat) (c : Cache) : Prop where
  unnamed : c.get? "" = none
  lookups : c.tally.liveHits + c.tally.cacheHits + c.tally.misses = asked
  liveHits_le : c.tally.liveHits ≤ c.tally.writes
  size_le : c.types.size ≤ c.tally.writes

/-- What is said about a variable: it is known just if a type is recorded for it or a Set node
defines it, only a known variable has a concrete type, and a second answer is the same. -/
structure Described (c : Cache) (g : Graph) (name : String) : Prop where
  known : (c.describe g name).1.known = true ↔
    (c.get? name).isSome ∨ ∃ id, g.defines? id = some name
  concrete : (c.describe g name).1.type.isConcrete = true → (c.describe g name).1.known = true
  again : ((c.describe g name).2.describe g name).1 = (c.describe g name).1

variable {c : Cache} {g : Graph} {name : String} {n : Nat} {ops : List Op} {op : Op}

theorem run_concat (c : Cache) (ops : List Op) (op : Op) :
    c.run (ops ++ [op]) = (c.run ops).apply op := by
  simp [run]

theorem asked_concat (ops : List Op) (op : Op) : asked (ops ++ [op]) =
    if op.isClear then 0 else asked ops + op.asks.toNat := by
  unfold asked
  cases hclear : op.isClear <;> cases hasks : op.asks <;> simp [hclear, hasks]

theorem set_empty (c : Cache) (type : TypeName) : c.set "" type = c := dif_pos rfl

theorem tally_set (c : Cache) (type : TypeName) (h : name ≠ "") :
    (c.set name type).tally = { c.tally with writes := c.tally.writes + 1 } := by
  rw [set, dif_neg h]

theorem size_set_le (c : Cache) (type : TypeName) (h : name ≠ "") :
    (c.set name type).types.size ≤ c.types.size + 1 := by
  rw [set, dif_neg h]
  exact c.types.size_insert_le name type

namespace Accounted

theorem of_empty : Accounted 0 .empty := ⟨rfl, rfl, Nat.le_refl _, Nat.le_refl _⟩

/-- What is recorded pays for one answer of the graph and for one entry. -/
theorem of_set (type : TypeName) (hname : name ≠ "")
    (hlookups : c.tally.liveHits + c.tally.cacheHits + c.tally.misses = n)
    (hlive : c.tally.liveHits ≤ c.tally.writes + 1) (hsize : c.types.size ≤ c.tally.writes) :
    Accounted n (c.set name type) := by
  have htally := tally_set c type hname
  have hinsert := size_set_le c type hname
  refine ⟨Cache.named _, ?_, ?_, ?_⟩
  · rw [htally]
    exact hlookups
  · rw [htally]
    exact hlive
  · rw [htally]
    exact Nat.le_trans hinsert (Nat.succ_le_succ hsize)

variable (h : Accounted n c)

include h

theorem set (name : String) (type : TypeName) : Accounted n (c.set name type) := by
  by_cases hname : name = ""
  · rw [hname, set_empty]
    exact h
  · exact of_set type hname h.lookups (Nat.le_succ_of_le h.liveHits_le) h.size_le

theorem forget (name : String) : Accounted n (c.forget name) where
  unnamed := Cache.named _
  lookups := h.lookups
  liveHits_le := h.liveHits_le
  size_le := Nat.le_trans (c.types.size_erase_le name) h.size_le

theorem lookup (g : Graph) (name : String) :
    Accounted (n + (decide (name ≠ "")).toNat) (c.lookup g name).2 := by
  have hcount := h.lookups
  unfold Cache.lookup
  split
  · next hname => simpa [hname] using h
  · next hname =>
    rw [decide_eq_true hname, Bool.toNat_true]
    split
    · -- one more answer of the graph, which is recorded at once
      apply of_set _ hname
      · dsimp only
        omega
      · exact Nat.succ_le_succ h.liveHits_le
      · exact h.size_le
    · split
      · exact ⟨h.unnamed, by dsimp only; omega, h.liveHits_le, h.size_le⟩
      · exact ⟨h.unnamed, by dsimp only; omega, h.liveHits_le, h.size_le⟩

/-- Every operation keeps the account. -/
theorem apply (op : Op) :
    Accounted (if op.isClear then 0 else n + op.asks.toNat) (c.apply op) := by
  cases op with
  | lookup g name => exact h.lookup g name
  | set name type => exact h.set name type
  | forget name => exact h.forget name
  | clear => exact of_empty
  | describe g name => exact h.lookup g name

end Accounted

theorem accounted (ops : List Op) : Accounted (asked ops) (empty.run ops) := by
  -- from the end, as what was asked is counted back to the last clearing
  induction ops using List.reverseRecOn with
  | nil => exact .of_empty
  | append_singleton ops op ih =>
    rw [run_concat, asked_concat]
    exact ih.apply op

theorem binds_of_live? {type : TypeName} (h : live? g name = some type) : g.binds name = true := by
  have hv : g.variableType? name = some type := (Option.filter_eq_some_iff.1 h).1
  exact Graph.binds_iff.2 (Graph.variableType?_isSome_iff.1 (Option.isSome_of_eq_some hv))

theorem fst_describe (c : Cache) (g : Graph) (name : String) : (c.describe g name).1 =
    ⟨name, (live? g name).getD ((c.get? name).getD .wildcard),
      (c.get? name).isSome || g.binds name⟩ := by
  rw [← lookup_fst]
  rfl

theorem get?_describe (c : Cache) (g : Graph) (name : String) :
    (c.describe g name).2.get? name = (live? g name).or (c.get? name) :=
  (c.get?_lookup g name name).trans (if_pos rfl)

theorem known_of_isConcrete (h : (c.describe g name).1.type.isConcrete = true) :
    (c.describe g name).1.known = true := by
  rw [fst_describe] at h ⊢
  cases hlive : live? g name with
  | some type => simp [binds_of_live? hlive]
  | none =>
    cases hget : c.get? name with
    | some type => simp
    | none =>
      have hwildcard : TypeName.wildcard.isConcrete = false := by decide
      simp [hlive, hget, hwildcard] at h

theorem describe_describe (c : Cache) (g : Graph) (name : String) :
    ((c.describe g name).2.describe g name).1 = (c.describe g name).1 := by
  rw [fst_describe, fst_describe, get?_describe]
  cases hlive : live? g name with
  | some type => simp [binds_of_live? hlive]
  | none => rfl

theorem described (c : Cache) (g : Graph) (name : String) : Described c g name where
  known := by rw [fst_describe, Bool.or_eq_true, Graph.binds_iff]
  concrete := known_of_isConcrete
  again := describe_describe c g name

/-- In every run of a new cache the lookups are accounted for, and what is said about a variable
agrees with what is recorded and with the graph. -/
theorem accounted_run (ops : List Op) :
    Accounted (asked ops) (empty.run ops) ∧ ∀ g name, Described (empty.run ops) g name :=
  ⟨accounted ops, described (empty.run ops)⟩

end Cache

end NodeVariables
