import Mathlib.Data.List.Induction
import Mathlib.Data.Nat.Digits.Defs
import NodeVariables.Proofs.Bytes
import NodeVariables.Proofs.Prompts
/-!
Which of several Set nodes triggers the Get nodes of a variable. Ids are put in order with the
numbers first. The Set nodes are looked at in the order of their texts, which is another one, so the
lowest id can come late; it is found because the order of ids is transitive.
-/
namespace NodeVariables.Prompt

open Json Json.Value
open Text (bytes bytes_lt bytes_lt_iff)

def decimalValue (digits : List Char) : Nat :=
  Nat.ofDigits 10 (digits.reverse.map fun c => c.toNat - '0'.toNat)

/-- An id that writes a number of 64 bits in decimal digits, which a plus sign may precede. -/
inductive Numeral : String → Nat → Prop where
  | intro {id : String} {digits : List Char}
    (written : id.toList = digits ∨ id.toList = '+' :: digits) (nonempty : digits ≠ [])
    (decimal : ∀ c ∈ digits, c.isDigit) (fits : decimalValue digits < 2 ^ 64) :
    Numeral id (decimalValue digits)

variable {a b c id name : String} {m n : Nat}

section Numerals

theorem foldl_digits (digits : List Char) :
    digits.foldl (fun n c => 10 * n + (c.toNat - '0'.toNat)) 0 = decimalValue digits := by
  rw [decimalValue, Nat.ofDigits_eq_foldr, List.foldr_map, List.foldr_reverse]
  simp only [Nat.cast_id, Nat.add_comm]

def unsigned (id : String) : List Char :=
  match id.toList with
  | '+' :: r => r
  | r => r

theorem idNumber?_eq (id : String) : idNumber? id =
    if (unsigned id).isEmpty || !(unsigned id).all Char.isDigit then none
    else if decimalValue (unsigned id) < 2 ^ 64 then some (decimalValue (unsigned id))
    else none := by
  rw [← foldl_digits]
  rfl

theorem unsigned_of_written {digits : List Char} (decimal : ∀ c ∈ digits, c.isDigit)
    (written : id.toList = digits ∨ id.toList = '+' :: digits) : unsigned id = digits := by
  unfold unsigned
  rcases written with h | h
  · rw [h]
    split
    · next r =>
      have hsign : '+'.isDigit = true := decimal '+' (by simp)
      exact absurd hsign (by decide)
    · rfl
  · simp only [h]

theorem written_unsigned (id : String) :
    id.toList = unsigned id ∨ id.toList = '+' :: unsigned id := by
  unfold unsigned
  split
  · next h => exact .inr h
  · exact .inl rfl

theorem idNumber?_eq_some_iff : idNumber? id = some n ↔ Numeral id n := by
  rw [idNumber?_eq]
  constructor
  · intro h
    split_ifs at h with hdigits hfits
    simp only [Bool.or_eq_true, List.isEmpty_iff, Bool.not_eq_true', not_or,
      Bool.not_eq_false, List.all_eq_true] at hdigits
    rw [← Option.some.inj h]
    exact .intro (written_unsigned id) hdigits.1 hdigits.2 hfits
  · intro h
    cases h with
    | intro written nonempty decimal fits =>
      rw [unsigned_of_written decimal written, if_neg, if_pos fits]
      simpa [nonempty] using decimal

theorem idNumber?_eq_none_iff : idNumber? id = none ↔ ∀ n, ¬Numeral id n := by
  simp only [← idNumber?_eq_some_iff, Option.eq_none_iff_forall_ne_some, ne_eq]

end Numerals

section Order

theorem compareIds_texts (ha : idNumber? a = none) (hb : idNumber? b = none) :
    compareIds a b = compare a b := by
  simp only [compareIds, ha, hb]
  rfl

theorem compareIds_numbers (ha : idNumber? a = some m) (hb : idNumber? b = some n) :
    compareIds a b = compare m n := by
  simp only [compareIds, ha, hb]

theorem compareIds_swap (a b : String) : compareIds a b = (compareIds b a).swap := by
  cases ha : idNumber? a <;> cases hb : idNumber? b
  case none.none =>
    rw [compareIds_texts ha hb, compareIds_texts hb ha]
    exact Std.OrientedOrd.eq_swap
  case some.some =>
    rw [compareIds_numbers ha hb, compareIds_numbers hb ha]
    exact Std.OrientedOrd.eq_swap
  all_goals simp [compareIds, ha, hb]

theorem compareIds_trans (hab : (compareIds a b).isLE) (hbc : (compareIds b c).isLE) :
    (compareIds a c).isLE := by
  cases ha : idNumber? a <;> cases hb : idNumber? b <;> cases hc : idNumber? c
  case none.none.none =>
    rw [compareIds_texts ha hb] at hab
    rw [compareIds_texts hb hc] at hbc
    rw [compareIds_texts ha hc]
    exact Std.TransOrd.isLE_trans hab hbc
  case some.some.some =>
    rw [compareIds_numbers ha hb] at hab
    rw [compareIds_numbers hb hc] at hbc
    rw [compareIds_numbers ha hc]
    exact Std.TransOrd.isLE_trans hab hbc
  -- numbers come first, so in the other cases the comparison of modes decides
  all_goals simp_all [compareIds]

/-- The ids are put in order, though different ids may be equal. -/
instance : Std.TransCmp compareIds where
  eq_swap := compareIds_swap _ _
  isLE_trans := compareIds_trans

theorem compareIds_eq_iff :
    compareIds a b = .eq ↔ a = b ∨ ∃ n, idNumber? a = some n ∧ idNumber? b = some n := by
  cases ha : idNumber? a <;> cases hb : idNumber? b
  case none.none => simp [compareIds_texts ha hb]
  case some.some m n =>
    rw [compareIds_numbers ha hb, Nat.compare_eq_eq]
    constructor
    · rintro rfl
      exact .inr ⟨m, rfl, rfl⟩
    · rintro (rfl | ⟨k, hm, hn⟩)
      · exact Option.some.inj (ha.symm.trans hb)
      · exact Option.some.inj (hm.trans hn.symm)
  all_goals
    have hne : a ≠ b := by
      rintro rfl
      simp [ha] at hb
    simp [compareIds, ha, hb, hne]

/-- An order of ids. Numbers come first and compare by their values, all other ids compare by their
bytes, and ids are equal only if they are the same text or write the same number. -/
structure OrdersIds (cmp : String → String → Ordering) : Prop where
  swap : ∀ a b, cmp a b = (cmp b a).swap
  total : ∀ a b, (cmp a b).isLE ∨ (cmp b a).isLE
  trans : ∀ a b c, (cmp a b).isLE → (cmp b c).isLE → (cmp a c).isLE
  numbers : ∀ a b m n, Numeral a m → Numeral b n → cmp a b = compare m n
  numbersFirst : ∀ a b m, Numeral a m → (∀ n, ¬Numeral b n) → cmp a b = .lt
  texts : ∀ a b, (∀ n, ¬Numeral a n) → (∀ n, ¬Numeral b n) → (cmp a b = .lt ↔ bytes a < bytes b)
  equal : ∀ a b, cmp a b = .eq ↔ a = b ∨ ∃ n, Numeral a n ∧ Numeral b n

theorem ordersIds_compareIds : OrdersIds compareIds := by
  constructor
  case swap => exact compareIds_swap
  case total =>
    intro a b
    by_contra h
    obtain ⟨hab, hba⟩ := not_or.1 h
    exact hba (by simp [Std.OrientedCmp.lt_of_not_isLE hab])
  case trans => exact fun _ _ _ => compareIds_trans
  case numbers =>
    intro a b m n ha hb
    exact compareIds_numbers (idNumber?_eq_some_iff.2 ha) (idNumber?_eq_some_iff.2 hb)
  case numbersFirst =>
    intro a b m ha hb
    simp only [compareIds, idNumber?_eq_some_iff.2 ha, idNumber?_eq_none_iff.2 hb]
  case texts =>
    intro a b ha hb
    rw [compareIds_texts (idNumber?_eq_none_iff.2 ha) (idNumber?_eq_none_iff.2 hb), bytes_lt_iff]
    exact compareOfLessAndEq_eq_lt
  case equal =>
    intro a b
    simp only [compareIds_eq_iff, idNumber?_eq_some_iff]

end Order

section Lowest

/-- The lowest id of the Set nodes of a variable. Of the ids that are equal to it, it is the first
in the order of their bytes. -/
structure IsLowest (members : List (String × Value)) (name id : String) : Prop where
  isSet : ∃ node, (id, node) ∈ members ∧ isSetOf name node
  le : ∀ m ∈ members, isSetOf name m.2 → (compareIds id m.1).isLE
  first : ∀ m ∈ members, isSetOf name m.2 → compareIds id m.1 = .eq →
    id = m.1 ∨ bytes id < bytes m.1

variable {members : List (String × Value)} {ids : Table String String} {m : String × Value}

/-- What is noted for a variable when one more of its Set nodes is found. -/
def lower (current? : Option String) (id : String) : String :=
  match current? with
  | none => id
  | some current => if compareIds id current = .lt then id else current

theorem get?_addSetNode_self (ids : Table String String) (name id : String) :
    (addSetNode ids name id).get? name = some (lower (ids.get? name) id) := by
  unfold addSetNode lower
  cases hcurrent : ids.get? name with
  | none => simp [Table.get?_insert]
  | some current =>
    by_cases hlt : compareIds id current = .lt <;> simp [hlt, hcurrent, Table.get?_insert]

theorem get?_noteMember_of_isSetOf (h : isSetOf name m.2) :
    (noteMember ids m).get? name = some (lower (ids.get? name) m.1) := by
  simp only [isSetOf, Bool.and_eq_true, decide_eq_true_eq] at h
  simp only [noteMember, h.1, h.2, if_true]
  exact get?_addSetNode_self ids name m.1

theorem get?_noteMember_of_not_isSetOf (h : isSetOf name m.2 = false) :
    (noteMember ids m).get? name = ids.get? name := by
  rcases get?_noteMember ids m name with hkept | ⟨hset, -⟩
  · exact hkept
  · simp [h] at hset

theorem forall_mem_concat {p : String × Value → Prop} (h : ∀ x ∈ members, p x) (hm : p m) :
    ∀ x ∈ members ++ [m], p x := by
  intro x hx
  rcases List.mem_append.1 hx with hx | hx
  · exact h x hx
  · rwa [List.mem_singleton.1 hx]

theorem IsLowest.concat_other (h : IsLowest members name id) (hset : isSetOf name m.2 = false) :
    IsLowest (members ++ [m]) name id where
  isSet := by
    obtain ⟨node, hnode, hset⟩ := h.isSet
    exact ⟨node, List.mem_append_left _ hnode, hset⟩
  le := forall_mem_concat h.le (by simp [hset])
  first := forall_mem_concat h.first (by simp [hset])

/-- The lowest id stays the lowest or gives way to a new one that comes last in the order of
texts. -/
theorem IsLowest.concat (h : IsLowest members name id) (hlast : ∀ x ∈ members, x.1 < m.1)
    (hset : isSetOf name m.2) : IsLowest (members ++ [m]) name (lower (some id) m.1) := by
  by_cases hlt : compareIds m.1 id = .lt
  · rw [lower, if_pos hlt]
    have hbelow : ∀ x ∈ members, isSetOf name x.2 → compareIds m.1 x.1 = .lt :=
      fun x hx hxset => Std.TransCmp.lt_of_lt_of_isLE hlt (h.le x hx hxset)
    refine ⟨⟨m.2, by simp, hset⟩, forall_mem_concat ?_ ?_, forall_mem_concat ?_ ?_⟩
    · intro x hx hxset
      simp [hbelow x hx hxset]
    · intro _
      simp [Std.ReflCmp.compare_self]
    · intro x hx hxset heq
      simp [hbelow x hx hxset] at heq
    · exact fun _ _ => .inl rfl
  · rw [lower, if_neg hlt]
    obtain ⟨node, hnode, hidset⟩ := h.isSet
    refine ⟨⟨node, List.mem_append_left _ hnode, hidset⟩, forall_mem_concat h.le ?_,
      forall_mem_concat h.first ?_⟩
    · intro _
      by_contra hle
      exact hlt (Std.OrientedCmp.lt_of_not_isLE hle)
    · exact fun _ _ => .inr (bytes_lt (hlast (id, node) hnode))

/-- The first Set node of a variable is the lowest so far. -/
theorem isLowest_concat_of_none (hnone : (members.any fun x => isSetOf name x.2) = false)
    (hset : isSetOf name m.2) : IsLowest (members ++ [m]) name m.1 := by
  have hother : ∀ x ∈ members, ¬isSetOf name x.2 := by simpa using hnone
  refine ⟨⟨m.2, by simp, hset⟩, forall_mem_concat ?_ ?_, forall_mem_concat ?_ ?_⟩
  · exact fun x hx hxset => absurd hxset (hother x hx)
  · intro _
    simp [Std.ReflCmp.compare_self]
  · exact fun x hx hxset => absurd hxset (hother x hx)
  · exact fun _ _ => .inl rfl

theorem setIds_concat (members : List (String × Value)) (m : String × Value) :
    setIds (members ++ [m]) = noteMember (setIds members) m := by
  rw [setIds_eq, List.foldl_concat, setIds_eq]

/-- The members are looked at in the order of their texts, and what is noted is the lowest id of
those that were looked at. -/
theorem isLowest_of_get?_setIds (hs : members.Pairwise fun x y => x.1 < y.1)
    (h : (setIds members).get? name = some id) : IsLowest members name id := by
  induction members using List.reverseRecOn generalizing id with
  | nil => simp [setIds] at h
  | append_singleton rest m ih =>
    obtain ⟨hrest, -, hlast⟩ := List.pairwise_append.1 hs
    have hlast : ∀ x ∈ rest, x.1 < m.1 := fun x hx => hlast x hx m (by simp)
    rw [setIds_concat] at h
    cases hset : isSetOf name m.2 with
    | false =>
      rw [get?_noteMember_of_not_isSetOf hset] at h
      exact (ih hrest h).concat_other hset
    | true =>
      rw [get?_noteMember_of_isSetOf hset] at h
      obtain rfl := Option.some.inj h
      cases hcurrent : (setIds rest).get? name with
      | none =>
        have hnone := isSome_get?_setIds rest name
        rw [hcurrent, Option.isSome_none] at hnone
        exact isLowest_concat_of_none hnone.symm hset
      | some current => exact (ih hrest hcurrent).concat hlast hset

theorem IsLowest.unique {other : String} (h : IsLowest members name id)
    (h' : IsLowest members name other) : id = other := by
  obtain ⟨node, hnode, hset⟩ := h.isSet
  obtain ⟨node', hnode', hset'⟩ := h'.isSet
  have hle : (compareIds id other).isLE := h.le (other, node') hnode' hset'
  have hge : (compareIds other id).isLE := h'.le (id, node) hnode hset
  have heq : compareIds id other = .eq := Std.OrientedCmp.isLE_antisymm hle hge
  have heq' : compareIds other id = .eq := Std.OrientedCmp.isLE_antisymm hge hle
  rcases h.first (other, node') hnode' hset' heq with hid | hlt
  · exact hid
  rcases h'.first (id, node) hnode hset heq' with hid | hgt
  · exact hid.symm
  · exact absurd hlt (List.lt_asymm hgt)

/-- The id that is noted for a variable is the lowest one of its Set nodes. -/
theorem get?_setIds_eq_some_iff (prompt : Table String Value) :
    (setIds prompt.entries).get? name = some id ↔ IsLowest prompt.entries name id := by
  refine ⟨isLowest_of_get?_setIds prompt.sorted, fun h => ?_⟩
  obtain ⟨node, hnode, hset⟩ := h.isSet
  have hsome := isSome_get?_setIds prompt.entries name
  rw [List.any_eq_true.2 ⟨_, hnode, hset⟩] at hsome
  obtain ⟨noted, hnoted⟩ := Option.isSome_iff_exists.1 hsome
  rw [hnoted, h.unique (isLowest_of_get?_setIds prompt.sorted hnoted)]

end Lowest

section Triggers

variable {ids : Table String String} {node : Value}

theorem at?_rewire (hclass : classType? node = some Node.getType)
    (hname : variableName? node = some name) (hid : ids.get? name = some id) :
    (rewire ids node).at? ["inputs", Node.triggerInput] = some (triggerOf id) := by
  obtain ⟨fields, inputs, rfl, hheld⟩ := exists_inputs hname
  have hwires := Wires.intro hclass hname hid hheld
  obtain ⟨name', id', hname', hid', htrigger⟩ := hwires.trigger_eq
  obtain rfl := Option.some.inj (hname.symm.trans hname')
  obtain rfl := Option.some.inj (hid.symm.trans hid')
  rw [rewire_of_wires hwires, htrigger]

/-- The ids of Set nodes are put in order, the lowest id of a variable is noted, and every Get node
of the variable is triggered by the Set node with that id. -/
theorem lowest_triggers : OrdersIds compareIds ∧ ∀ prompt : Table String Value,
    (∀ name id, (setIds prompt.entries).get? name = some id ↔ IsLowest prompt.entries name id) ∧
    (∀ m ∈ prompt.entries, ∀ name, isSetOf name m.2 → ∃ id, IsLowest prompt.entries name id) ∧
    ∀ request key node name id, promptOf request = .object prompt.entries →
      prompt.get? key = some node → classType? node = some "GetNodeGlobal" →
      variableName? node = some name → IsLowest prompt.entries name id →
      (promptOf (connect request).2).at? [key, "inputs", "_trigger"] =
        some (.list [.text id, .ofNat 1]) := by
  refine ⟨ordersIds_compareIds, fun prompt => ⟨?_, ?_, ?_⟩⟩
  · exact fun _ _ => get?_setIds_eq_some_iff prompt
  · intro m hm name hset
    have hsome := isSome_get?_setIds prompt.entries name
    rw [List.any_eq_true.2 ⟨m, hm, hset⟩] at hsome
    obtain ⟨id, hid⟩ := Option.isSome_iff_exists.1 hsome
    exact ⟨id, (get?_setIds_eq_some_iff prompt).1 hid⟩
  · intro request key node name id hprompt hnode hclass hname hlowest
    have hid := (get?_setIds_eq_some_iff prompt).2 hlowest
    have hmember : (promptOf (connect request).2).member? key =
        some (rewire (setIds prompt.entries) node) := by
      rw [promptOf_connect, hprompt, connectBare_object, member?, Table.lookup_map_values]
      exact congrArg (Option.map _) hnode
    rw [at?, List.foldlM_cons, hmember]
    exact at?_rewire hclass hname hid

def setMemberOf (name : String) : Value :=
  .object [("class_type", .text Node.setType),
    ("inputs", .object [(Node.variableWidget, .text name)])]

/-- Set nodes with a signed number, a number that is too large, and no number, and a Get node. -/
def crowded : Table String Value := .ofList [
  ("9", setMemberOf "foo"), ("10", setMemberOf "foo"), ("+20", setMemberOf "foo"),
  ("18446744073709551616", setMemberOf "foo"), ("a", setMemberOf "foo"),
  ("get", .object [("class_type", .text Node.getType),
    ("inputs", .object [(Node.variableWidget, .text "foo")])])]

theorem lowest_triggers_crowded :
    crowded.keys = ["+20", "10", "18446744073709551616", "9", "a", "get"] ∧
    IsLowest crowded.entries "foo" "9" ∧
    (promptOf (connect (.object crowded.entries)).2).at? ["get", "inputs", "_trigger"] =
      some (.list [.text "9", .ofNat 1]) := by
  obtain ⟨hnoted, -, htriggers⟩ := lowest_triggers.2 crowded
  have hlowest : IsLowest crowded.entries "foo" "9" := (hnoted "foo" "9").1 (by decide)
  refine ⟨by decide, hlowest, ?_⟩
  exact htriggers _ "get" _ "foo" "9" rfl rfl (by decide) (by decide) hlowest

end Triggers

end NodeVariables.Prompt
