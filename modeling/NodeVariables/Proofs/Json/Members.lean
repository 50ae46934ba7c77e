import NodeVariables.Json.Value

namespace NodeVariables.Json.Value

def at? (path : List String) (v : Value) : Option Value := path.foldlM member? v

variable {name : String} {v old : Value} {members : List (String × Value)}

theorem lookup_cons_of_ne {m : String × Value} {j : String} (h : j ≠ m.1) :
    (m :: members).lookup j = members.lookup j := by
  obtain ⟨key, value⟩ := m
  rw [List.lookup_cons, beq_eq_false_iff_ne.2 h]

theorem lookup_replaceFirst (h : (members.lookup name).isSome) (j : String) :
    (replaceFirst name v members).lookup j = if j = name then some v else members.lookup j := by
  induction members with
  | nil => simp at h
  | cons m rest ih =>
    obtain ⟨key, value⟩ := m
    by_cases hkey : key = name
    · subst hkey
      by_cases hj : j = key
      · simp [replaceFirst, hj]
      · simp [replaceFirst, hj, lookup_cons_of_ne]
    · have hrest : (rest.lookup name).isSome := by
        rwa [lookup_cons_of_ne (Ne.symm hkey)] at h
      by_cases hj : j = key
      · subst hj
        simp [replaceFirst, hkey]
      · simp [replaceFirst, hkey, lookup_cons_of_ne, hj, ih hrest]

theorem lookup_setMember (name : String) (v : Value) (members : List (String × Value))
    (j : String) :
    (setMember name v members).lookup j = if j = name then some v else members.lookup j := by
  unfold setMember
  split
  · next h => exact lookup_replaceFirst h j
  · exact Table.lookup_insertEntry ..

/-- A member that is replaced by its like looks as before. -/
theorem map_replaceFirst {α : Type} {f : String × Value → α} (h : members.lookup name = some old)
    (hf : f (name, v) = f (name, old)) : (replaceFirst name v members).map f = members.map f := by
  induction members with
  | nil => simp at h
  | cons m rest ih =>
    obtain ⟨key, value⟩ := m
    by_cases hkey : key = name
    · subst hkey
      obtain rfl : value = old := by simpa using h
      simp [replaceFirst, hf]
    · have hrest : rest.lookup name = some old := by
        rwa [lookup_cons_of_ne (Ne.symm hkey)] at h
      simp [replaceFirst, hkey, ih hrest]

theorem map_setMember {α : Type} {f : String × Value → α} (h : members.lookup name = some old)
    (hf : f (name, v) = f (name, old)) : (setMember name v members).map f = members.map f := by
  rw [setMember, if_pos (by rw [h, Option.isSome_some]), map_replaceFirst h hf]

theorem setMember_eq_self (h : members.lookup name = some v) :
    setMember name v members = members := by
  simpa using map_setMember (f := id) h rfl

end NodeVariables.Json.Value
