import Mathlib.Data.List.Forall2
import NodeVariables.Prompt
import NodeVariables.Proofs.Bare
import NodeVariables.Proofs.Json.Members

namespace NodeVariables.Prompt

open Json Json.Value

def isSetOf (name : String) (node : Value) : Bool :=
  classType? node = some Node.setType && variableName? node = some name

/-- A Get node whose variable has a Set node among the members. -/
def isMatched (members : List (String × Value)) (node : Value) : Bool :=
  classType? node = some Node.getType &&
    (variableName? node).any fun name => members.any fun m => isSetOf name m.2

variable {members : List (String × Value)} {ids : Table String String} {node wired : Value}
  {name id : String} {m : String × Value} {n : Nat}

section SetIds

def noteMember (ids : Table String String) (m : String × Value) : Table String String :=
  if classType? m.2 = some Node.setType then
    match variableName? m.2 with
    | some name => addSetNode ids name m.1
    | none => ids
  else ids

theorem setIds_eq (members : List (String × Value)) :
    setIds members = members.foldl noteMember .empty := rfl

theorem get?_addSetNode (ids : Table String String) (noted id name : String) :
    (addSetNode ids noted id).get? name = ids.get? name ∨
      noted = name ∧ (addSetNode ids noted id).get? name = some id := by
  have hinsert : (ids.insert noted id).get? name = ids.get? name ∨
      noted = name ∧ (ids.insert noted id).get? name = some id := by
    rw [Table.get?_insert]
    by_cases h : name = noted <;> simp [h]
  unfold addSetNode
  split
  · exact hinsert
  · split
    · exact hinsert
    · exact .inl rfl

theorem isSome_get?_addSetNode (ids : Table String String) (name id : String) :
    ((addSetNode ids name id).get? name).isSome := by
  unfold addSetNode
  split
  · simp [Table.get?_insert]
  · next current hcurrent =>
    split
    · simp [Table.get?_insert]
    · rw [hcurrent, Option.isSome_some]

theorem get?_noteMember (ids : Table String String) (m : String × Value) (name : String) :
    (noteMember ids m).get? name = ids.get? name ∨
      isSetOf name m.2 ∧ (noteMember ids m).get? name = some m.1 := by
  unfold noteMember
  split
  · next hclass =>
    split
    · next noted hname =>
      rcases get?_addSetNode ids noted m.1 name with hkept | ⟨rfl, hid⟩
      · exact .inl hkept
      · exact .inr ⟨by simp [isSetOf, hclass, hname], hid⟩
    · exact .inl rfl
  · exact .inl rfl

theorem isSome_get?_noteMember (ids : Table String String) (h : isSetOf name m.2) :
    ((noteMember ids m).get? name).isSome := by
  simp only [isSetOf, Bool.and_eq_true, decide_eq_true_eq] at h
  simp only [noteMember, h.1, h.2, if_true]
  exact isSome_get?_addSetNode ..

theorem mem_of_get?_foldl (h : (members.foldl noteMember ids).get? name = some id) :
    ids.get? name = some id ∨ ∃ set, (id, set) ∈ members ∧ isSetOf name set := by
  induction members generalizing ids with
  | nil => exact .inl h
  | cons m rest ih =>
    rcases ih h with hnoted | ⟨set, hmem, hset⟩
    · rcases get?_noteMember ids m name with hkept | ⟨hset, hid⟩
      · exact .inl (hkept ▸ hnoted)
      · obtain rfl : m.1 = id := Option.some.inj (hid.symm.trans hnoted)
        exact .inr ⟨m.2, by simp, hset⟩
    · exact .inr ⟨set, List.mem_cons_of_mem _ hmem, hset⟩

theorem isSome_get?_foldl (h : (ids.get? name).isSome ∨ members.any fun m => isSetOf name m.2) :
    ((members.foldl noteMember ids).get? name).isSome := by
  induction members generalizing ids with
  | nil => simpa using h
  | cons m rest ih =>
    apply ih
    rw [List.any_cons, Bool.or_eq_true, ← or_assoc] at h
    refine h.imp_left fun h => ?_
    rcases h with hsome | hset
    · rcases get?_noteMember ids m name with hkept | ⟨-, hid⟩
      · rwa [hkept]
      · rw [hid, Option.isSome_some]
    · exact isSome_get?_noteMember ids hset

/-- The id that a variable has is the key of one of its Set nodes. -/
theorem mem_of_get?_setIds (h : (setIds members).get? name = some id) :
    ∃ set, (id, set) ∈ members ∧ isSetOf name set :=
  (mem_of_get?_foldl h).resolve_left (by simp)

theorem isSome_get?_setIds (members : List (String × Value)) (name : String) :
    ((setIds members).get? name).isSome = members.any fun m => isSetOf name m.2 := by
  rw [Bool.eq_iff_iff]
  constructor
  · intro h
    obtain ⟨id, hid⟩ := Option.isSome_iff_exists.1 h
    obtain ⟨set, hmem, hset⟩ := mem_of_get?_setIds hid
    exact List.any_eq_true.2 ⟨(id, set), hmem, hset⟩
  · intro h
    exact isSome_get?_foldl (.inr h)

end SetIds

section Nodes

/-- The second node is the first one, a Get node, with the trigger input wired to the Set node that
the table has for the variable. -/
inductive Wires (ids : Table String String) : Value → Value → Prop where
  | intro {fields inputs : List (String × Value)} {name id : String}
    (getNode : classType? (.object fields) = some Node.getType)
    (named : variableName? (.object fields) = some name)
    (found : ids.get? name = some id)
    (held : fields.lookup "inputs" = some (.object inputs)) :
    Wires ids (.object fields) (.object (setMember "inputs"
      (.object (setMember Node.triggerInput (triggerOf id) inputs)) fields))

/-- A node with a variable has inputs. -/
theorem exists_inputs (h : variableName? node = some name) :
    ∃ fields inputs, node = .object fields ∧ fields.lookup "inputs" = some (.object inputs) := by
  simp only [variableName?, Option.filter_eq_some_iff, Option.bind_eq_some_iff] at h
  obtain ⟨⟨value, ⟨held, hheld, hvalue⟩, -⟩, -⟩ := h
  cases node with
  | object fields =>
    cases held with
    | object inputs => exact ⟨fields, inputs, rfl, hheld⟩
    | _ => simp [member?] at hvalue
  | _ => simp [member?] at hheld

theorem connectNode?_eq_some_iff : connectNode? ids node = some wired ↔ Wires ids node wired := by
  constructor
  · intro h
    unfold connectNode? at h
    split at h
    · next fields inputs id hpartner =>
      obtain rfl := Option.some.inj h
      unfold partner? at hpartner
      split at hpartner
      · next hclass =>
        obtain ⟨name, hname, hpartner⟩ := Option.bind_eq_some_iff.1 hpartner
        obtain ⟨found, hfound, hpartner⟩ := Option.bind_eq_some_iff.1 hpartner
        obtain ⟨held, hheld, hpartner⟩ := Option.bind_eq_some_iff.1 hpartner
        split at hpartner
        · obtain ⟨rfl, rfl⟩ := Prod.mk.inj (Option.some.inj hpartner)
          exact .intro hclass hname hfound hheld
        · simp at hpartner
      · simp at hpartner
    · simp at h
  · intro h
    cases h with
    | @intro fields inputs name id getNode named found held =>
      have hmember : (object fields).member? "inputs" = some (.object inputs) := held
      have hpartner : partner? ids (.object fields) = some (inputs, id) := by
        simp [partner?, getNode, named, found, hmember]
      simp [connectNode?, hpartner]

/-- The nodes that are wired are the Get nodes with a Set node of their variable. -/
theorem isSome_connectNode? (members : List (String × Value)) (node : Value) :
    (connectNode? (setIds members) node).isSome = isMatched members node := by
  rw [Bool.eq_iff_iff, Option.isSome_iff_exists]
  simp only [connectNode?_eq_some_iff, isMatched, Bool.and_eq_true, decide_eq_true_eq,
    ← isSome_get?_setIds]
  constructor
  · rintro ⟨wired, getNode, named, found, held⟩
    simp [getNode, named, found]
  · rintro ⟨hclass, hmatch⟩
    obtain ⟨name, hname, hsome⟩ := (Option.any_eq_true ..).1 hmatch
    obtain ⟨id, hid⟩ := Option.isSome_iff_exists.1 hsome
    obtain ⟨fields, inputs, rfl, hheld⟩ := exists_inputs hname
    exact ⟨_, .intro hclass hname hid hheld⟩

namespace Wires

variable (h : Wires ids node wired)

include h

theorem classType?_eq : classType? wired = classType? node := by
  cases h with
  | intro getNode named found held => simp [classType?, member?, lookup_setMember]

theorem variableName?_eq : variableName? wired = variableName? node := by
  cases h with
  | intro getNode named found held =>
    have hne : Node.variableWidget ≠ Node.triggerInput := by decide
    simp [variableName?, member?, lookup_setMember, held, hne]

/-- A wired node is wired once more to the same effect. -/
theorem again : Wires ids wired wired := by
  have hclass := h.classType?_eq
  have hname := h.variableName?_eq
  cases h with
  | @intro fields inputs name id getNode named found held =>
    let wiredInputs := setMember Node.triggerInput (triggerOf id) inputs
    have hinputs : (setMember "inputs" (.object wiredInputs) fields).lookup "inputs" =
        some (.object wiredInputs) := by rw [lookup_setMember, if_pos rfl]
    have htrigger : wiredInputs.lookup Node.triggerInput = some (triggerOf id) := by
      rw [lookup_setMember, if_pos rfl]
    have hagain := Wires.intro (hclass.trans getNode) (hname.trans named) found hinputs
    rwa [setMember_eq_self htrigger, setMember_eq_self hinputs] at hagain

theorem trigger_eq : ∃ name id, variableName? node = some name ∧ ids.get? name = some id ∧
    wired.at? ["inputs", Node.triggerInput] = some (triggerOf id) := by
  cases h with
  | intro getNode named found held =>
    refine ⟨_, _, named, found, ?_⟩
    simp [at?, member?, lookup_setMember]

end Wires

def rewire (ids : Table String String) (node : Value) : Value :=
  (connectNode? ids node).getD node

theorem rewire_of_wires (h : Wires ids node wired) : rewire ids node = wired := by
  rw [rewire, connectNode?_eq_some_iff.2 h, Option.getD_some]

end Nodes

section Members

theorem connectMembers_eq (ids : Table String String) (members : List (String × Value)) :
    connectMembers ids members = (members.countP fun m => (connectNode? ids m.2).isSome,
      members.map fun m => (m.1, rewire ids m.2)) := by
  induction members with
  | nil => rfl
  | cons m rest ih =>
    obtain ⟨key, node⟩ := m
    cases h : connectNode? ids node <;> simp [connectMembers, ih, rewire, h]

/-- The number of Get nodes whose variable has a Set node. -/
def matchCount (members : List (String × Value)) : Nat :=
  members.countP fun m => isMatched members m.2

theorem connectBare_object (members : List (String × Value)) :
    connectBare (.object members) =
      (matchCount members, .object (members.map fun m => (m.1, rewire (setIds members) m.2))) := by
  simp only [connectBare, connectMembers_eq, isSome_connectNode?, matchCount]

theorem member?_connectBare {v : Value} (h : v.member? "prompt" = none) :
    (connectBare v).2.member? "prompt" = none := by
  cases v with
  | object members =>
    have hlookup := Table.lookup_map_values (rewire (setIds members)) members "prompt"
    rw [connectBare_object]
    exact hlookup.trans (Option.map_eq_none_iff.2 h)
  | _ => rfl

end Members

section Requests

/-- The prompt of a request: what stands under the name `prompt`, or else the request itself. -/
def promptOf (request : Value) : Value := (request.member? "prompt").getD request

variable {request prompt : Value} {fields : List (String × Value)}

theorem connect_enveloped (h : fields.lookup "prompt" = some prompt) :
    connect (.object fields) =
      ((connectBare prompt).1, .object (setMember "prompt" (connectBare prompt).2 fields)) := by
  simp [connect, member?, h]

theorem connect_bare (h : request.member? "prompt" = none) :
    connect request = connectBare request := by
  cases request with
  | object fields => simp [connect, h]
  | _ => rfl

theorem exists_fields (h : request.member? "prompt" = some prompt) :
    ∃ fields, request = .object fields ∧ fields.lookup "prompt" = some prompt := by
  cases request with
  | object fields => exact ⟨fields, rfl, h⟩
  | _ => simp [member?] at h

theorem promptOf_connect (request : Value) :
    promptOf (connect request).2 = (connectBare (promptOf request)).2 := by
  cases h : request.member? "prompt" with
  | some prompt =>
    obtain ⟨fields, rfl, hprompt⟩ := exists_fields h
    rw [connect_enveloped hprompt]
    simp [promptOf, member?, lookup_setMember, hprompt]
  | none =>
    have hnone := member?_connectBare h
    simp only [connect_bare h, promptOf, h, hnone, Option.getD_none]

end Requests

end NodeVariables.Prompt
