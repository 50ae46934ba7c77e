import NodeVariables.Proofs.Linking
import NodeVariables.Proofs.Loading
import NodeVariables.Proofs.OwnLinkIds
import NodeVariables.Proofs.Removal

namespace NodeVariables

/-- The id after which a counter has none left. -/
def topId : UInt64 := .ofNat (lastId - 1)

theorem toNat_topId : topId.toNat + 1 = lastId := rfl

theorem toNat_max (a b : UInt64) : (max a b).toNat = max a.toNat b.toNat := by
  have hmax : max a b = if a ≤ b then b else a := rfl
  rw [hmax, apply_ite UInt64.toNat, Nat.max_def]
  simp only [UInt64.le_iff_toNat_le]

theorem toNat_add_one {a : UInt64} (h : a.toNat < lastId) : (a + 1).toNat = a.toNat + 1 := by
  have hone : (1 : UInt64).toNat = 1 := rfl
  have hlast : lastId = 2 ^ 64 - 1 := rfl
  rw [UInt64.toNat_add]
  omega

namespace Table

variable {ν : Type}

/-- The least number above every key. -/
def beyond (t : Table UInt64 ν) : Nat := (t.keys.map fun key => key.toNat + 1).foldr max 0

theorem beyond_le_iff {t : Table UInt64 ν} {n : Nat} :
    t.beyond ≤ n ↔ ∀ key ∈ t.keys, key.toNat + 1 ≤ n := by
  unfold beyond
  induction t.keys with
  | nil => simp
  | cons key rest ih =>
    simp only [List.map_cons, List.foldr_cons, Nat.max_le, ih, List.forall_mem_cons]

/-- The keys ascend, so that the last one decides. -/
theorem beyond_eq (t : Table UInt64 ν) :
    t.beyond = match t.maxKey? with
      | some key => key.toNat + 1
      | none => 0 := by
  cases hlast : t.maxKey? with
  | none =>
    have hnil : t.keys = [] := List.getLast?_eq_none_iff.1 hlast
    rw [beyond, hnil]
    rfl
  | some last =>
    apply Nat.le_antisymm
    · rw [beyond_le_iff]
      intro key hkey
      obtain ⟨_, hmax, hle⟩ := Graph.exists_maxKey? hkey
      obtain rfl := Option.some.inj (hlast.symm.trans hmax)
      exact Nat.succ_le_succ (UInt64.le_iff_toNat_le.1 hle)
    · exact beyond_le_iff.1 (Nat.le_refl _) last (List.mem_of_getLast? hlast)

end Table

namespace Graph

inductive Counter where
  | nodes
  | links
deriving DecidableEq

def next (g : Graph) : Counter → UInt64
  | .nodes => g.nextNodeId
  | .links => g.nextLinkId

def ids (g : Graph) : Counter → List UInt64
  | .nodes => g.nodes.keys
  | .links => g.links.keys

/-- What a counter is raised to: it is not lowered, and it is above every id in use. -/
def reach (g : Graph) : Counter → Nat
  | .nodes => max g.nextNodeId.toNat g.nodes.beyond
  | .links => max g.nextLinkId.toNat g.links.beyond

section Loading

theorem raise_eq {ν : Type} (stored : UInt64) (table : Table UInt64 ν) (limit : Limit) :
    raise stored table.maxKey? limit =
      if max stored.toNat table.beyond < lastId then .ok (.ofNat (max stored.toNat table.beyond))
      else .error (.limit limit) := by
  rw [Table.beyond_eq]
  rfl

theorem raiseCounters_eq (g : Graph) : g.raiseCounters =
    if lastId ≤ g.reach .nodes then .error (.limit .savedNodeIds)
    else if lastId ≤ g.reach .links then .error (.limit .savedLinkIds)
    else .ok { g with
      nextNodeId := .ofNat (g.reach .nodes)
      nextLinkId := .ofNat (g.reach .links) } := by
  simp only [raiseCounters, raise_eq, ← Nat.not_lt, ite_not, reach]
  split_ifs <;> rfl

/-- A saved graph is refused for its counters just if one of them would reach the last id. In an
accepted one the counters are what they are raised to, and nothing else has changed. -/
structure Admission (stored : Graph) (loaded : Except Failure Graph) : Prop where
  refused : (∃ limit, loaded = .error (.limit limit)) ↔ ∃ c, lastId ≤ stored.reach c
  accepted : (∃ g, loaded = .ok g) ↔ ∀ c, stored.reach c < lastId
  unchanged : ∀ g, loaded = .ok g →
    g = { stored with nextNodeId := g.nextNodeId, nextLinkId := g.nextLinkId }
  raised : ∀ g, loaded = .ok g → ∀ c, (g.next c).toNat = stored.reach c

theorem admission_raiseCounters (stored : Graph) : Admission stored stored.raiseCounters := by
  have hfits {n : Nat} (h : n < lastId) : (UInt64.ofNat n).toNat = n :=
    UInt64.toNat_ofNat_of_lt' (Nat.lt_trans h (by decide))
  rw [raiseCounters_eq]
  split_ifs with hnodes hlinks
  · have hover : ∃ c, lastId ≤ stored.reach c := ⟨_, hnodes⟩
    constructor
    case refused => simpa using hover
    case accepted => simpa using hover
    all_goals simp
  · have hover : ∃ c, lastId ≤ stored.reach c := ⟨_, hlinks⟩
    constructor
    case refused => simpa using hover
    case accepted => simpa using hover
    all_goals simp
  · have hroom (c : Counter) : stored.reach c < lastId := by
      cases c
      · exact Nat.not_le.1 hnodes
      · exact Nat.not_le.1 hlinks
    constructor
    case refused => simpa using hroom
    case accepted => simpa using hroom
    case unchanged =>
      rintro g ⟨⟩
      rfl
    case raised =>
      rintro g ⟨⟩ c
      have hc := hfits (hroom c)
      cases c <;> exact hc

theorem toNat_lt_reach {g : Graph} {c : Counter} {id : UInt64} (hid : id ∈ g.ids c) :
    id.toNat < g.reach c := by
  cases c <;>
    exact Nat.le_trans (Table.beyond_le_iff.1 (Nat.le_refl _) id hid) (Nat.le_max_right ..)

theorem ofText_of_read {text : String} {stored : Graph} (h : read.whole text = .ok stored) :
    ofText text = stored.raiseCounters := by
  rw [ofText, h]

theorem exists_read_of_ofText {text : String} {g : Graph} (h : ofText text = .ok g) :
    ∃ stored, read.whole text = .ok stored := by
  cases hread : read.whole text with
  | ok stored => exact ⟨stored, rfl⟩
  | error fault => simp [ofText, hread] at h

end Loading

section Adding

theorem topId_le_iff {id : UInt64} : topId ≤ id ↔ ¬id.toNat + 1 < lastId := by
  rw [UInt64.le_iff_toNat_le, ← toNat_topId]
  omega

theorem lt_topId_iff {id : UInt64} : id < topId ↔ id.toNat + 1 < lastId := by
  rw [UInt64.lt_iff_toNat_lt, ← toNat_topId]
  omega

theorem addNodeAt_of_topId_le (g : Graph) {id : NodeId} (h : topId ≤ id) (node : Node) :
    g.addNodeAt id node = .error (.limit (.nodeId id)) :=
  if_neg (topId_le_iff.1 h)

theorem exists_addNodeAt_of_lt (g : Graph) {id : NodeId} (h : id < topId) (node : Node) :
    ∃ added, g.addNodeAt id node = .ok added :=
  ⟨_, if_pos (lt_topId_iff.1 h)⟩

theorem addNodeAt_eq_ok {g added : Graph} {id : NodeId} {node : Node}
    (ok : g.addNodeAt id node = .ok added) : id.toNat + 1 < lastId ∧
      added = { g.putNode id node with nextNodeId := max g.nextNodeId (id + 1) } := by
  unfold addNodeAt at ok
  split at ok
  · next hroom => exact ⟨hroom, (Except.ok.inj ok).symm⟩
  · simp at ok

/-- Adding a node under an id as a check and then changes of one graph. -/
def addInPlace (id : NodeId) (node : Node) : ExceptT Failure (StateM Graph) NodeId := do
  if lastId ≤ id.toNat + 1 then throw (.limit (.nodeId id))
  modify (·.putNode id node)
  modify fun g => { g with nextNodeId := max g.nextNodeId (id + 1) }
  return id

theorem run_addInPlace (g : Graph) (id : NodeId) (node : Node) :
    (addInPlace id node).run.run g =
      match g.addNodeAt id node with
      | .ok g' => (.ok id, g')
      | .error failure => (.error failure, g) := by
  unfold addInPlace addNodeAt
  by_cases hroom : id.toNat + 1 < lastId
  · rw [if_pos hroom, if_neg (Nat.not_le.2 hroom)]
    rfl
  · rw [if_neg hroom, if_pos (Nat.not_lt.1 hroom)]
    rfl

end Adding

inductive Edit where
  | addNode (node : Node)
  | addNodeAt (id : NodeId) (node : Node)
  | removeNode (id : NodeId)
  | addLink (origin target : Port)
  | removeLink (id : LinkId)
  | change (id : NodeId) (f : Node → Node)
  | display (palette : Palette) (port : Port) (type : TypeName)
  | requestRedraw (id : NodeId)
  | takeRedraws

/-- The graph after an edit, also after one that was refused. -/
def edited (g : Graph) : Edit → Graph
  | .addNode node => (g.addNode node).2
  | .addNodeAt id node => ((addInPlace id node).run.run g).2
  | .removeNode id => (g.removeNode id).2
  | .addLink origin target => ((linkInPlace origin target).run.run g).2
  | .removeLink id => g.removeLink id
  | .change id f => g.modifyNode id f
  | .display palette port type => (g.display palette port type).2
  | .requestRedraw id => g.requestRedraw id
  | .takeRedraws => g.takeRedraws.2

def given? (g : Graph) (c : Counter) : Edit → Option UInt64
  | .addNode node => if c = .nodes then some (g.addNode node).1 else none
  | .addLink origin target =>
    if c = .links then ((linkInPlace origin target).run.run g).1.toOption else none
  | _ => none

def editedAll (g : Graph) (edits : List Edit) : Graph := edits.foldl edited g

def givenAll (g : Graph) (c : Counter) : List Edit → List UInt64
  | [] => []
  | e :: rest => (g.given? c e).toList ++ (g.edited e).givenAll c rest

structure Shrinks (g g' : Graph) (c : Counter) : Prop where
  next : g'.next c = g.next c
  used : ∀ id ∈ g'.ids c, id ∈ g.ids c

/-- What an edit does to a counter. Either the counter gives its value as an id and counts on, or it
gives nothing and stays below the last id. -/
inductive Counts (g g' : Graph) (c : Counter) : Option UInt64 → Prop where
  | gives (next : g'.next c = g.next c + 1)
      (used : ∀ id ∈ g'.ids c, id = g.next c ∨ id ∈ g.ids c) : Counts g g' c (some (g.next c))
  | keeps (next : g.next c ≤ g'.next c)
      (room : (g.next c).toNat < lastId → (g'.next c).toNat < lastId)
      (used : ∀ id ∈ g'.ids c, id < g'.next c ∨ id ∈ g.ids c) : Counts g g' c none

theorem mem_linkIds_iff {g : Graph} {k : LinkId} :
    k ∈ g.ids .links ↔ ∃ l, g.link? k = some l :=
  Table.mem_keys_iff

namespace Shrinks

variable {g g' g'' : Graph} {c : Counter}

theorem of_eq (hnext : g'.next c = g.next c) (hids : g'.ids c = g.ids c) : Shrinks g g' c :=
  ⟨hnext, fun _ hid => hids ▸ hid⟩

theorem refl (g : Graph) (c : Counter) : Shrinks g g c := of_eq rfl rfl

theorem trans (h : Shrinks g g' c) (h' : Shrinks g' g'' c) : Shrinks g g'' c where
  next := h'.next.trans h.next
  used id hid := h.used id (h'.used id hid)

theorem counts (h : Shrinks g g' c) : Counts g g' c none := by
  apply Counts.keeps
  case next => exact h.next ▸ UInt64.le_refl _
  case room => exact fun hroom => h.next ▸ hroom
  case used => exact fun id hid => .inr (h.used id hid)

theorem removeLink (g : Graph) (c : Counter) (id : LinkId) : Shrinks g (g.removeLink id) c := by
  cases c with
  | nodes => exact of_eq (nextNodeId_removeLink g id) (keys_removeLink g id)
  | links =>
    refine ⟨nextLinkId_removeLink g id, fun k hk => ?_⟩
    obtain ⟨l, hl⟩ := mem_linkIds_iff.1 hk
    exact mem_linkIds_iff.2 ⟨l, (link?_of_removeLink hl).2⟩

theorem clearInput (g : Graph) (c : Counter) (target : Port) :
    Shrinks g (g.clearInput target) c := by
  obtain ⟨-, hg⟩ | ⟨id, -, hg⟩ := clearInput_cases g target
  · rw [hg]
    exact refl g c
  · rw [hg]
    exact removeLink g c id

theorem removeNode (g : Graph) (c : Counter) (id : NodeId) : Shrinks g (g.removeNode id).2 c := by
  have hisolate : Shrinks g (g.isolate id) c :=
    isolate_induction (P := (Shrinks g · c)) (refl g c)
      (fun g' k h => h.trans (removeLink g' c k)) id
  cases c with
  | links => exact ⟨hisolate.next, hisolate.used⟩
  | nodes =>
    refine ⟨hisolate.next, fun n hn => hisolate.used n ?_⟩
    obtain ⟨k, hk⟩ := Table.mem_keys_iff.1 hn
    exact mem_keys_of_node? (node?_of_eraseNode hk)

theorem modifyNode (g : Graph) (c : Counter) (id : NodeId) (f : Node → Node) :
    Shrinks g (g.modifyNode id f) c := by
  cases c with
  | nodes => exact of_eq rfl (Table.keys_modify g.nodes id f)
  | links => exact of_eq rfl rfl

theorem requestRedraw (g : Graph) (c : Counter) (id : NodeId) :
    Shrinks g (g.requestRedraw id) c := by
  cases c <;> exact of_eq rfl rfl

theorem display (g : Graph) (c : Counter) (palette : Palette) (port : Port) (type : TypeName) :
    Shrinks g (g.display palette port type).2 c := by
  have hshown := modifyNode g c port.node (Node.modifyOutput port.slot (Slot.display palette type))
  unfold Graph.display
  split
  · exact refl g c
  · dsimp only
    split
    · exact hshown
    · exact hshown.trans (requestRedraw _ c port.node)

theorem takeRedraws (g : Graph) (c : Counter) : Shrinks g g.takeRedraws.2 c := by
  cases c <;> exact of_eq rfl rfl

end Shrinks

section Steps

theorem counts_addNode (g : Graph) (c : Counter) (node : Node) :
    Counts g (g.addNode node).2 c (g.given? c (.addNode node)) := by
  cases c with
  | nodes => exact .gives rfl fun id hid => (keys_putNode g _ node id).1 hid
  | links => exact Shrinks.counts (.of_eq rfl rfl)

theorem counts_addNodeAt {g added : Graph} {id : NodeId} {node : Node}
    (ok : g.addNodeAt id node = .ok added) (c : Counter) : Counts g added c none := by
  obtain ⟨hroom, rfl⟩ := addNodeAt_eq_ok ok
  cases c with
  | links => exact Shrinks.counts (.of_eq rfl rfl)
  | nodes =>
    obtain ⟨hnext, hsucc⟩ := le_max_both g.nextNodeId (id + 1)
    apply Counts.keeps
    case next => exact hnext
    case room =>
      intro h
      have hcount : (id + 1).toNat = id.toNat + 1 := toNat_add_one (by omega)
      show (max g.nextNodeId (id + 1)).toNat < lastId
      rw [toNat_max, hcount]
      exact Nat.max_lt.2 ⟨h, hroom⟩
    case used =>
      intro key hkey
      rcases (keys_putNode g id node key).1 hkey with rfl | hkey
      · have hlt : key < key + 1 := lt_add_one_of_le (UInt64.le_refl key) (by omega)
        exact .inl (UInt64.lt_of_lt_of_le hlt hsucc)
      · exact .inr hkey

theorem counts_addLink {g : Graph} {origin target : Port} {result : LinkId × Graph}
    (ok : g.addLink origin target = .ok result) (c : Counter) :
    Counts g result.2 c (if c = .links then some result.1 else none) := by
  obtain ⟨-, -, -, rfl⟩ := addLink_eq_ok ok
  have hclear := Shrinks.clearInput g c target
  cases c with
  | nodes =>
    have hattach : Shrinks (g.clearInput target)
        ((g.clearInput target).attach origin target) .nodes := .of_eq rfl (keys_attach ..)
    exact (hclear.trans hattach).counts
  | links =>
    apply Counts.gives
    case next => exact congrArg (· + 1) hclear.next
    case used =>
      intro k hk
      obtain ⟨l, hl⟩ := mem_linkIds_iff.1 hk
      obtain ⟨rfl, -⟩ | ⟨-, hl⟩ := link?_attach_cases hl
      · exact .inl hclear.next
      · exact .inr (hclear.used k (mem_linkIds_iff.2 ⟨l, hl⟩))

theorem counts_edited (g : Graph) (c : Counter) (e : Edit) :
    Counts g (g.edited e) c (g.given? c e) := by
  cases e with
  | addNode node => exact counts_addNode g c node
  | addNodeAt id node =>
    rw [edited, run_addInPlace]
    cases hadd : g.addNodeAt id node with
    | ok added => exact counts_addNodeAt hadd c
    | error failure => exact (Shrinks.refl g c).counts
  | removeNode id => exact (Shrinks.removeNode g c id).counts
  | addLink origin target =>
    rw [edited, given?, run_linkInPlace]
    cases hadd : g.addLink origin target with
    | ok result => exact counts_addLink hadd c
    | error refusal =>
      show Counts g g c (if c = .links then none else none)
      rw [ite_self]
      exact (Shrinks.refl g c).counts
  | removeLink id => exact (Shrinks.removeLink g c id).counts
  | change id f => exact (Shrinks.modifyNode g c id f).counts
  | display palette port type => exact (Shrinks.display g c palette port type).counts
  | requestRedraw id => exact (Shrinks.requestRedraw g c id).counts
  | takeRedraws => exact (Shrinks.takeRedraws g c).counts

end Steps

/-- The counter is above every id in use and above all ids that it gave, which ascend, and it is
below the last id. -/
structure Ahead (c : Counter) (given : List UInt64) (g : Graph) : Prop where
  used : ∀ id ∈ g.ids c, id < g.next c
  passed : ∀ id ∈ given, id < g.next c
  ascending : given.Pairwise (· < ·)
  room : (g.next c).toNat < lastId

/-- An id that an edit is given is new and above the ones given before, and the counter goes on from
it. -/
structure Fresh (c : Counter) (given : List UInt64) (g g' : Graph) (id : UInt64) : Prop where
  unused : id ∉ g.ids c
  above : ∀ earlier ∈ given, earlier < id
  counted : (g'.next c).toNat = id.toNat + 1
  used : ∀ k ∈ g'.ids c, k < g'.next c

section Runs

variable {g g' : Graph} {c : Counter} {given : List UInt64} {edits : List Edit}

theorem Ahead.fresh (h : Ahead c given g) {id : UInt64} (hcounts : Counts g g' c (some id)) :
    Fresh c given g g' id := by
  cases hcounts with
  | gives next used =>
    have hlt : g.next c < g.next c + 1 := lt_add_one_of_le (UInt64.le_refl _) h.room
    constructor
    case unused => exact fun hid => UInt64.lt_irrefl _ (h.used _ hid)
    case above => exact h.passed
    case counted => rw [next, toNat_add_one h.room]
    case used =>
      intro k hk
      rw [next]
      rcases used k hk with rfl | hk
      · exact hlt
      · exact UInt64.lt_trans (h.used k hk) hlt

theorem Ahead.step (h : Ahead c given g) {id? : Option UInt64} (hcounts : Counts g g' c id?)
    (htop : id? ≠ some topId) : Ahead c (given ++ id?.toList) g' := by
  cases hcounts with
  | gives next used =>
    have hfresh := h.fresh (.gives next used)
    have hne : (g.next c).toNat ≠ topId.toNat :=
      fun heq => htop (congrArg some (UInt64.toNat_inj.1 heq))
    have hlt : g.next c < g'.next c := by
      rw [UInt64.lt_iff_toNat_lt, hfresh.counted]
      exact Nat.lt_succ_self _
    constructor
    case used => exact hfresh.used
    case passed =>
      intro id hid
      rcases List.mem_append.1 hid with hid | hid
      · exact UInt64.lt_trans (h.passed id hid) hlt
      · rwa [List.mem_singleton.1 hid]
    case ascending =>
      refine List.pairwise_append.2 ⟨h.ascending, by simp, fun id hid id' hid' => ?_⟩
      rw [List.mem_singleton.1 hid']
      exact h.passed id hid
    case room =>
      -- only the top id takes the counter to its end
      have hroom := h.room
      have htoNat := toNat_topId
      rw [hfresh.counted]
      omega
  | keeps next room used =>
    rw [Option.toList_none, List.append_nil]
    constructor
    case used =>
      intro id hid
      rcases used id hid with hlt | hid
      · exact hlt
      · exact UInt64.lt_of_lt_of_le (h.used id hid) next
    case passed => exact fun id hid => UInt64.lt_of_lt_of_le (h.passed id hid) next
    case ascending => exact h.ascending
    case room => exact room h.room

theorem Ahead.run (h : Ahead c given g) (htop : topId ∉ g.givenAll c edits) :
    Ahead c (given ++ g.givenAll c edits) (g.editedAll edits) := by
  -- the ids that were given so far grow along the run
  induction edits generalizing g given with
  | nil => simpa [givenAll, editedAll] using h
  | cons e rest ih =>
    rw [givenAll, List.mem_append, not_or] at htop
    obtain ⟨hfirst, hrest⟩ := htop
    have hstep := h.step (counts_edited g c e) fun heq => hfirst (by simp [heq])
    have hrun := ih hstep hrest
    rwa [List.append_assoc] at hrun

theorem ahead_empty (c : Counter) : Ahead c [] {} := by
  cases c <;>
    exact ⟨fun _ hid => absurd hid List.not_mem_nil, fun _ hid => absurd hid List.not_mem_nil,
      .nil, by decide⟩

theorem ahead_of_ofText {text : String} (h : ofText text = .ok g) (c : Counter) :
    Ahead c [] g := by
  obtain ⟨stored, hread⟩ := exists_read_of_ofText h
  rw [ofText_of_read hread] at h
  have hadmission := admission_raiseCounters stored
  have hraised := hadmission.raised g h c
  constructor
  case used =>
    intro id hid
    rw [hadmission.unchanged g h] at hid
    rw [UInt64.lt_iff_toNat_lt, hraised]
    exact toNat_lt_reach (by cases c <;> exact hid)
  case passed => exact fun _ hid => absurd hid List.not_mem_nil
  case ascending => exact .nil
  case room =>
    rw [hraised]
    exact hadmission.accepted.1 ⟨g, h⟩ c

/-- Saved graphs are refused just for counters that would reach the last id. From a graph that was
loaded, or from the empty one, the counters stay ahead in every run of edits, and the next id that
is given is a new one, until the last id but one has been given. A node is refused just if its id
would leave none for the next one, and then nothing is changed. -/
theorem counters_ahead :
    (∀ text stored, read.whole text = .ok stored → Admission stored (ofText text)) ∧
    (∀ start, (start = {} ∨ ∃ text, ofText text = .ok start) → ∀ c edits,
      topId ∉ start.givenAll c edits →
      Ahead c (start.givenAll c edits) (start.editedAll edits) ∧
      ∀ e id, (start.editedAll edits).given? c e = some id →
        Fresh c (start.givenAll c edits) (start.editedAll edits)
          ((start.editedAll edits).edited e) id) ∧
    ∀ g id node, (topId ≤ id →
        (addInPlace id node).run.run g = (.error (.limit (.nodeId id)), g)) ∧
      (id < topId → ((addInPlace id node).run.run g).1 = .ok id ∧
        (((addInPlace id node).run.run g).2.next .nodes).toNat =
          max (g.next .nodes).toNat (id.toNat + 1)) := by
  refine ⟨?_, ?_, ?_⟩
  · intro text stored hread
    rw [ofText_of_read hread]
    exact admission_raiseCounters stored
  · intro start hstart c edits htop
    have hahead : Ahead c [] start := by
      rcases hstart with rfl | ⟨text, htext⟩
      · exact ahead_empty c
      · exact ahead_of_ofText htext c
    have hrun := hahead.run htop
    refine ⟨hrun, fun e id hgiven => hrun.fresh ?_⟩
    rw [← hgiven]
    exact counts_edited _ c e
  · intro g id node
    rw [run_addInPlace]
    constructor
    · intro hid
      rw [addNodeAt_of_topId_le g hid]
    · intro hid
      obtain ⟨added, hadd⟩ := exists_addNodeAt_of_lt g hid node
      obtain ⟨hroom, rfl⟩ := addNodeAt_eq_ok hadd
      rw [hadd]
      refine ⟨rfl, ?_⟩
      show (max g.nextNodeId (id + 1)).toNat = _
      rw [toNat_max, toNat_add_one (by omega)]
      rfl

/-- A saved graph with one node, whose id leaves two ids for others. -/
def nearTopText : String :=
  "[\x7b\"18446744073709551612\":[18446744073709551612,\"\",\"\"]\x7d,\x7b\x7d]"

def nearTop : Graph where
  nodes := .ofList [(18446744073709551612, .new 18446744073709551612 "")]
  nextNodeId := 18446744073709551613

/-- One more node is added, and then the last one that can be. -/
theorem counters_ahead_nearTop :
    (∃ stored, read.whole nearTopText = .ok stored ∧ Admission stored (ofText nearTopText)) ∧
    ofText nearTopText = .ok nearTop ∧
    Ahead .nodes [18446744073709551613] (nearTop.addNode imageLoader).2 ∧
    Fresh .nodes [18446744073709551613] (nearTop.addNode imageLoader).2
      ((nearTop.addNode imageLoader).2.addNode imageLoader).2 topId ∧
    (addInPlace topId imageLoader).run.run nearTop =
      (.error (.limit (.nodeId topId)), nearTop) := by
  obtain ⟨hload, hruns, hat⟩ := counters_ahead
  have htext : ofText nearTopText = .ok nearTop := ofText_eq_ok (by decide +kernel)
  obtain ⟨stored, hread⟩ := exists_read_of_ofText htext
  obtain ⟨hahead, hfresh⟩ :=
    hruns nearTop (.inr ⟨_, htext⟩) .nodes [.addNode imageLoader] (by decide)
  exact ⟨⟨stored, hread, hload _ _ hread⟩, htext, hahead, hfresh (.addNode imageLoader) topId rfl,
    (hat nearTop topId imageLoader).1 (UInt64.le_refl _)⟩

end Runs

end Graph

end NodeVariables
