import NodeVariables.Graph.Saved
import NodeVariables.Proofs.Bare
import NodeVariables.Settings

namespace NodeVariables

open Json

variable {α β : Type}

/-- Why a file is refused whose text is read as a value that must not be invalid. -/
inductive Refused (read : Reader α) (invalid : α → Failure → Prop) : File → Failure → Prop where
  | unreadable (fault : FileFault) : Refused read invalid (.error fault) (.file fault)
  | notText {bytes : ByteArray} (h : ∀ s : String, s.toUTF8 ≠ bytes) :
    Refused read invalid (.ok bytes) (.file .notText)
  | malformed {s : String} {fault : Fault} (h : read.whole s = .error fault) :
    Refused read invalid (.ok s.toUTF8) (.json fault)
  | invalid {s : String} {a : α} {failure : Failure} (h : read.whole s = .ok a)
    (hinvalid : invalid a failure) : Refused read invalid (.ok s.toUTF8) failure

def loadChecked (read : Reader α) (check : α → Except Failure β) (file : File) :
    Except Failure β := do
  match read.whole (← file.text) with
  | .ok a => check a
  | .error fault => .error (.json fault)

section Texts

variable {bytes : ByteArray} {s : String}

theorem fromUTF8?_eq_some_iff : String.fromUTF8? bytes = some s ↔ s.toUTF8 = bytes := by
  unfold String.fromUTF8?
  split
  · next h =>
    constructor
    · intro heq
      rw [← Option.some.inj heq]
      rfl
    · rintro rfl
      rfl
  · next h =>
    refine ⟨fun heq => by simp at heq, ?_⟩
    rintro rfl
    exact absurd s.isValidUTF8 h

theorem fromUTF8?_eq_none_iff :
    String.fromUTF8? bytes = none ↔ ∀ s : String, s.toUTF8 ≠ bytes := by
  simp only [Option.eq_none_iff_forall_ne_some, ne_eq, fromUTF8?_eq_some_iff]

theorem File.text_toUTF8 (s : String) : File.text (.ok s.toUTF8) = .ok s := by
  have h : String.fromUTF8? s.toUTF8 = some s := fromUTF8?_eq_some_iff.2 rfl
  simp only [File.text, h]

end Texts

theorem loadChecked_toUTF8 (read : Reader α) (check : α → Except Failure β) (s : String) :
    loadChecked read check (.ok s.toUTF8) =
      match read.whole s with
      | .ok a => check a
      | .error fault => .error (.json fault) := by
  rw [loadChecked, File.text_toUTF8]
  rfl

theorem exists_check_of_loadChecked {read : Reader α} {check : α → Except Failure β} {file : File}
    {b : β} (h : loadChecked read check file = .ok b) : ∃ a, check a = .ok b := by
  unfold loadChecked at h
  cases hs : file.text with
  | error failure => simp [hs, bind, Except.bind] at h
  | ok s =>
    simp only [hs, bind, Except.bind] at h
    split at h
    · next a _ => exact ⟨a, h⟩
    · simp at h

section Checks

variable {read : Reader α} {check : α → Except Failure β} {invalid : α → Failure → Prop}
  {file : File} {failure : Failure}

theorem refused_of_loadChecked (hcheck : ∀ a, check a = .error failure → invalid a failure)
    (h : loadChecked read check file = .error failure) : Refused read invalid file failure := by
  cases file with
  | error fault =>
    obtain rfl : Failure.file fault = failure := Except.error.inj h
    exact .unreadable fault
  | ok bytes =>
    cases hs : String.fromUTF8? bytes with
    | none =>
      simp only [loadChecked, File.text, hs] at h
      obtain rfl : Failure.file .notText = failure := Except.error.inj h
      exact .notText (fromUTF8?_eq_none_iff.1 hs)
    | some s =>
      obtain rfl := fromUTF8?_eq_some_iff.1 hs
      rw [loadChecked_toUTF8] at h
      cases hread : read.whole s with
      | error fault =>
        rw [hread] at h
        obtain rfl : Failure.json fault = failure := Except.error.inj h
        exact .malformed hread
      | ok a =>
        rw [hread] at h
        exact .invalid hread (hcheck a h)

theorem loadChecked_of_refused (hcheck : ∀ a, invalid a failure → check a = .error failure)
    (h : Refused read invalid file failure) : loadChecked read check file = .error failure := by
  cases h with
  | unreadable fault => rfl
  | notText h =>
    simp only [loadChecked, File.text, fromUTF8?_eq_none_iff.2 h]
    rfl
  | malformed h => rw [loadChecked_toUTF8, h]
  | @invalid s a failure h hinvalid =>
    rw [loadChecked_toUTF8, h]
    exact hcheck a hinvalid

/-- A file is refused for what the check finds wrong, unless its text gives nothing to check. -/
theorem loadChecked_eq_error_iff (hcheck : ∀ a, check a = .error failure ↔ invalid a failure)
    (file : File) :
    loadChecked read check file = .error failure ↔ Refused read invalid file failure :=
  ⟨refused_of_loadChecked fun a => (hcheck a).1, loadChecked_of_refused fun a => (hcheck a).2⟩

end Checks

section Settings

/-- What is wrong with settings: the interval, or else the first color that cannot be read. -/
inductive Settings.Invalid (s : Settings) : Failure → Prop where
  | interval (h : s.refreshIntervalMs = 0) : Invalid s (.limit .interval)
  | color {before after : List (String × String)} {name value : String}
    (h : s.refreshIntervalMs ≠ 0)
    (entries : s.typeColors.entries = before ++ (name, value) :: after)
    (readable : ∀ e ∈ before, (Color.ofHex? e.2).isSome) (unreadable : Color.ofHex? value = none) :
    Invalid s (.color name value)

theorem Palette.foldlM_parseColor_eq_error_iff {overrides : List (String × String)}
    {palette : Palette} {failure : Failure} :
    overrides.foldlM (fun p entry => return p.insert entry.1 (← parseColor entry.1 entry.2))
      palette = .error failure ↔
    ∃ e, overrides.find? (fun e => (Color.ofHex? e.2).isNone) = some e ∧
      failure = .color e.1 e.2 := by
  -- colors that can be read change the palette, which the failure does not depend on
  induction overrides generalizing palette with
  | nil => simp [pure, Except.pure]
  | cons entry rest ih =>
    rw [List.foldlM_cons]
    cases hcolor : Color.ofHex? entry.2 with
    | none =>
      rw [List.find?_cons_of_pos (by simp [hcolor])]
      simp [parseColor, hcolor, bind, Except.bind, eq_comm]
    | some color =>
      rw [List.find?_cons_of_neg (by simp [hcolor])]
      simp only [parseColor, hcolor, bind, Except.bind, pure, Except.pure]
      exact ih

theorem Settings.validate_eq_ok_iff {s t : Settings} :
    s.validate = .ok t ↔ t = s ∧ ∃ palette, s.palette = .ok palette := by
  unfold validate
  cases s.palette <;> simp [bind, Except.bind, pure, Except.pure, eq_comm]

theorem Settings.validate_eq_error_iff {s : Settings} {failure : Failure} :
    s.validate = .error failure ↔ s.Invalid failure := by
  have hpalette : s.validate = .error failure ↔ s.palette = .error failure := by
    unfold validate
    cases s.palette <;> simp [bind, Except.bind, pure, Except.pure]
  rw [hpalette, palette]
  split
  · next hzero =>
    constructor
    · intro h
      obtain rfl : Failure.limit .interval = failure := Except.error.inj h
      exact .interval hzero
    · intro h
      cases h with
      | interval => rfl
      | color h => exact absurd hzero h
  · next hzero =>
    refine Palette.foldlM_parseColor_eq_error_iff.trans ⟨?_, ?_⟩
    · rintro ⟨⟨name, value⟩, hfind, rfl⟩
      obtain ⟨hbad, before, after, entries, hbefore⟩ := List.find?_eq_some_iff_append.1 hfind
      exact .color hzero entries (fun e he => by simpa using hbefore e he) (by simpa using hbad)
    · intro h
      cases h with
      | interval h => exact absurd h hzero
      | @color before after name value _ entries readable unreadable =>
        have hfind : s.typeColors.entries.find? (fun e => (Color.ofHex? e.2).isNone) =
            some (name, value) :=
          List.find?_eq_some_iff_append.2 ⟨by simp [unreadable], before, after, entries,
            fun e he => by simpa using readable e he⟩
        exact ⟨(name, value), hfind, rfl⟩

theorem Settings.ofFile_eq (file : File) :
    ofFile file = loadChecked Settings.read validate file := by
  unfold ofFile loadChecked
  cases file.text with
  | error failure => rfl
  | ok s =>
    simp only [bind, Except.bind, ofText]
    cases Settings.read.whole s <;> rfl

theorem Settings.ofFile_eq_error_iff {file : File} {failure : Failure} :
    ofFile file = .error failure ↔ Refused Settings.read Invalid file failure := by
  rw [ofFile_eq]
  exact loadChecked_eq_error_iff (fun _ => validate_eq_error_iff) file

theorem Settings.ofFile_toUTF8 (s : String) : ofFile (.ok s.toUTF8) = ofText s := by
  rw [ofFile, File.text_toUTF8]
  rfl

end Settings

namespace Graph

/-- An id that is not below a counter and is above some keys leaves room for another one. -/
def HasRoom (next : UInt64) (keys : List UInt64) : Prop :=
  next.toNat < lastId ∧ ∀ key ∈ keys, key.toNat + 1 < lastId

/-- What is wrong with a saved graph: the ids of its nodes, or else those of its links. -/
inductive Invalid (g : Graph) : Failure → Prop where
  | nodeIds (h : ¬HasRoom g.nextNodeId g.nodes.keys) : Invalid g (.limit .savedNodeIds)
  | linkIds (h : HasRoom g.nextNodeId g.nodes.keys) (hlinks : ¬HasRoom g.nextLinkId g.links.keys) :
    Invalid g (.limit .savedLinkIds)

/-- The keys ascend, so the last one is not below any other. -/
theorem exists_maxKey? {ν : Type} {table : Table UInt64 ν} {key : UInt64} (h : key ∈ table.keys) :
    ∃ last, table.maxKey? = some last ∧ key ≤ last := by
  have hsorted : table.keys.Pairwise (· < ·) := table.pairwise_keys
  rw [Table.maxKey?]
  rcases List.eq_nil_or_concat' table.keys with hnil | ⟨keys, last, hconcat⟩
  · simp [hnil] at h
  · rw [hconcat] at h hsorted ⊢
    refine ⟨last, by simp, ?_⟩
    rcases List.mem_append.1 h with hkey | hkey
    · exact UInt64.le_of_lt ((List.pairwise_append.1 hsorted).2.2 key hkey last (by simp))
    · rw [List.mem_singleton.1 hkey]
      exact UInt64.le_refl last

theorem hasRoom_iff {ν : Type} {next : UInt64} {table : Table UInt64 ν} :
    HasRoom next table.keys ↔
      next.toNat < lastId ∧ ∀ key ∈ table.maxKey?, key.toNat + 1 < lastId := by
  refine and_congr_right fun _ => ⟨fun h key hkey => ?_, fun h key hkey => ?_⟩
  · exact h key (List.mem_of_getLast? hkey)
  · obtain ⟨last, hlast, hle⟩ := exists_maxKey? hkey
    have hroom := h last hlast
    rw [UInt64.le_iff_toNat_le] at hle
    omega

theorem raise_eq_error_iff {ν : Type} {next : UInt64} {table : Table UInt64 ν} {limit : Limit}
    {failure : Failure} : raise next table.maxKey? limit = .error failure ↔
      ¬HasRoom next table.keys ∧ failure = .limit limit := by
  rw [hasRoom_iff]
  unfold raise
  cases table.maxKey? with
  | none =>
    by_cases hnext : next.toNat < lastId
    · simp [hnext]
    · simp [hnext, eq_comm]
  | some key =>
    by_cases hboth : max next.toNat (key.toNat + 1) < lastId
    · simp [hboth, Nat.max_lt.1 hboth]
    · have hnot := mt Nat.max_lt.2 hboth
      simp only [if_neg hboth, Option.mem_some_iff, forall_eq', hnot, not_false_eq_true, true_and]
      exact ⟨fun h => (Except.error.inj h).symm, fun h => h ▸ rfl⟩

theorem raiseCounters_eq_error_iff {g : Graph} {failure : Failure} :
    g.raiseCounters = .error failure ↔ g.Invalid failure := by
  unfold raiseCounters
  cases hnode : raise g.nextNodeId g.nodes.maxKey? .savedNodeIds with
  | error failed =>
    obtain ⟨hroom, rfl⟩ := raise_eq_error_iff.1 hnode
    constructor
    · intro h
      obtain rfl : Failure.limit .savedNodeIds = failure := Except.error.inj h
      exact .nodeIds hroom
    · intro h
      cases h with
      | nodeIds => rfl
      | linkIds h => exact absurd h hroom
  | ok next =>
    -- the links are looked at only now
    have hroom : HasRoom g.nextNodeId g.nodes.keys := by
      by_contra h
      rw [raise_eq_error_iff.2 ⟨h, rfl⟩] at hnode
      simp at hnode
    have hlink : g.Invalid failure ↔
        ¬HasRoom g.nextLinkId g.links.keys ∧ failure = .limit .savedLinkIds := by
      constructor
      · intro h
        cases h with
        | nodeIds h => exact absurd hroom h
        | linkIds _ hlinks => exact ⟨hlinks, rfl⟩
      · rintro ⟨hlinks, rfl⟩
        exact .linkIds hroom hlinks
    rw [hlink, ← raise_eq_error_iff]
    cases raise g.nextLinkId g.links.maxKey? .savedLinkIds <;>
      simp [bind, Except.bind, pure, Except.pure]

/-- A counter that was raised is above every key. -/
theorem lt_of_raise_eq_ok {ν : Type} {stored next : UInt64} {table : Table UInt64 ν} {limit : Limit}
    (h : raise stored table.maxKey? limit = .ok next) : ∀ key ∈ table.keys, key < next := by
  intro key hkey
  obtain ⟨last, hlast, hle⟩ := exists_maxKey? hkey
  simp only [raise, hlast] at h
  split at h
  · next hroom =>
    have hsize : lastId < UInt64.size := by decide
    have hmax : last.toNat + 1 ≤ max stored.toNat (last.toNat + 1) := Nat.le_max_right ..
    rw [UInt64.le_iff_toNat_le] at hle
    rw [← Except.ok.inj h, UInt64.lt_iff_toNat_lt, UInt64.toNat_ofNat_of_lt' (by omega)]
    omega
  · simp at h

/-- A graph that was loaded has counters above every id in use. -/
theorem below_of_ofText {s : String} {g : Graph} (h : ofText s = .ok g) :
    (∀ id ∈ g.nodes.keys, id < g.nextNodeId) ∧ ∀ id ∈ g.links.keys, id < g.nextLinkId := by
  unfold ofText at h
  split at h
  · next stored _ =>
    unfold raiseCounters at h
    cases hnode : raise stored.nextNodeId stored.nodes.maxKey? .savedNodeIds with
    | error failure => simp [hnode, bind, Except.bind] at h
    | ok nextNodeId =>
      cases hlink : raise stored.nextLinkId stored.links.maxKey? .savedLinkIds with
      | error failure => simp [hnode, hlink, bind, Except.bind] at h
      | ok nextLinkId =>
        simp only [hnode, hlink, bind, Except.bind, pure, Except.pure] at h
        rw [← Except.ok.inj h]
        exact ⟨lt_of_raise_eq_ok hnode, lt_of_raise_eq_ok hlink⟩
  · simp at h

theorem ofFile_eq (file : File) : ofFile file = loadChecked Graph.read raiseCounters file := by
  unfold ofFile loadChecked
  cases file.text with
  | error failure => rfl
  | ok s =>
    simp only [bind, Except.bind, ofText]
    cases Graph.read.whole s <;> rfl

theorem ofFile_eq_error_iff {file : File} {failure : Failure} :
    ofFile file = .error failure ↔ Refused Graph.read Invalid file failure := by
  rw [ofFile_eq]
  exact loadChecked_eq_error_iff (fun _ => raiseCounters_eq_error_iff) file

theorem ofFile_toUTF8 (s : String) : Graph.ofFile (.ok s.toUTF8) = Graph.ofText s := by
  rw [ofFile, File.text_toUTF8]
  rfl

end Graph

end NodeVariables
