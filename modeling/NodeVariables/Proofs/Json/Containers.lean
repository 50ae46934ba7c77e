import NodeVariables.Json.Reader.Record
import NodeVariables.Proofs.Json.Scalars

namespace NodeVariables.Json

variable {α κ ν : Type} {b s t rest : List Char} {v : Value} {a : α} {first : Bool}

section Parts

theorem ends_close (rest : List Char) : Ends (']' :: rest) ∧ Ends ('\x7d' :: rest) :=
  ⟨ends_cons rfl (by decide) rest, ends_cons rfl (by decide) rest⟩

/-- What follows a value inside a list is no part of a number. -/
theorem WritesItems.ends {items : List Value} (h : WritesItems false items t) (hr : Ends rest) :
    Ends (t ++ rest) := by
  cases h with
  | done blanks => exact ends_append blanks hr
  | item _ _ _ => exact ends_cons rfl (by decide) _

theorem WritesMembers.ends {members : List (String × Value)} (h : WritesMembers false members t)
    (hr : Ends rest) : Ends (t ++ rest) := by
  cases h with
  | done blanks => exact ends_append blanks hr
  | member _ _ _ _ => exact ends_cons rfl (by decide) _

/-- Every element takes at least one character. -/
theorem WritesItems.length_le {items : List Value} (h : WritesItems first items t) :
    items.length ≤ t.length := by
  induction items generalizing first t with
  | nil => exact Nat.zero_le _
  | cons v items ih =>
    cases h with
    | item _ value others =>
      obtain ⟨c, r, rfl, -⟩ := value.exists_cons
      have hothers := ih others
      simp only [List.length_append, List.length_cons]
      omega

theorem WritesMembers.length_le {members : List (String × Value)}
    (h : WritesMembers first members t) : members.length ≤ t.length := by
  induction members generalizing first t with
  | nil => exact Nat.zero_le _
  | cons m members ih =>
    cases h with
    | member _ _ _ others =>
      have hothers := ih others
      simp only [List.length_append, List.length_cons]
      omega

theorem Writes.exists_items {items : List Value} (h : Writes (.list items) s) (hb : Blanks b)
    (rest : List Char) :
    ∃ t, WritesItems true items t ∧ items.length < (t ++ ']' :: rest).length + 1 ∧
      dropBlanks (b ++ (s ++ rest)) = '[' :: (t ++ ']' :: rest) := by
  have htext := h.dropBlanks_append hb rest
  cases h with
  | @list _ t inside =>
    have hlen := inside.length_le
    refine ⟨t, inside, ?_, by simpa using htext⟩
    rw [List.length_append]
    omega

theorem Writes.exists_members {members : List (String × Value)} (h : Writes (.object members) s)
    (hb : Blanks b) (rest : List Char) :
    ∃ t, WritesMembers true members t ∧ members.length < (t ++ '\x7d' :: rest).length + 1 ∧
      dropBlanks (b ++ (s ++ rest)) = '\x7b' :: (t ++ '\x7d' :: rest) := by
  have htext := h.dropBlanks_append hb rest
  cases h with
  | @object _ t inside =>
    have hlen := inside.length_le
    refine ⟨t, inside, ?_, by simpa using htext⟩
    rw [List.length_append]
    omega

theorem elementFollows_item (hb : Blanks b) (hv : Writes v s) (first : Bool) (rest : List Char) :
    elementFollows first (separator first ++ (b ++ (s ++ rest))) = .ok (true, s ++ rest) := by
  obtain ⟨c, r, rfl, hblank, hclose, -⟩ := hv.exists_cons
  have hdrop := dropBlanks_append_cons hb hblank (r ++ rest)
  unfold elementFollows
  cases first with
  | true => simp [separator, hdrop]
  | false =>
    have hcomma : isBlank ',' = false := rfl
    simp [separator, dropBlanks_cons_of_not_blank hcomma, hdrop, hclose]

theorem elementFollows_close (hb : Blanks b) (first : Bool) (rest : List Char) :
    elementFollows first (b ++ ']' :: rest) = .ok (false, ']' :: rest) := by
  rw [elementFollows, dropBlanks_append_cons hb rfl]
  rfl

theorem memberFollows_member (hb : Blanks b) (k : String) (first : Bool) (rest : List Char) :
    memberFollows first (separator first ++ (b ++ (quote k ++ rest))) =
      .ok (true, k.toList.flatMap escape ++ '"' :: rest) := by
  have hdrop := dropBlanks_append_cons (c := '"') hb rfl (k.toList.flatMap escape ++ '"' :: rest)
  rw [quote_append]
  unfold memberFollows
  cases first with
  | true => simp [separator, hdrop]
  | false =>
    have hcomma : isBlank ',' = false := rfl
    simp [separator, dropBlanks_cons_of_not_blank hcomma, hdrop]

theorem memberFollows_close (hb : Blanks b) (first : Bool) (rest : List Char) :
    memberFollows first (b ++ '\x7d' :: rest) = .ok (false, rest) := by
  rw [memberFollows, dropBlanks_append_cons hb rfl]
  rfl

theorem readColon_cons (rest : List Char) : readColon (':' :: rest) = .ok ((), rest) := rfl

end Parts

section Lists

variable {read : Reader α} {f : α → Value} {as : List α}

theorem readElements_writes (hread : ∀ a ∈ as, Reads read (f a) a)
    (h : WritesItems first (as.map f) t) {fuel : Nat} (hfuel : as.length < fuel)
    (rest : List Char) :
    readElements read fuel first (t ++ ']' :: rest) = .ok (as, ']' :: rest) := by
  induction as generalizing first t fuel with
  | nil =>
    obtain ⟨fuel, rfl⟩ := Nat.exists_eq_succ_of_ne_zero (Nat.ne_of_gt hfuel)
    cases h with
    | done blanks => exact bind_ok (elementFollows_close blanks first rest)
  | cons a as ih =>
    obtain ⟨fuel, rfl⟩ := Nat.exists_eq_succ_of_ne_zero (Nat.ne_of_gt (Nat.zero_lt_of_lt hfuel))
    cases h with
    | item blanks value others =>
      have hends := others.ends (ends_close rest).1
      have hfirst := (hread a (by simp)).read_append value hends
      have hothers := ih (fun a ha => hread a (List.mem_cons_of_mem _ ha)) others
        (Nat.lt_of_succ_lt_succ hfuel)
      simp only [List.append_assoc]
      refine (bind_ok (elementFollows_item blanks value first _)).trans ?_
      exact (bind_ok hfirst).trans (bind_ok hothers)

theorem reads_list (hread : ∀ a ∈ as, Reads read (f a) a) :
    Reads (readList read) (.list (as.map f)) as := by
  intro b s rest hb hs hr
  obtain ⟨t, inside, hfuel, htext⟩ := hs.exists_items hb rest
  rw [List.length_map] at hfuel
  have hitems := readElements_writes hread inside hfuel rest
  have hclose : listEnd (']' :: rest) = .ok ((), rest) := rfl
  unfold readList
  rw [htext]
  exact (bind_ok hitems).trans (bind_ok hclose)

end Lists

section Tables

variable [LT κ] [DecidableEq κ] [DecidableLT κ] [KeyOrder κ]

theorem insertEntry_of_forall_lt {k : κ} {x : ν} {entries : List (κ × ν)}
    (h : ∀ e ∈ entries, e.1 < k) : Table.insertEntry k x entries = entries ++ [(k, x)] := by
  induction entries with
  | nil => rfl
  | cons e entries ih =>
    have hlt : e.1 < k := h e (by simp)
    have hnot : ¬k < e.1 := fun hk => KeyOrder.irrefl k (KeyOrder.trans hk hlt)
    have hne : k ≠ e.1 := fun hk => KeyOrder.irrefl e.1 (hk ▸ hlt)
    rw [Table.insertEntry, if_neg hnot, if_neg hne, ih fun e he => h e (List.mem_cons_of_mem _ he),
      List.cons_append]

theorem entries_foldl_insert {table : Table κ ν} {entries : List (κ × ν)}
    (h : (table.entries ++ entries).Pairwise fun a b => a.1 < b.1) :
    (entries.foldl (fun t e => t.insert e.1 e.2) table).entries = table.entries ++ entries := by
  induction entries generalizing table with
  | nil => simp
  | cons e entries ih =>
    have hinsert : (table.insert e.1 e.2).entries = table.entries ++ [e] :=
      insertEntry_of_forall_lt fun x hx => (List.pairwise_append.1 h).2.2 x hx e (by simp)
    have hsplit : table.entries ++ e :: entries = (table.insert e.1 e.2).entries ++ entries := by
      rw [hinsert, List.append_assoc, List.singleton_append]
    rw [List.foldl_cons, hsplit]
    exact ih (hsplit ▸ h)

theorem ofList_entries (table : Table κ ν) : Table.ofList table.entries = table := by
  apply Table.ext_entries
  have hempty : (Table.empty : Table κ ν).entries ++ table.entries = table.entries := rfl
  exact entries_foldl_insert (hempty ▸ table.sorted)

/-- A reader takes a name from behind its opening quote as a key. -/
def ReadsKey (key : Reader κ) (name : String) (k : κ) : Prop :=
  ∀ rest, key (name.toList.flatMap escape ++ '"' :: rest) = .ok (k, rest)

variable {key : Reader κ} {value : Reader ν} {name : κ → String} {f : ν → Value}

omit [LT κ] [DecidableEq κ] [DecidableLT κ] [KeyOrder κ] in
theorem readMembers_writes {entries : List (κ × ν)}
    (hkey : ∀ e ∈ entries, ReadsKey key (name e.1) e.1)
    (hvalue : ∀ e ∈ entries, Reads value (f e.2) e.2)
    (h : WritesMembers first (entries.map fun e => (name e.1, f e.2)) t) {fuel : Nat}
    (hfuel : entries.length < fuel) (rest : List Char) :
    readMembers key value fuel first (t ++ '\x7d' :: rest) = .ok (entries, rest) := by
  induction entries generalizing first t fuel with
  | nil =>
    obtain ⟨fuel, rfl⟩ := Nat.exists_eq_succ_of_ne_zero (Nat.ne_of_gt hfuel)
    cases h with
    | done blanks => exact bind_ok (memberFollows_close blanks first rest)
  | cons e entries ih =>
    obtain ⟨fuel, rfl⟩ := Nat.exists_eq_succ_of_ne_zero (Nat.ne_of_gt (Nat.zero_lt_of_lt hfuel))
    cases h with
    | member blanks space written others =>
      have hends := others.ends (ends_close rest).2
      have hfirst := hvalue e (by simp) _ _ _ space written hends
      have hothers := ih (fun e he => hkey e (List.mem_cons_of_mem _ he))
        (fun e he => hvalue e (List.mem_cons_of_mem _ he)) others (Nat.lt_of_succ_lt_succ hfuel)
      simp only [List.append_assoc, List.cons_append]
      refine (bind_ok (memberFollows_member blanks (name e.1) first _)).trans ?_
      refine (bind_ok (hkey e (by simp) _)).trans ((bind_ok (readColon_cons _)).trans ?_)
      exact (bind_ok hfirst).trans (bind_ok hothers)

theorem escape_of_isDigit {c : Char} (h : isDigit c = true) : escape c = [c] := by
  have hne (d : Char) (hd : isDigit d = false) : c ≠ d := ne_of_isDigit h hd
  have hcode : ¬c.toNat < 0x20 := by
    simp only [isDigit, Bool.and_eq_true, decide_eq_true_eq] at h
    have hzero : 48 ≤ c.toNat := h.1
    omega
  simp [escape, hne '"' rfl, hne '\\' rfl, hne '\x08' rfl, hne '\x0c' rfl, hne '\n' rfl,
    hne '\r' rfl, hne '\t' rfl, hcode]

theorem flatMap_escape_of_isDigit {digits : List Char} (h : ∀ c ∈ digits, isDigit c = true) :
    digits.flatMap escape = digits := by
  induction digits with
  | nil => rfl
  | cons c digits ih =>
    rw [List.flatMap_cons, escape_of_isDigit (h c (by simp)),
      ih fun d hd => h d (List.mem_cons_of_mem _ hd), List.singleton_append]

/-- A number in quotes is its digits in quotes. -/
theorem readsKey_numeric {read : Reader UInt64} {k : UInt64} (h : Reads read (.ofWord k) k) :
    ReadsKey (numericKey read) (toString k) k := by
  intro rest
  have hdigits (c) (hc : c ∈ (toString k).toList) : isDigit c = true := by
    have htoString : (toString k).toList = Nat.toDigits 10 k.toNat := Nat.toList_repr
    exact Decimal.isDigit_of_mem_toDigits (htoString ▸ hc)
  have hends : Ends ('"' :: rest) := ends_cons rfl (by decide) rest
  have hread : read ((toString k).toList ++ '"' :: rest) = .ok (k, '"' :: rest) :=
    h.read_append (.number (.natural k.toNat)) hends
  have hnumber : number? ((toString k).toList ++ '"' :: rest) =
      some (.ok (.natural k.toNat, '"' :: rest)) := number?_toString k.toNat_lt hends
  rw [flatMap_escape_of_isDigit hdigits]
  simp [numericKey, hnumber, hread, bind, Except.bind, pure, Except.pure]

theorem reads_table {table : Table κ ν} (hkey : ∀ k ∈ table.keys, ReadsKey key (name k) k)
    (hvalue : ∀ v ∈ table.values, Reads value (f v) v) :
    Reads (readTable key value) (.object (table.entries.map fun e => (name e.1, f e.2))) table := by
  intro b s rest hb hs hr
  obtain ⟨t, inside, hfuel, htext⟩ := hs.exists_members hb rest
  rw [List.length_map] at hfuel
  have hmembers := readMembers_writes (fun e he => hkey e.1 (List.mem_map_of_mem he))
    (fun e he => hvalue e.2 (List.mem_map_of_mem he)) inside hfuel rest
  have hall := map_ok Table.ofList hmembers
  rw [ofList_entries] at hall
  unfold readTable
  rw [htext]
  exact hall

end Tables

section Records

variable {αs : List Type} {name n : String} {read : Reader α} {absent : Option α}

/-- The fields take a member from its colon on; the draft before it becomes the one after it. -/
def Fields.Takes (fields : Fields αs) (name : String) (v : Value) (before after : Draft αs) :
    Prop :=
  ∃ next, fields.member? name = some next ∧ ∀ b s rest, Blanks b → Writes v s → Ends rest →
    next before (':' :: (b ++ (s ++ rest))) = .ok (after, rest)

inductive Fields.Fills (fields : Fields αs) :
    List (String × Value) → Draft αs → Draft αs → Prop where
  | done {draft : Draft αs} : Fills fields [] draft draft
  | member {name : String} {v : Value} {members : List (String × Value)}
    {before between after : Draft αs} (first : fields.Takes name v before between)
    (others : Fills fields members between after) :
    Fills fields ((name, v) :: members) before after

/-- The members are the fields in their order, each with a value that its reader takes back. A
field is left out only where its value is the one that stands for a missing field. -/
inductive Fields.Fits : {αs : List Type} → Fields αs → List (String × Value) → Values αs →
    Prop where
  | done : Fits .done [] ()
  | field {α : Type} {αs : List Type} {name : String} {read : Reader α} {absent : Option α}
    {v : Value} {a : α} {rest : Fields αs} {members : List (String × Value)} {values : Values αs}
    (first : Reads read v a) (fresh : name ∉ members.map Prod.fst)
    (others : rest.Fits members values) :
    Fits (.field name read absent rest) ((name, v) :: members) (a, values)
  | omitted {α : Type} {αs : List Type} {name : String} {read : Reader α} {a : α}
    {rest : Fields αs} {members : List (String × Value)} {values : Values αs}
    (fresh : name ∉ members.map Prod.fst) (others : rest.Fits members values) :
    Fits (.field name read (some a) rest) members (a, values)

inductive Fields.Matches : {αs : List Type} → Fields αs → List Value → Values αs → Prop where
  | done : Matches .done [] ()
  | field {α : Type} {αs : List Type} {name : String} {read : Reader α} {absent : Option α}
    {v : Value} {a : α} {rest : Fields αs} {items : List Value} {values : Values αs}
    (first : Reads read v a) (others : rest.Matches items values) :
    Matches (.field name read absent rest) (v :: items) (a, values)

theorem Fields.takes_field (fields : Fields αs) (hread : Reads read v a) (draft : Draft αs) :
    (Fields.field name read absent fields).Takes name v (none, draft) (some a, draft) := by
  refine ⟨_, if_pos rfl, fun b s rest hb hs hr => ?_⟩
  have hvalue := hread b s rest hb hs hr
  exact (bind_ok (readColon_cons _)).trans (bind_ok hvalue)

theorem Fields.Takes.lift {fields : Fields αs} {before after : Draft αs}
    (h : fields.Takes name v before after) (hne : n ≠ name) (head : Option α) :
    (Fields.field n read absent fields).Takes name v (head, before) (head, after) := by
  obtain ⟨next, hmember, hnext⟩ := h
  have hlifted : (Fields.field n read absent fields).member? name =
      some fun draft => do return (draft.1, ← next draft.2) := by
    rw [Fields.member?, if_neg hne, hmember]
    rfl
  refine ⟨_, hlifted, fun b s rest hb hs hr => ?_⟩
  exact bind_ok (hnext b s rest hb hs hr)

theorem Fields.Fills.lift {fields : Fields αs} {members : List (String × Value)}
    {before after : Draft αs} (h : fields.Fills members before after)
    (hn : n ∉ members.map Prod.fst) (head : Option α) :
    (Fields.field n read absent fields).Fills members (head, before) (head, after) := by
  induction h with
  | done => exact .done
  | member first others ih =>
    simp only [List.map_cons, List.mem_cons, not_or] at hn
    exact .member (first.lift hn.1 head) (ih hn.2)

theorem Fields.Fits.exists_fills {fields : Fields αs} {members : List (String × Value)}
    {values : Values αs} (h : fields.Fits members values) :
    ∃ draft, fields.Fills members (.blank αs) draft ∧ fields.finish draft = .ok values := by
  induction h with
  | done => exact ⟨(), .done, rfl⟩
  | @field α αs name read absent v a rest members values first fresh others ih =>
    obtain ⟨draft, hfills, hfinish⟩ := ih
    -- the members behind this one have other names and leave its value in the draft
    refine ⟨(some a, draft), .member (rest.takes_field first _) (hfills.lift fresh _), ?_⟩
    simp [Fields.finish, hfinish, bind, Except.bind, pure, Except.pure]
    rfl
  | @omitted α αs name read a rest members values fresh others ih =>
    obtain ⟨draft, hfills, hfinish⟩ := ih
    refine ⟨(none, draft), hfills.lift fresh _, ?_⟩
    simp [Fields.finish, hfinish, bind, Except.bind, pure, Except.pure]
    rfl

theorem Fields.Fills.readMembers_writes {fields : Fields αs} {members : List (String × Value)}
    {before after : Draft αs} (h : fields.Fills members before after)
    (ht : WritesMembers first members t) {fuel : Nat} (hfuel : members.length < fuel)
    (rest : List Char) :
    fields.readMembers fuel first before (t ++ '\x7d' :: rest) = .ok (after, rest) := by
  induction h generalizing first t fuel with
  | done =>
    obtain ⟨fuel, rfl⟩ := Nat.exists_eq_succ_of_ne_zero (Nat.ne_of_gt hfuel)
    cases ht with
    | done blanks => exact bind_ok (memberFollows_close blanks first rest)
  | @member name v members before between after hfirst hothers ih =>
    obtain ⟨fuel, rfl⟩ := Nat.exists_eq_succ_of_ne_zero (Nat.ne_of_gt (Nat.zero_lt_of_lt hfuel))
    obtain ⟨next, hmember, hnext⟩ := hfirst
    cases ht with
    | member blanks space written others =>
      have hends := others.ends (ends_close rest).2
      have hvalue := hnext _ _ _ space written hends
      have hrest := ih others (Nat.lt_of_succ_lt_succ hfuel)
      simp only [List.append_assoc, List.cons_append]
      refine (bind_ok (memberFollows_member blanks name first _)).trans ?_
      refine (bind_ok (textEnd_quote name _)).trans ?_
      simp only [hmember]
      exact (bind_ok hvalue).trans hrest

theorem reads_record {fields : Fields αs} {members : List (String × Value)} {values : Values αs}
    (h : fields.Fits members values) (name : String) {build : Values αs → α}
    (ha : build values = a) : Reads (readRecord name fields build) (.object members) a := by
  intro b s rest hb hs hr
  obtain ⟨draft, hfills, hfinish⟩ := h.exists_fills
  obtain ⟨t, inside, hfuel, htext⟩ := hs.exists_members hb rest
  have hmembers := hfills.readMembers_writes inside hfuel rest
  unfold readRecord
  rw [htext]
  simp only [hmembers, bind, Except.bind, hfinish, ha]
  rfl

/-- The values of fields in their order are read from a list too. -/
theorem Fields.Matches.readElements_writes {fields : Fields αs}
    {items : List Value} {values : Values αs} (h : fields.Matches items values)
    (size : String) (count : Nat) (ht : WritesItems (count = 0) items t) (rest : List Char) :
    ∃ b, Blanks b ∧
      fields.readElements size count (t ++ ']' :: rest) = .ok (values, b ++ ']' :: rest) := by
  induction h generalizing count t with
  | done =>
    cases ht with
    | done blanks => exact ⟨t, blanks, rfl⟩
  | field first others ih =>
    cases ht with
    | item blanks value written =>
      have hends := written.ends (ends_close rest).1
      have hvalue := first.read_append value hends
      obtain ⟨b, hb, hrest⟩ := ih (count + 1) (by simpa using written)
      refine ⟨b, hb, ?_⟩
      simp only [List.append_assoc]
      refine (bind_ok (elementFollows_item blanks value _ _)).trans ?_
      exact (bind_ok hvalue).trans (bind_ok hrest)

theorem Fields.Matches.readTuple_writes {fields : Fields αs} {items : List Value}
    {values : Values αs} (h : fields.Matches items values) (size : String)
    (ht : WritesItems true items t) (rest : List Char) :
    readTuple size fields (t ++ ']' :: rest) = .ok (values, rest) := by
  obtain ⟨b, hb, hvalues⟩ := h.readElements_writes size 0 (by simpa using ht) rest
  have hclose : listEnd (b ++ ']' :: rest) = .ok ((), rest) := by
    rw [listEnd, dropBlanks_append_cons hb rfl]
    rfl
  exact (bind_ok hvalues).trans (bind_ok hclose)

end Records

/-- A text that writes a value, and nothing else, is read as a whole. -/
theorem Reads.whole {read : Reader α} (h : Reads read v a) (hs : Writes v s) :
    read.whole (String.ofList s) = .ok a := by
  have hread := h.read_append hs ends_nil
  rw [List.append_nil] at hread
  simp [Reader.whole, hread, dropBlanks, bind, Except.bind, pure, Except.pure]

theorem Reads.whole_compact {read : Reader α} (h : Reads read v a) :
    read.whole v.compact = .ok a :=
  h.whole (writes_compactChars v)

end NodeVariables.Json
