import NodeVariables.Json.Reader.Scalar
import NodeVariables.Proofs.Json.Notation

namespace NodeVariables.Json

/-- The text does not go on with a part of a number. -/
def Ends (s : List Char) : Prop :=
  ∀ c ∈ s.head?, isDigit c = false ∧ c ≠ '.' ∧ c ≠ 'e' ∧ c ≠ 'E'

/-- A reader takes a value from the front of every text that writes it. -/
def Reads {α : Type} (read : Reader α) (v : Value) (a : α) : Prop :=
  ∀ b s rest, Blanks b → Writes v s → Ends rest → read (b ++ (s ++ rest)) = .ok (a, rest)

variable {α β : Type} {read : Reader α} {v : Value} {a : α} {b s rest : List Char}

theorem bind_ok {f : α → Reader β} (h : read s = .ok (a, rest)) :
    (read >>= f) s = f a rest := by
  simp [bind, StateT.bind, h, Except.bind]

theorem map_ok (f : α → β) (h : read s = .ok (a, rest)) :
    (f <$> read) s = .ok (f a, rest) := by
  simp [Functor.map, StateT.map, h, bind, Except.bind, pure, Except.pure]

theorem Reads.map (f : α → β) (h : Reads read v a) : Reads (f <$> read) v (f a) := by
  intro b s rest hb hs hr
  exact map_ok f (h b s rest hb hs hr)

theorem Reads.read_append (h : Reads read v a) (hs : Writes v s) (hr : Ends rest) :
    read (s ++ rest) = .ok (a, rest) :=
  h [] s rest blanks_nil hs hr

section Ends

theorem ends_nil : Ends [] := by simp [Ends]

theorem ends_cons {c : Char} (hc : isDigit c = false) (hs : c ≠ '.' ∧ c ≠ 'e' ∧ c ≠ 'E')
    (r : List Char) : Ends (c :: r) := by
  intro d hd
  obtain rfl : c = d := by simpa using hd
  exact ⟨hc, hs⟩

theorem ends_append (hb : Blanks b) (h : Ends rest) : Ends (b ++ rest) := by
  cases b with
  | nil => exact h
  | cons c b =>
    have hc := hb c (by simp)
    simp only [isBlank, Bool.or_eq_true, decide_eq_true_eq] at hc
    obtain ((rfl | rfl) | rfl) | rfl := hc <;> exact ends_cons (by decide) (by decide) _

end Ends

section Digits

theorem takeDigits_append {ds : List Char} (hd : ∀ c ∈ ds, isDigit c = true) {value : Nat}
    (hlt : Nat.ofDigitChars 10 ds value < UInt64.size) (hr : Ends rest) (count : Nat) :
    takeDigits value count (ds ++ rest) =
      ⟨Nat.ofDigitChars 10 ds value, count + ds.length, rest⟩ := by
  induction ds generalizing value count with
  | nil =>
    cases rest with
    | nil => rfl
    | cons c r =>
      have hc := (hr c rfl).1
      simp [takeDigits, hc]
  | cons c ds ih =>
    have hc := hd c (by simp)
    have hds (d) (h : d ∈ ds) := hd d (List.mem_cons_of_mem _ h)
    have hvalue : Nat.ofDigitChars 10 (c :: ds) value =
        Nat.ofDigitChars 10 ds (10 * value + digitValue c) := Nat.ofDigitChars_cons
    rw [hvalue] at hlt ⊢
    -- digits that follow make the value no smaller
    have hle : 10 * value + digitValue c ≤ Nat.ofDigitChars 10 ds (10 * value + digitValue c) := by
      rw [Nat.ofDigitChars_eq_ofDigitChars_zero]
      have hpow : 0 < 10 ^ ds.length := Nat.pow_pos (by decide)
      exact Nat.le_add_right_of_le (Nat.le_mul_of_pos_left _ hpow)
    have hstep : 10 * value + digitValue c < UInt64.size := Nat.lt_of_le_of_lt hle hlt
    rw [List.cons_append, takeDigits, if_pos ⟨hc, hstep⟩, ih hds hlt, List.length_cons,
      Nat.add_right_comm, Nat.add_assoc]

/-- Only zero is written with a zero in front. -/
theorem head?_toDigits_ne {n : Nat} (hn : 0 < n) : (Nat.toDigits 10 n).head? ≠ some '0' := by
  induction n using Nat.base_induction 10 (by decide) with
  | single m hm =>
    rw [Nat.toDigits_of_lt_base hm]
    simpa using Nat.ne_of_gt hn
  | digit m k hk hm ih =>
    rw [← Nat.toDigits_append_toDigits (by decide) hm hk]
    obtain ⟨c, r, hcons, -⟩ := Decimal.exists_cons_toDigits m
    simpa [hcons] using ih hm

theorem wholeEnd_of_ends (hr : Ends rest) (n : Nat) :
    wholeEnd false n 0 rest = .ok (.natural n, rest) := by
  cases rest with
  | nil => rfl
  | cons c r =>
    obtain ⟨-, hpoint, he, hE⟩ := hr c rfl
    unfold wholeEnd
    split <;> simp_all [wholeNumber, bind, Except.bind, pure, Except.pure]

/-- A number of 64 bits is read as it was written. -/
theorem number?_toString {n : Nat} (hn : n < UInt64.size) (hr : Ends rest) :
    number? ((toString n).toList ++ rest) = some (.ok (.natural n, rest)) := by
  have hstart : startsWithDigit rest = false := by
    cases rest with
    | nil => rfl
    | cons c r => exact (hr c rfl).1
  have hdrop : dropDigits rest = rest := by
    cases rest with
    | nil => rfl
    | cons c r => simp [dropDigits, (hr c rfl).1]
  have htext : (toString n).toList = Nat.toDigits 10 n := by simp
  rw [htext]
  by_cases hzero : n = 0
  · subst hzero
    have hread : unsignedNumber false ('0' :: rest) = .ok (.natural 0, rest) := by
      simp [unsignedNumber, hstart, wholeEnd_of_ends hr]
    exact congrArg some hread
  -- the first digit starts the significand, and no digit is left over
  · obtain ⟨c, ds, hcons, hc⟩ := Decimal.exists_cons_toDigits n
    have hne : c ≠ '0' := by
      have hhead := head?_toDigits_ne (Nat.pos_of_ne_zero hzero)
      simpa [hcons] using hhead
    have hds (d) (hd : d ∈ ds) : isDigit d = true :=
      Decimal.isDigit_of_mem_toDigits (n := n) (by simp [hcons, hd])
    have hvalue : Nat.ofDigitChars 10 ds (digitValue c) = n := by
      have hall : Nat.ofDigitChars 10 (c :: ds) 0 = n := by
        rw [← hcons, Nat.ofDigitChars_ten_toDigits]
      simpa [Nat.ofDigitChars_cons, digitValue] using hall
    have htake := takeDigits_append hds (hvalue ▸ hn) hr 1
    have hread : unsignedNumber false (c :: (ds ++ rest)) = .ok (.natural n, rest) := by
      unfold unsignedNumber
      split
      · next heq => exact absurd (List.cons.inj heq).1 hne
      · next heq =>
        obtain ⟨rfl, rfl⟩ := List.cons.inj heq
        simp [hc, htake, hvalue, hdrop, wholeEnd_of_ends hr]
      · next heq => simp at heq
    rw [hcons, List.cons_append]
    unfold number?
    split
    · next heq => exact absurd (List.cons.inj heq).1 (ne_of_isDigit hc rfl)
    · next heq =>
      obtain ⟨rfl, rfl⟩ := List.cons.inj heq
      rw [if_pos hc, hread]
    · next heq => simp at heq

end Digits

section Texts

theorem hexDigit?_digitChar : ∀ d < 16, Text.hexDigit? (Nat.digitChar d) = some d := by decide

theorem tooShortForUnit_of_four (a b c d : Char) (rest : List Char) :
    tooShortForUnit (a :: b :: c :: d :: rest) = false := by
  have ha := a.utf8Size_pos
  have hb := b.utf8Size_pos
  have hc := c.utf8Size_pos
  have hd := d.utf8Size_pos
  simp [tooShortForUnit]
  omega

theorem scan_controlEscape {c : Char} (hc : c.toNat < 0x20) (read rest : List Char) :
    scan true .plain read (controlEscape c ++ rest) = scan true .plain (c :: read) rest := by
  have hhigh := hexDigit?_digitChar (c.toNat / 16) (by omega)
  have hlow := hexDigit?_digitChar (c.toNat % 16) (by omega)
  have hzero : Text.hexDigit? '0' = some 0 := rfl
  have hlong := tooShortForUnit_of_four '0' '0' (Nat.digitChar (c.toNat / 16))
    (Nat.digitChar (c.toNat % 16)) rest
  have hvalue : 16 * (c.toNat / 16) + c.toNat % 16 = c.toNat := Nat.div_add_mod ..
  have hunit : endUnit none c.toNat = .ok (.plain, some c) := by
    have hl : isLowUnit c.toNat = false := by
      simp [isLowUnit]
      omega
    have hh : isHighUnit c.toNat = false := by
      simp [isHighUnit]
      omega
    simp [endUnit, hl, hh]
  simp [controlEscape, scan, Scan.step, escaped?, beginUnit, hlong, hzero, hhigh, hlow, hvalue,
    hunit, bind, Except.bind, pure, Except.pure]

/-- The machine takes an escaped character as the character that it stands for. -/
theorem scan_escape (c : Char) (read rest : List Char) :
    scan true .plain read (escape c ++ rest) = scan true .plain (c :: read) rest := by
  unfold escape
  iterate 7
    split
    · next h =>
      subst h
      rfl
  split
  · next h => exact scan_controlEscape h read rest
  · simp_all [scan, Scan.step, Nat.not_lt_of_le]

theorem scan_escape_flatMap (cs read rest : List Char) :
    scan true .plain read (cs.flatMap escape ++ rest) =
      scan true .plain (cs.reverse ++ read) rest := by
  induction cs generalizing read with
  | nil => rfl
  | cons c cs ih =>
    rw [List.flatMap_cons, List.append_assoc, scan_escape, ih, List.reverse_cons,
      List.append_assoc, List.singleton_append]

theorem quote_append (s : String) (rest : List Char) :
    quote s ++ rest = '"' :: (s.toList.flatMap escape ++ '"' :: rest) := by
  simp [quote]

theorem textEnd_quote (s : String) (rest : List Char) :
    textEnd (s.toList.flatMap escape ++ '"' :: rest) = .ok (s, rest) := by
  have hscan := scan_escape_flatMap s.toList [] ('"' :: rest)
  simp [textEnd, hscan, scan, bind, Except.bind, pure, Except.pure]

end Texts

section Readers

theorem reads_text (s : String) : Reads readText (.text s) s := by
  intro b t rest hb ht hr
  cases ht
  rw [readText, quote_append, dropBlanks_append_cons hb rfl]
  exact textEnd_quote s rest

theorem wordEnd_append (word rest : List Char) : wordEnd word (word ++ rest) = .ok rest := by
  induction word with
  | nil => rfl
  | cons c word ih => simp [wordEnd, ih]

theorem reads_flag (flag : Bool) : Reads readFlag (.flag flag) flag := by
  intro b t rest hb ht hr
  have htext := ht.dropBlanks_append hb rest
  cases ht
  unfold readFlag
  rw [htext]
  cases flag with
  | true => exact congrArg (Except.map (true, ·)) (wordEnd_append "rue".toList rest)
  | false => exact congrArg (Except.map (false, ·)) (wordEnd_append "alse".toList rest)

theorem reads_natBelow {bound : Nat} (hbound : bound ≤ UInt64.size) (want : Want) {n : Nat}
    (hn : n < bound) : Reads (readNatBelow bound want) (.ofNat n) n := by
  intro b t rest hb ht hr
  cases ht
  have htext := (Writes.number (.natural n)).dropBlanks_append hb rest
  have hnumber : number? ((Number.natural n).text.toList ++ rest) = some (.ok (.natural n, rest)) :=
    number?_toString (Nat.lt_of_lt_of_le hn hbound) hr
  simp only [readNatBelow, htext, hnumber]
  simp [Number.toNatBelow, hn, bind, Except.bind, pure, Except.pure]

theorem reads_index (n : UInt64) : Reads readIndex (.ofWord n) n := by
  have hread := (reads_natBelow (Nat.le_refl _) .index n.toNat_lt).map UInt64.ofNat
  rwa [UInt64.ofNat_toNat] at hread

theorem reads_word (n : UInt64) : Reads readWord (.ofWord n) n := by
  have hread := (reads_natBelow (Nat.le_refl _) .word n.toNat_lt).map UInt64.ofNat
  rwa [UInt64.ofNat_toNat] at hread

theorem reads_byte (n : UInt8) : Reads readByte (.ofByte n) n := by
  have hread := (reads_natBelow (by decide) .byte n.toNat_lt).map UInt8.ofNat
  rwa [UInt8.ofNat_toNat] at hread

theorem reads_optional {f : α → Value} {o : Option α}
    (h : ∀ a, o = some a → f a ≠ .null ∧ Reads read (f a) a) :
    Reads (readOptional read) (.ofOption f o) o := by
  intro b t rest hb ht hr
  unfold readOptional
  rw [ht.dropBlanks_append hb]
  cases o with
  | none =>
    cases ht
    rfl
  | some a =>
    obtain ⟨hne, hread⟩ := h a rfl
    obtain ⟨c, r, hcons, -, -, hnull⟩ := ht.exists_cons
    have hstart : c ≠ 'n' := fun hc => hne (hnull hc)
    have hfirst := hread.read_append ht hr
    rw [hcons, List.cons_append] at hfirst ⊢
    split
    · next heq => exact absurd (List.cons.inj heq).1 hstart
    · simp [hfirst, bind, Except.bind, pure, Except.pure]

theorem reads_choice {choices : List (String × α)} {name : String} {a : α} (list : String)
    (h : choices.lookup name = some a) : Reads (readChoice choices list) (.text name) a := by
  intro b t rest hb ht hr
  cases ht
  unfold readChoice
  rw [quote_append, dropBlanks_append_cons hb rfl]
  simp [textEnd_quote, h, bind, Except.bind, pure, Except.pure]

end Readers

end NodeVariables.Json
