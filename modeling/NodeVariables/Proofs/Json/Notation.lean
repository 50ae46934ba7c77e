import NodeVariables.Json.Reader.Basic
import NodeVariables.Json.Reader.Number
import NodeVariables.Json.Value

namespace NodeVariables

namespace Decimal

open Json (isDigit)

theorem isDigit_of_mem_toDigits {n : Nat} {c : Char} (h : c ∈ Nat.toDigits 10 n) :
    isDigit c = true := by
  have hc := Nat.isDigit_of_mem_toDigits (by decide) (by decide) h
  simpa [Char.isDigit, isDigit, Char.le_def] using hc

theorem exists_cons_toDigits (n : Nat) :
    ∃ c r, Nat.toDigits 10 n = c :: r ∧ isDigit c = true := by
  obtain ⟨c, r, hcons⟩ := List.exists_cons_of_ne_nil (Nat.toDigits_ne_nil (n := n) (b := 10))
  exact ⟨c, r, hcons, isDigit_of_mem_toDigits (n := n) (by simp [hcons])⟩

/-- A decimal starts with a digit, whether or not it has an exponent. -/
theorem exists_cons_write (l : Layout) (s : Scientific) :
    ∃ c r, l.write s = c :: r ∧ isDigit c = true := by
  obtain ⟨c, r, hcons, hc⟩ := exists_cons_toDigits (trimZeros s.digits (digitCount s.digits))
  have hpoint (n : Nat) : ∃ r', withPoint (c :: r) (n + 1) = c :: r' := by
    simp [withPoint]
  unfold Layout.write
  simp only [hcons]
  split
  · split
    · obtain ⟨r', hr⟩ := hpoint (s.exponent + digitCount s.digits - 1).toNat
      exact ⟨c, r', hr, hc⟩
    · exact ⟨'0', _, rfl, rfl⟩
  · cases r with
    | nil => exact ⟨c, _, rfl, hc⟩
    | cons d r =>
      obtain ⟨r', hr⟩ := hpoint 0
      exact ⟨c, _, congrArg (fun mantissa => mantissa ++ _ ++ _) hr, hc⟩

end Decimal

namespace Json

def Blanks (s : List Char) : Prop := ∀ c ∈ s, isBlank c = true

/-- What stands in front of an element or a member, unless it is the first one. -/
def separator (first : Bool) : List Char := if first then [] else [',']

mutual

/-- A text writes a value. -/
inductive Writes : Value → List Char → Prop where
  | null : Writes .null "null".toList
  | flag (b : Bool) : Writes (.flag b) (if b then "true".toList else "false".toList)
  | number (n : Number) : Writes (.number n) n.text.toList
  | text (s : String) : Writes (.text s) (quote s)
  | list {items : List Value} {t : List Char} (inside : WritesItems true items t) :
    Writes (.list items) ('[' :: (t ++ [']']))
  | object {members : List (String × Value)} {t : List Char}
    (inside : WritesMembers true members t) :
    Writes (.object members) ('\x7b' :: (t ++ ['\x7d']))

inductive WritesItems : Bool → List Value → List Char → Prop where
  | done {first : Bool} {b : List Char} (blanks : Blanks b) : WritesItems first [] b
  | item {first : Bool} {v : Value} {rest : List Value} {b s t : List Char} (blanks : Blanks b)
    (value : Writes v s) (others : WritesItems false rest t) :
    WritesItems first (v :: rest) (separator first ++ (b ++ (s ++ t)))

inductive WritesMembers : Bool → List (String × Value) → List Char → Prop where
  | done {first : Bool} {b : List Char} (blanks : Blanks b) : WritesMembers first [] b
  | member {first : Bool} {k : String} {v : Value} {rest : List (String × Value)}
    {b b' s t : List Char} (blanks : Blanks b) (space : Blanks b') (value : Writes v s)
    (others : WritesMembers false rest t) :
    WritesMembers first ((k, v) :: rest)
      (separator first ++ (b ++ (quote k ++ ':' :: (b' ++ (s ++ t)))))

end

variable {b s t rest : List Char} {v : Value} {first : Bool}

section Blanks

theorem blanks_nil : Blanks [] := by simp [Blanks]

theorem blanks_newline (depth : Nat) : Blanks (Value.newline depth) := by
  intro c hc
  rcases List.mem_cons.1 hc with rfl | hc
  · rfl
  · rw [List.eq_of_mem_replicate hc]
    rfl

theorem dropBlanks_append (hb : Blanks b) (s : List Char) : dropBlanks (b ++ s) = dropBlanks s := by
  induction b with
  | nil => rfl
  | cons c b ih =>
    rw [List.cons_append, dropBlanks_cons_of_blank (hb c (by simp)),
      ih fun d hd => hb d (List.mem_cons_of_mem _ hd)]

theorem dropBlanks_append_cons (hb : Blanks b) {c : Char} (hc : isBlank c = false)
    (s : List Char) : dropBlanks (b ++ c :: s) = c :: s := by
  rw [dropBlanks_append hb, dropBlanks_cons_of_not_blank hc]

end Blanks

section Opening

theorem ne_of_isDigit {c d : Char} (hc : isDigit c = true) (hd : isDigit d = false) : c ≠ d := by
  rintro rfl
  simp [hc] at hd

theorem isBlank_of_isDigit {c : Char} (h : isDigit c = true) : isBlank c = false := by
  have hne (d : Char) (hd : isDigit d = false) : c ≠ d := ne_of_isDigit h hd
  simp [isBlank, hne ' ' rfl, hne '\n' rfl, hne '\t' rfl, hne '\r' rfl]

theorem exists_cons_number (n : Number) :
    ∃ c r, n.text.toList = c :: r ∧ (isDigit c = true ∨ c = '-') := by
  cases n with
  | natural n =>
    obtain ⟨c, r, hcons, hc⟩ := Decimal.exists_cons_toDigits n
    exact ⟨c, r, by simpa [Number.text] using hcons, .inl hc⟩
  | negative n =>
    exact ⟨'-', (toString n).toList, by simp [Number.text], .inr rfl⟩
  | real minus x =>
    have hmagnitude : ∃ c r, (if x.isZero then ['0', '.', '0'] else Number.layout.write x.shortest)
        = c :: r ∧ isDigit c = true := by
      split
      · exact ⟨'0', _, rfl, rfl⟩
      · exact Decimal.exists_cons_write ..
    obtain ⟨c, r, hcons, hc⟩ := hmagnitude
    cases minus with
    | true => exact ⟨'-', _, by simp [Number.text, Decimal.Layout.text]; rfl, .inr rfl⟩
    | false => exact ⟨c, r, by simp [Number.text, Decimal.Layout.text, hcons], .inl hc⟩

/-- How a written value starts. -/
theorem Writes.exists_cons (h : Writes v s) :
    ∃ c r, s = c :: r ∧ isBlank c = false ∧ c ≠ ']' ∧ (c = 'n' → v = .null) := by
  cases h with
  | null => exact ⟨'n', _, rfl, by decide, by decide, fun _ => rfl⟩
  | flag b => cases b <;> exact ⟨_, _, rfl, by decide, by decide, fun h => absurd h (by decide)⟩
  | number n =>
    obtain ⟨c, r, hcons, hc | rfl⟩ := exists_cons_number n
    · exact ⟨c, r, hcons, isBlank_of_isDigit hc, ne_of_isDigit hc rfl,
        fun h => absurd h (ne_of_isDigit hc rfl)⟩
    · exact ⟨'-', r, hcons, by decide, by decide, fun h => absurd h (by decide)⟩
  | text s => exact ⟨'"', _, rfl, by decide, by decide, fun h => absurd h (by decide)⟩
  | list _ => exact ⟨'[', _, rfl, by decide, by decide, fun h => absurd h (by decide)⟩
  | object _ => exact ⟨'\x7b', _, rfl, by decide, by decide, fun h => absurd h (by decide)⟩

theorem Writes.dropBlanks_append (h : Writes v s) (hb : Blanks b) (rest : List Char) :
    dropBlanks (b ++ (s ++ rest)) = s ++ rest := by
  obtain ⟨c, r, rfl, hblank, -⟩ := h.exists_cons
  exact dropBlanks_append_cons hb hblank (r ++ rest)

end Opening

section Compact

open Value

mutual

theorem writes_compactChars : (v : Value) → Writes v v.compactChars
  | .null => .null
  | .flag b => .flag b
  | .number n => .number n
  | .text s => .text s
  | .list [] => .list (.done blanks_nil)
  | .list (v :: vs) => by
    have hv := writes_compactChars v
    have hvs := writesItems_compactItems vs
    have hall : Writes (.list (v :: vs)) _ := .list (.item blanks_nil hv hvs)
    simpa [compactChars, separator] using hall
  | .object [] => .object (.done blanks_nil)
  | .object ((k, v) :: ms) => by
    have hv := writes_compactChars v
    have hms := writesMembers_compactMembers ms
    have hall : Writes (.object ((k, v) :: ms)) _ :=
      .object (.member blanks_nil blanks_nil hv hms)
    simpa [compactChars, separator] using hall

theorem writesItems_compactItems : (vs : List Value) → WritesItems false vs (compactItems vs)
  | [] => .done blanks_nil
  | v :: vs => by
    have hv := writes_compactChars v
    have hvs := writesItems_compactItems vs
    have hall : WritesItems false (v :: vs) _ := .item blanks_nil hv hvs
    simpa [compactItems, separator] using hall

theorem writesMembers_compactMembers :
    (ms : List (String × Value)) → WritesMembers false ms (compactMembers ms)
  | [] => .done blanks_nil
  | (k, v) :: ms => by
    have hv := writes_compactChars v
    have hms := writesMembers_compactMembers ms
    have hall : WritesMembers false ((k, v) :: ms) _ := .member blanks_nil blanks_nil hv hms
    simpa [compactMembers, separator] using hall

end

end Compact

section Pretty

open Value

mutual

theorem writes_prettyChars (depth : Nat) : (v : Value) → Writes v (v.prettyChars depth)
  | .null => .null
  | .flag b => .flag b
  | .number n => .number n
  | .text s => .text s
  | .list [] => .list (.done blanks_nil)
  | .list (v :: vs) => by
    have hv := writes_prettyChars (depth + 1) v
    have hvs := writesItems_prettyItems (depth + 1) vs (blanks_newline depth)
    have hall : Writes (.list (v :: vs)) _ := .list (.item (blanks_newline (depth + 1)) hv hvs)
    simpa [prettyChars, separator] using hall
  | .object [] => .object (.done blanks_nil)
  | .object ((k, v) :: ms) => by
    have hv := writes_prettyChars (depth + 1) v
    have hms := writesMembers_prettyMembers (depth + 1) ms (blanks_newline depth)
    have hspace : Blanks [' '] := by simp [Blanks, isBlank]
    have hall : Writes (.object ((k, v) :: ms)) _ :=
      .object (.member (blanks_newline (depth + 1)) hspace hv hms)
    simpa [prettyChars, separator] using hall

theorem writesItems_prettyItems (depth : Nat) : (vs : List Value) → {b : List Char} →
    Blanks b → WritesItems false vs (prettyItems depth vs ++ b)
  | [], _, hb => .done hb
  | v :: vs, _, hb => by
    have hv := writes_prettyChars depth v
    have hvs := writesItems_prettyItems depth vs hb
    have hall : WritesItems false (v :: vs) _ := .item (blanks_newline depth) hv hvs
    simpa [prettyItems, separator] using hall

theorem writesMembers_prettyMembers (depth : Nat) : (ms : List (String × Value)) →
    {b : List Char} → Blanks b → WritesMembers false ms (prettyMembers depth ms ++ b)
  | [], _, hb => .done hb
  | (k, v) :: ms, _, hb => by
    have hv := writes_prettyChars depth v
    have hms := writesMembers_prettyMembers depth ms hb
    have hspace : Blanks [' '] := by simp [Blanks, isBlank]
    have hall : WritesMembers false ((k, v) :: ms) _ := .member (blanks_newline depth) hspace hv hms
    simpa [prettyMembers, separator] using hall

end

end Pretty

end Json

end NodeVariables
