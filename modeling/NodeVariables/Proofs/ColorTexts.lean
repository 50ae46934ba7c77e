import NodeVariables.Palette

namespace NodeVariables

namespace Text

variable {c : Char} {d : Nat}

def IsHexDigit (c : Char) : Prop :=
  ('0' ≤ c ∧ c ≤ '9') ∨ ('a' ≤ c ∧ c ≤ 'f') ∨ ('A' ≤ c ∧ c ≤ 'F')

theorem not_isHexDigit_numberSign : ¬IsHexDigit '#' := by
  unfold IsHexDigit
  decide

theorem isSome_hexDigit?_iff : (hexDigit? c).isSome ↔ IsHexDigit c := by
  unfold hexDigit? IsHexDigit
  grind

theorem hexDigit_of_hexDigit? (h : hexDigit? c = some d) : d < 16 ∧ hexDigit d = c.toUpper := by
  have hle : c ≤ 'f' := by
    have hdigit := isSome_hexDigit?_iff.1 (Option.isSome_of_mem h)
    rcases hdigit with ⟨-, hle⟩ | ⟨-, hle⟩ | ⟨-, hle⟩
    · exact Char.le_trans hle (by decide)
    · exact hle
    · exact Char.le_trans hle (by decide)
  have hall : ∀ n < 103, ∀ d ∈ hexDigit? (Char.ofNat n),
      d < 16 ∧ hexDigit d = (Char.ofNat n).toUpper := by decide
  have hc := hall c.toNat (Nat.lt_succ_of_le hle) d
  rw [Char.ofNat_toNat] at hc
  exact hc h

end Text

namespace Color

open Text (hexDigit hexDigit? IsHexDigit)

section Channels

variable {a b : Char} {n : UInt8}

/-- A plus sign that begins a channel stands for a zero. -/
def unsign (c : Char) : Char := if c = '+' then '0' else c

theorem unsign_ne (a : Char) : unsign a ≠ '+' := by
  unfold unsign
  split
  · decide
  · assumption

theorem channel?_unsign (a b : Char) : channel? (unsign a) b = channel? a b := by
  unfold unsign
  split
  · next ha =>
    have hzero : hexDigit? '0' = some 0 := rfl
    cases hb : hexDigit? b <;> simp [channel?, ha, hzero, hb]
  · rfl

theorem channel?_eq (a b : Char) : channel? a b =
    (hexDigit? (unsign a)).bind fun i => (hexDigit? b).map fun j => .ofNat (16 * i + j) := by
  rw [← channel?_unsign, channel?, if_neg (unsign_ne a)]
  cases hexDigit? (unsign a) <;> cases hexDigit? b <;> rfl

theorem isSome_channel?_iff :
    (channel? a b).isSome ↔ IsHexDigit (unsign a) ∧ IsHexDigit b := by
  rw [channel?_eq, ← Text.isSome_hexDigit?_iff, ← Text.isSome_hexDigit?_iff]
  cases hexDigit? (unsign a) <;> cases hexDigit? b <;> simp

/-- The notation of a channel has the digits that it was read from. -/
theorem hexByte_of_channel? (h : channel? a b = some n) :
    hexByte n = [(unsign a).toUpper, b.toUpper] := by
  rw [channel?_eq] at h
  obtain ⟨i, hi, h⟩ := Option.bind_eq_some_iff.1 h
  obtain ⟨j, hj, rfl⟩ := Option.map_eq_some_iff.1 h
  obtain ⟨hi, hia⟩ := Text.hexDigit_of_hexDigit? hi
  obtain ⟨hj, hjb⟩ := Text.hexDigit_of_hexDigit? hj
  have hn : (UInt8.ofNat (16 * i + j)).toNat = 16 * i + j :=
    UInt8.toNat_ofNat_of_lt' (by simp only [UInt8.size]; omega)
  have hhigh : (16 * i + j) / 16 = i := by omega
  have hlow : (16 * i + j) % 16 = j := by omega
  rw [hexByte, hn, hhigh, hlow, hia, hjb]

end Channels

section Places

variable {places digits : List Char} {color : Color}

structure SixDigits (digits : List Char) : Prop where
  length : digits.length = 6
  digit : ∀ c ∈ digits, IsHexDigit c

theorem SixDigits.head?_ne (h : SixDigits digits) : digits.head? ≠ some '#' :=
  fun hhead => Text.not_isHexDigit_numberSign (h.digit _ (List.mem_of_head? hhead))

def unsigned : List Char → List Char
  | a :: b :: r => unsign a :: b :: unsigned r
  | r => r

theorem length_unsigned (places : List Char) : (unsigned places).length = places.length := by
  fun_induction unsigned places with
  | case1 a b r ih => simp [ih]
  | case2 r => rfl

theorem unsigned_eq_self (h : '+' ∉ places) : unsigned places = places := by
  fun_induction unsigned places with
  | case1 a b r ih =>
    simp only [List.mem_cons, not_or] at h
    rw [ih h.2.2, unsign, if_neg (Ne.symm h.1)]
  | case2 r => rfl

def ofPlaces? : List Char → Option Color
  | [a, b, c, d, e, f] => do return rgb (← channel? a b) (← channel? c d) (← channel? e f)
  | _ => none

theorem isSome_ofPlaces?_iff : (ofPlaces? places).isSome ↔ SixDigits (unsigned places) := by
  unfold ofPlaces?
  split
  · next a b c d e f =>
    have hchannels : SixDigits (unsigned [a, b, c, d, e, f]) ↔
        ((channel? a b).isSome ∧ (channel? c d).isSome) ∧ (channel? e f).isSome := by
      simp only [isSome_channel?_iff]
      constructor
      · rintro ⟨-, hdigit⟩
        simpa [unsigned, and_assoc] using hdigit
      · intro h
        exact ⟨rfl, by simpa [unsigned, and_assoc] using h⟩
    rw [hchannels]
    cases channel? a b <;> cases channel? c d <;> cases channel? e f <;> simp
  · next hne =>
    have hlen : places.length ≠ 6 := by
      intro hlen
      match places, hlen with
      | [a, b, c, d, e, f], _ => exact hne a b c d e f rfl
    simp only [Option.isSome_none, Bool.false_eq_true, false_iff]
    exact fun hsix => hlen ((length_unsigned places).symm.trans hsix.length)

theorem toHex_of_ofPlaces? (h : ofPlaces? places = some color) : color.alpha = 255 ∧
    color.toHex = .ofList ('#' :: (unsigned places).map Char.toUpper) := by
  unfold ofPlaces? at h
  split at h
  · next a b c d e f =>
    obtain ⟨red, hred, h⟩ := Option.bind_eq_some_iff.1 h
    obtain ⟨green, hgreen, h⟩ := Option.bind_eq_some_iff.1 h
    obtain ⟨blue, hblue, ⟨rfl⟩⟩ := Option.bind_eq_some_iff.1 h
    refine ⟨rfl, ?_⟩
    simp [toHex, rgb, unsigned, hexByte_of_channel? hred, hexByte_of_channel? hgreen,
      hexByte_of_channel? hblue]
  · simp at h

end Places

section Spelling

variable {s : String} {places digits : List Char} {color : Color}

def unmarked (s : String) : List Char :=
  match s.toList with
  | '#' :: r => r
  | r => r

theorem ofHex?_eq (s : String) : ofHex? s = ofPlaces? (unmarked s) := rfl

/-- A text is some places after a number sign or without one. -/
def Carries (s : String) (places : List Char) : Prop :=
  s.toList = places ∨ s.toList = '#' :: places

/-- A text spells a color by six digits, after a number sign or without one. -/
def Spells (s : String) (digits : List Char) : Prop := SixDigits digits ∧ Carries s digits

/-- A text spells a color by six digits, and plus signs may stand for zeros that begin channels. -/
def SpellsSigned (s : String) (digits : List Char) : Prop :=
  SixDigits digits ∧ ∃ places, Carries s places ∧ unsigned places = digits

theorem carries_unmarked (s : String) : Carries s (unmarked s) := by
  unfold Carries unmarked
  split
  · next h => exact .inr h
  · exact .inl rfl

theorem Carries.unmarked_eq (h : Carries s places) (hne : places.head? ≠ some '#') :
    unmarked s = places := by
  unfold unmarked
  rcases h with h | h <;> rw [h]
  · split
    · simp at hne
    · rfl
  · rfl

theorem head?_ne_of_unsigned (h : SixDigits (unsigned places)) : places.head? ≠ some '#' := by
  intro hhead
  obtain ⟨r, rfl⟩ := List.head?_eq_some_iff.1 hhead
  refine h.head?_ne ?_
  cases r <;> rfl

theorem spellsSigned_iff :
    SpellsSigned s digits ↔ SixDigits digits ∧ unsigned (unmarked s) = digits := by
  refine and_congr_right fun hsix => ⟨?_, fun h => ⟨_, carries_unmarked s, h⟩⟩
  rintro ⟨places, hplaces, rfl⟩
  rw [hplaces.unmarked_eq (head?_ne_of_unsigned hsix)]

theorem spells_iff (h : '+' ∉ s.toList) : Spells s digits ↔ SpellsSigned s digits := by
  have hself : ∀ places, Carries s places → unsigned places = places := by
    intro places hplaces
    apply unsigned_eq_self
    rcases hplaces with heq | heq <;> rw [heq] at h
    · exact h
    · exact fun hmem => h (List.mem_cons_of_mem _ hmem)
  refine and_congr_right fun _ => ⟨fun h => ⟨_, h, hself _ h⟩, ?_⟩
  rintro ⟨places, hplaces, rfl⟩
  rwa [hself _ hplaces]

theorem isSome_ofHex?_iff : (ofHex? s).isSome ↔ ∃ digits, SpellsSigned s digits := by
  rw [ofHex?_eq, isSome_ofPlaces?_iff]
  simp [spellsSigned_iff]

theorem toHex_of_ofHex? (h : ofHex? s = some color) (hs : SpellsSigned s digits) :
    color.alpha = 255 ∧ color.toHex = .ofList ('#' :: digits.map Char.toUpper) := by
  obtain ⟨-, rfl⟩ := spellsSigned_iff.1 hs
  exact toHex_of_ofPlaces? h

end Spelling

end Color

namespace Palette

open Color (Spells SpellsSigned)

/-- A text is read as a color if it spells six digits: the color is the one with these digits that
one cannot see through. A text that spells none is refused, with the name of the type. -/
structure ReadsBy (spelled : List Char → Prop) (name value : String) : Prop where
  accepted : (∃ color, parseColor name value = .ok color) ↔ ∃ digits, spelled digits
  read : ∀ color digits, parseColor name value = .ok color → spelled digits →
    color.alpha = 255 ∧ color.toHex = .ofList ('#' :: digits.map Char.toUpper)
  refused : (¬∃ digits, spelled digits) → parseColor name value = .error (.color name value)

theorem readsBy_spellsSigned (name value : String) :
    ReadsBy (SpellsSigned value) name value := by
  have hsome := Color.isSome_ofHex?_iff (s := value)
  cases hread : Color.ofHex? value with
  | none =>
    have herror : parseColor name value = .error (.color name value) := by
      rw [parseColor, hread]
    have hnone : ¬∃ digits, SpellsSigned value digits := by
      rw [← hsome, hread]
      decide
    refine ⟨⟨?_, fun h => absurd h hnone⟩, ?_, fun _ => herror⟩
    · rintro ⟨color, hcolor⟩
      simp [herror] at hcolor
    · intro color digits hcolor
      simp [herror] at hcolor
  | some color =>
    have hok : parseColor name value = .ok color := by
      rw [parseColor, hread]
    have hdigits : ∃ digits, SpellsSigned value digits := by
      rw [← hsome, hread]
      rfl
    refine ⟨⟨fun _ => hdigits, fun _ => ⟨color, hok⟩⟩, ?_, fun h => absurd hdigits h⟩
    intro other digits hother hs
    obtain rfl := Except.ok.inj (hok.symm.trans hother)
    exact Color.toHex_of_ofHex? hread hs

/-- A color is read from six digits, where a plus sign counts as a zero that begins a channel. From
a text without a plus sign it is read by six digits and nothing else. -/
theorem readsBy_parseColor (name value : String) :
    ReadsBy (SpellsSigned value) name value ∧
    ('+' ∉ value.toList → ReadsBy (Spells value) name value) := by
  have hsigned := readsBy_spellsSigned name value
  refine ⟨hsigned, fun hplus => ?_⟩
  have hspells : Spells value = SpellsSigned value :=
    funext fun _ => propext (Color.spells_iff hplus)
  rwa [hspells]

theorem readsBy_parseColor_mixedCase :
    '+' ∉ "11aA2f".toList ∧ ReadsBy (Spells "11aA2f") "AUDIO" "11aA2f" ∧
    Spells "11aA2f" ['1', '1', 'a', 'A', '2', 'f'] ∧
    parseColor "AUDIO" "11aA2f" = .ok (.rgb 17 170 47) ∧
    Color.toHex (.rgb 17 170 47) = "#11AA2F" := by
  have hplus : '+' ∉ "11aA2f".toList := by decide
  have hdigit : ∀ c ∈ ['1', '1', 'a', 'A', '2', 'f'], Text.IsHexDigit c := by
    simp [Text.IsHexDigit]
  exact ⟨hplus, (readsBy_parseColor _ _).2 hplus, ⟨⟨rfl, hdigit⟩, .inl (by decide)⟩, rfl,
    by decide⟩

/-- Not only digits are read: each channel may begin with a plus sign in place of a zero. -/
theorem not_readsBy_spells :
    (¬∀ name value, ReadsBy (Spells value) name value) ∧
    parseColor "IMAGE" "#+1+2+3" = .ok (.rgb 1 2 3) := by
  have hok : parseColor "IMAGE" "#+1+2+3" = .ok (.rgb 1 2 3) := rfl
  refine ⟨fun h => ?_, hok⟩
  obtain ⟨digits, ⟨hsix, hcarries⟩⟩ := (h "IMAGE" "#+1+2+3").accepted.1 ⟨_, hok⟩
  have hplus : '+' ∈ digits := by
    have hplaces : Color.unmarked "#+1+2+3" = digits := hcarries.unmarked_eq hsix.head?_ne
    rw [← hplaces]
    decide
  have hdigit := hsix.digit '+' hplus
  revert hdigit
  unfold Text.IsHexDigit
  decide

end Palette

end NodeVariables
