import NodeVariables.Proofs.Bytes
import NodeVariables.Proofs.Loading

namespace NodeVariables.Palette

open Text (bytes)

variable {p palette : Palette} {overrides : Table String String} {name value : String}

def given? (overrides : Table String String) (name : String) : Option Color :=
  (overrides.get? name).bind Color.ofHex?

/-- The color that is a type's own, by an override or as a built-in type. The empty name has no
color of its own. -/
def own? (overrides : Table String String) (t : TypeName) : Option Color :=
  (if t.text = "" then none else given? overrides t.text).or (builtin.colors.get? t.text)

/-- The first override, in the order of the bytes of the names, that cannot be read. -/
structure FirstUnreadable (overrides : Table String String) (name value : String) : Prop where
  given : overrides.get? name = some value
  unreadable : Color.ofHex? value = none
  first : ∀ other hex, overrides.get? other = some hex → Color.ofHex? hex = none →
    other = name ∨ bytes name < bytes other

section Failures

theorem FirstUnreadable.unique {other hex : String} (h : FirstUnreadable overrides name value)
    (h' : FirstUnreadable overrides other hex) : (name, value) = (other, hex) := by
  have hname : name = other := by
    rcases h.first other hex h'.given h'.unreadable with heq | hlt
    · exact heq.symm
    rcases h'.first name value h.given h.unreadable with heq | hgt
    · exact heq
    · exact absurd hgt (List.lt_asymm hlt)
  subst hname
  rw [Option.some.inj (h.given.symm.trans h'.given)]

theorem firstUnreadable_of_find?
    (h : overrides.entries.find? (fun e => (Color.ofHex? e.2).isNone) = some (name, value)) :
    FirstUnreadable overrides name value := by
  obtain ⟨hbad, before, after, entries, hbefore⟩ := List.find?_eq_some_iff_append.1 h
  refine ⟨Table.get?_eq_some_iff.2 (by simp [entries]), by simpa using hbad, ?_⟩
  intro other hex hgiven hunreadable
  have hmem := Table.get?_eq_some_iff.1 hgiven
  have hsorted := overrides.sorted
  rw [entries] at hmem hsorted
  rcases List.mem_append.1 hmem with hmem | hmem
  · have hread := hbefore _ hmem
    simp [hunreadable] at hread
  rcases List.mem_cons.1 hmem with heq | hmem
  · exact .inl (congrArg Prod.fst heq)
  · have hrest := (List.pairwise_append.1 hsorted).2.1
    exact .inr (Text.bytes_lt ((List.pairwise_cons.1 hrest).1 _ hmem))

theorem exists_firstUnreadable (given : overrides.get? name = some value)
    (unreadable : Color.ofHex? value = none) : ∃ e : String × String,
      overrides.entries.find? (fun e => (Color.ofHex? e.2).isNone) = some e := by
  rw [← Option.isSome_iff_exists, List.find?_isSome]
  exact ⟨_, Table.get?_eq_some_iff.1 given, by simp [unreadable]⟩

theorem ofOverrides_eq_error_iff {failure : Failure} :
    ofOverrides overrides = .error failure ↔
      ∃ name value, FirstUnreadable overrides name value ∧ failure = .color name value := by
  refine foldlM_parseColor_eq_error_iff.trans ⟨?_, ?_⟩
  · rintro ⟨⟨name, value⟩, hfind, rfl⟩
    exact ⟨name, value, firstUnreadable_of_find? hfind, rfl⟩
  · rintro ⟨name, value, h, rfl⟩
    obtain ⟨⟨other, hex⟩, hfind⟩ := exists_firstUnreadable h.given h.unreadable
    obtain ⟨rfl, rfl⟩ := Prod.mk.inj (h.unique (firstUnreadable_of_find? hfind))
    exact ⟨_, hfind, rfl⟩

theorem exists_ofOverrides_iff : (∃ p, ofOverrides overrides = .ok p) ↔
    ∀ name value, overrides.get? name = some value → (Color.ofHex? value).isSome := by
  constructor
  · rintro ⟨p, hp⟩ name value given
    by_contra hread
    obtain ⟨e, hfind⟩ := exists_firstUnreadable given (by simpa using hread)
    have herror := ofOverrides_eq_error_iff.2 ⟨_, _, firstUnreadable_of_find? hfind, rfl⟩
    simp [hp] at herror
  · intro h
    cases hp : ofOverrides overrides with
    | ok p => exact ⟨p, rfl⟩
    | error failure =>
      obtain ⟨name, value, hfirst, -⟩ := ofOverrides_eq_error_iff.1 hp
      simpa [hfirst.unreadable] using h name value hfirst.given

end Failures

section Lookups

/-- The color that goes by a name; that of any type goes by `*`. -/
def find? (p : Palette) (name : String) : Option Color :=
  if name = TypeName.wildcard.text then some p.wildcard else p.colors.get? name

theorem find?_wildcard (p : Palette) : p.find? TypeName.wildcard.text = some p.wildcard :=
  if_pos rfl

theorem find?_insert (p : Palette) (name : String) (color : Color) (k : String) :
    (p.insert name color).find? k = if k = name then some color else p.find? k := by
  unfold insert find?
  by_cases hname : name = TypeName.wildcard.text <;> by_cases hk : k = name <;>
    simp_all [Table.get?_insert]

theorem color_eq (p : Palette) (t : TypeName) :
    p.color t = (if t.text = "" then none else p.find? t.text).getD p.wildcard := by
  unfold color find? TypeName.isWildcard
  by_cases hempty : t.text = ""
  · simp [hempty]
  · by_cases hany : t.text = "*" <;> simp [hempty, hany, TypeName.wildcard]

theorem find?_foldlM {entries : List (String × String)}
    (hs : entries.Pairwise fun a b => a.1 < b.1)
    (h : entries.foldlM (fun p e => return p.insert e.1 (← parseColor e.1 e.2)) palette = .ok p)
    (k : String) :
    p.find? k = ((entries.lookup k).bind Color.ofHex?).or (palette.find? k) := by
  induction entries generalizing palette with
  | nil => rw [Except.ok.inj h]; rfl
  | cons entry rest ih =>
    obtain ⟨name, value⟩ := entry
    obtain ⟨hfirst, hrest⟩ := List.pairwise_cons.1 hs
    rw [List.foldlM_cons] at h
    cases hcolor : Color.ofHex? value with
    | none => simp [parseColor, hcolor, bind, Except.bind] at h
    | some color =>
      simp only [parseColor, hcolor, bind, Except.bind, pure, Except.pure] at h
      rw [ih hrest h, find?_insert]
      by_cases hk : k = name
      · -- the name is not overridden again, as no name occurs twice
        have hnone : rest.lookup k = none := by
          rw [List.lookup_eq_none_iff]
          intro e he
          have hlt := hfirst e he
          have hne : k ≠ e.1 := by
            rintro rfl
            exact KeyOrder.irrefl _ (hk ▸ hlt)
          simpa using hne
        simp [hk, hcolor, hk ▸ hnone]
      · have hbeq : (k == name) = false := beq_eq_false_iff_ne.2 hk
        simp [hk, List.lookup_cons, hbeq]

theorem find?_of_ofOverrides (h : ofOverrides overrides = .ok p) (k : String) :
    p.find? k = (given? overrides k).or (builtin.find? k) :=
  find?_foldlM overrides.sorted h k

end Lookups

/-- Overrides are refused for the first one, in the order of bytes, that cannot be read. Otherwise
each of them but one of the empty name is the color of its type, and all other types have their
built-in color or the color of any type. -/
theorem color_of_ofOverrides (overrides : Table String String) :
    (∀ failure, ofOverrides overrides = .error failure ↔
      ∃ name value, FirstUnreadable overrides name value ∧ failure = .color name value) ∧
    ((∃ p, ofOverrides overrides = .ok p) ↔
      ∀ name value, overrides.get? name = some value → (Color.ofHex? value).isSome) ∧
    ∀ p, ofOverrides overrides = .ok p →
      (∀ t, p.color t =
        (own? overrides t).getD ((given? overrides "*").getD builtin.wildcard)) ∧
      ∀ name value, name ≠ "" → overrides.get? name = some value →
        Color.ofHex? value = some (p.color ⟨name⟩) := by
  refine ⟨fun _ => ofOverrides_eq_error_iff, exists_ofOverrides_iff, fun p hp => ?_⟩
  have hcolor (t : TypeName) : p.color t =
      (own? overrides t).getD ((given? overrides "*").getD builtin.wildcard) := by
    have hwildcard := (p.find?_wildcard).symm.trans (find?_of_ofOverrides hp _)
    rw [builtin.find?_wildcard, Option.or_some] at hwildcard
    rw [color_eq, Option.some.inj hwildcard, own?, find?_of_ofOverrides hp]
    by_cases hempty : t.text = ""
    · rw [if_pos hempty, if_pos hempty, hempty]
      rfl
    rw [if_neg hempty, if_neg hempty]
    by_cases hany : t.text = "*"
    · rw [hany]
      cases given? overrides "*" <;> rfl
    · simp [find?, TypeName.wildcard, hany]
  refine ⟨hcolor, fun name value hname given => ?_⟩
  obtain ⟨color, hread⟩ := Option.isSome_iff_exists.1
    (exists_ofOverrides_iff.1 ⟨p, hp⟩ name value given)
  rw [hcolor, own?, if_neg hname, given?, given, Option.bind_some, hread]
  rfl

def repainted : Table String String :=
  .ofList [("IMAGE", "#000000"), ("AUDIO", "11aa22"), ("*", "#FFFFFF"), ("", "#112233")]

theorem color_of_ofOverrides_repainted : ∃ p, ofOverrides repainted = .ok p ∧
    p.color ⟨"IMAGE"⟩ = .rgb 0 0 0 ∧ p.color ⟨"AUDIO"⟩ = .rgb 17 170 34 ∧
    p.color ⟨"MASK"⟩ = .rgb 129 199 132 ∧ p.color ⟨"NOPE"⟩ = .rgb 255 255 255 ∧
    p.color ⟨""⟩ = .rgb 255 255 255 ∧
    "*" ≠ "" ∧ repainted.get? "*" = some "#FFFFFF" ∧
    Color.ofHex? "#FFFFFF" = some (p.color ⟨"*"⟩) := by
  have hread : (ofOverrides repainted).toOption.isSome := by decide
  cases hp : ofOverrides repainted with
  | error failure => simp [hp, Except.toOption] at hread
  | ok p =>
    obtain ⟨hcolor, hgiven⟩ := (color_of_ofOverrides repainted).2.2 p hp
    exact ⟨p, rfl, (hcolor _).trans (by decide), (hcolor _).trans (by decide),
      (hcolor _).trans (by decide), (hcolor _).trans (by decide), (hcolor _).trans (by decide),
      by decide, by decide, hgiven "*" "#FFFFFF" (by decide) (by decide)⟩

/-- Not every override that is read takes effect. The one of the empty name does not. -/
theorem not_given_unnamed :
    (¬∀ overrides p, ofOverrides overrides = .ok p → ∀ t : TypeName, p.color t =
      ((given? overrides t.text).or (builtin.colors.get? t.text)).getD
        ((given? overrides "*").getD builtin.wildcard)) ∧
    given? (.ofList [("", "#112233")]) "" = some (.rgb 17 34 51) ∧
    ofOverrides (.ofList [("", "#112233")]) = .ok (builtin.insert "" (.rgb 17 34 51)) ∧
    (builtin.insert "" (.rgb 17 34 51)).color ⟨""⟩ = .rgb 170 170 170 := by
  have hok : ofOverrides (.ofList [("", "#112233")]) =
      .ok (builtin.insert "" (.rgb 17 34 51)) := rfl
  refine ⟨fun h => ?_, by decide, hok, by decide⟩
  have hcolor := h _ _ hok ⟨""⟩
  exact absurd hcolor (by decide)

end NodeVariables.Palette
