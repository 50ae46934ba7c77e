import NodeVariables.Proofs.Displays

namespace NodeVariables

namespace Graph

variable {g : Graph} {palette : Palette} {calls : List (Port × TypeName)} {p : Port}
  {type : TypeName}

/-- What a display answers and leaves: it answers whether there is an output whose type it changes,
and it leaves the graph alone where no output is, as it does when it is repeated. -/
structure Answers (palette : Palette) (p : Port) (type : TypeName) (g : Graph) : Prop where
  changed : (g.display palette p type).1 = true ↔
    ∃ slot, g.output? p = some slot ∧ slot.type.text ≠ type.text
  missing : g.output? p = none → g.display palette p type = (false, g)
  repeated : (g.display palette p type).2.display palette p type =
    (false, (g.display palette p type).2)

/-- What a sequence of displays leaves: an output has the look of the type that was displayed on it
last, all else is as it was, and the displays that changed a type have asked for redraws. -/
structure LastStays (palette : Palette) (calls : List (Port × TypeName)) (g after : Graph) :
    Prop where
  last : ∀ before p type rest, calls = before ++ (p, type) :: rest → p ∉ rest.map Prod.fst →
    after.look? p = (g.look? p).map fun _ => palette.look type
  nodes : ∀ id, after.node? id =
    (g.node? id).map (Node.outputsShown palette (lastAt calls id))
  others : after = { g with nodes := after.nodes, redraws := after.redraws }
  redraws : after.redraws = g.redraws ++ (g.effective palette calls).map (·.1.node)

theorem answers (palette : Palette) (p : Port) (type : TypeName) (g : Graph) :
    Answers palette p type g where
  changed := by
    have htext (t : TypeName) : t ≠ type ↔ t.text ≠ type.text := by
      cases t
      cases type
      simp
    rw [fst_display, look?]
    cases g.output? p with
    | none => simp
    | some slot => simpa [Slot.look] using htext slot.type
  missing h := by rw [display, h]
  repeated := display_of_shows (shows_display_self palette p type g)

theorem lastStays (palette : Palette) (calls : List (Port × TypeName)) (g : Graph) :
    LastStays palette calls g (g.displayAll palette calls).2 where
  last before p type rest hcalls hlast := by
    rw [look?, output?_displayAll, hcalls, lastOn_of_last before type hlast, look?, Option.map_map,
      Option.map_map]
    rfl
  nodes := node?_displayAll_outputsShown palette calls g
  others := displayAll_frame palette calls g
  redraws := redraws_displayAll_effective palette calls g

/-- Of any displays the last one on each output stays, and those that change a type are counted and
ask for redraws. -/
theorem lastStays_displayAll (palette : Palette) (calls : List (Port × TypeName)) (g : Graph) :
    LastStays palette calls g (g.displayAll palette calls).2 ∧
    (g.displayAll palette calls).1 = (g.effective palette calls).length ∧
    ∀ p type found, Answers palette p type found :=
  ⟨lastStays palette calls g, fst_displayAll_effective palette calls g, answers palette⟩

end Graph

end NodeVariables
