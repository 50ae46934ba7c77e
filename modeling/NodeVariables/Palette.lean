import NodeVariables.Color
import NodeVariables.Failure
import NodeVariables.Table
import NodeVariables.TypeName

namespace NodeVariables

structure Palette where
  colors : Table String Color
  wildcard : Color
deriving DecidableEq

namespace Palette

def builtinColors : List (String × Color) := [
  ("IMAGE", .rgb 100 181 246),
  ("MASK", .rgb 129 199 132),
  ("LATENT", .rgb 255 138 101),
  ("CONDITIONING", .rgb 255 169 49),
  ("MODEL", .rgb 179 157 219),
  ("CLIP", .rgb 255 213 0),
  ("VAE", .rgb 255 110 110),
  ("CONTROL_NET", .rgb 0 212 170),
  ("STRING", .rgb 119 221 119),
  ("INT", .rgb 126 200 227),
  ("FLOAT", .rgb 205 180 219),
  ("BOOLEAN", .rgb 255 204 128)]

def builtin : Palette := ⟨.ofList builtinColors, .rgb 170 170 170⟩

/-- Gives a type a color. The color of any type goes by the name `*` alone. -/
def insert (p : Palette) (name : String) (color : Color) : Palette :=
  if name = TypeName.wildcard.text then { p with wildcard := color }
  else { p with colors := p.colors.insert name color }

def color (p : Palette) (t : TypeName) : Color :=
  if t.isWildcard then p.wildcard else (p.colors.get? t.text).getD p.wildcard

def size (p : Palette) : Nat := p.colors.size

def isEmpty (p : Palette) : Bool := p.colors.isEmpty

def parseColor (name value : String) : Except Failure Color :=
  match Color.ofHex? value with
  | some color => .ok color
  | none => .error (.color name value)

/-- The built-in colors with some replaced or added, in ascending order of the type names; the
first notation that cannot be read is the failure. -/
def ofOverrides (overrides : Table String String) : Except Failure Palette :=
  overrides.entries.foldlM
    (fun p entry => return p.insert entry.1 (← parseColor entry.1 entry.2)) builtin

end Palette

end NodeVariables
