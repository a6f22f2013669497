/-!
# Styled text

Text on a terminal may be coloured, bold or dim.  A style is switched on by
a sequence before the text and off by the reset after it.  A text may hold
a reset of its own; the style is switched on again behind each of them.

Styles are written only where they are asked for.
-/

set_option autoImplicit false

namespace SqlTree.Cli

/-- Colours. -/
inductive Color where
  | red
  | green
  | yellow
  | cyan
  | white

/-- The number of a colour. -/
def Color.code : Color → String
  | .red => "31"
  | .green => "32"
  | .yellow => "33"
  | .cyan => "36"
  | .white => "37"

/-- Strengths other than the plain one. -/
inductive Weight where
  | bold
  | dim

/-- The number of a strength. -/
def Weight.code : Weight → String
  | .bold => "1"
  | .dim => "2"

/-- How a text is shown. -/
structure Style where
  weight : Option Weight
  color : Option Color

namespace Style

/-- A colour. -/
def of (color : Color) : Style :=
  ⟨none, some color⟩

/-- A colour, bold. -/
def bold (color : Color) : Style :=
  ⟨some .bold, some color⟩

/-- Dim. -/
def dim : Style :=
  ⟨some .dim, none⟩

/-- What switches a style on. -/
def start (style : Style) : String :=
  let codes := (style.weight.map Weight.code).toList ++ (style.color.map Color.code).toList
  "\x1b[" ++ String.intercalate ";" codes ++ "m"

/-- What switches every style off. -/
def reset : String :=
  "\x1b[0m"

end Style

/-- Whether styles are written. -/
structure Painter where
  enabled : Bool

namespace Painter

/-- The painter that the environment asks for.  Colours are forced, or
refused, or left to the terminal. -/
def ofEnvironment (force refuse wish : Option String) (terminal : Bool) : Painter :=
  if force.any (· != "0") then ⟨true⟩
  else if refuse.isSome then ⟨false⟩
  else ⟨wish.all (· != "0") && terminal⟩

/-- A text in a style. -/
def paint (p : Painter) (style : Style) (text : String) : String :=
  if p.enabled then
    style.start ++ text.replace Style.reset (Style.reset ++ style.start) ++ Style.reset
  else
    text

/-- A text in a style, with blanks up to a width. -/
def paintPadded (p : Painter) (style : Style) (width : Nat) (text : String) : String :=
  p.paint style (text.pushn ' ' (width - text.length))

end Painter

end SqlTree.Cli
