import Conformance.Text.Basic

/-! Styled text for terminals. -/
namespace Conformance

inductive Colour where
  | red
  | green
  | yellow
  | magenta
  | cyan
  | white
  deriving DecidableEq, Repr, Inhabited

/-- The bright variant of a colour as a terminal attribute. -/
def Colour.attribute : Colour → String
  | .red => "91"
  | .green => "92"
  | .yellow => "93"
  | .magenta => "95"
  | .cyan => "96"
  | .white => "97"

structure Style where
  bold : Bool := false
  dimmed : Bool := false
  colour : Option Colour := none
  deriving DecidableEq, Repr, Inhabited

namespace Style

def escapeMark : String := "\x1b["

def reset : String := "\x1b[0m"

/-- The sequence that switches a style on: bold or dimmed first, then the colour. -/
def start (s : Style) : String :=
  let attributes := (if s.bold then ["1"] else []) ++ (if s.dimmed then ["2"] else []) ++
    (s.colour.map Colour.attribute).toList
  escapeMark ++ Text.join ";" attributes ++ "m"

/-- A text in a style. A reset inside the text is followed by the style again. -/
def paint (s : Style) (coloured : Bool) (text : String) : String :=
  if coloured then s.start ++ Text.replaceAll reset (reset ++ s.start) text ++ reset else text

def boldIn (c : Colour) : Style := { bold := true, colour := some c }

def plainIn (c : Colour) : Style := { colour := some c }

end Style

end Conformance
