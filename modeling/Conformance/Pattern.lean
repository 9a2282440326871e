import Conformance.Code
import Conformance.Regex.Search
import Conformance.Text.Basic

/-! Patterns given by users: screened for length and for shapes that explode under backtracking,
then compiled. -/
namespace Conformance

/-- Bounds on patterns. The time above which a match counts as slow changes no answer. -/
structure PatternLimits where
  maxLength : Nat := 500
  slowMatchMs : Nat := 100
  deriving DecidableEq, Repr, Inhabited

namespace Pattern

inductive Rejection where
  | tooLong (length most : Nat)
  | catastrophic (shape : String)
  | invalid
  deriving DecidableEq, Repr

namespace Rejection

def code : Rejection → String
  | catastrophic _ => Code.unsafePattern
  | tooLong _ _ | invalid => Code.malformedConstraint

def message : Rejection → String
  | tooLong length most => s!"pattern is {length} characters long (limit {most})"
  | catastrophic shape => "pattern contains catastrophic-backtracking shape '" ++ shape ++ "'"
  | invalid => "invalid regex:"

end Rejection

/-- A quantified group whose body itself ends in a quantifier. -/
def nestedQuantifier : Option Regex :=
  Regex.compile? "\\((?:[^()\\\\]|\\\\.)*[+*]\\??\\)\\s*[+*\x7b]"

/-- A quantified group of two branches. -/
def quantifiedAlternation : Option Regex :=
  Regex.compile? "\\(([^()|]+)\\|([^()|]+)\\)[+*]"

/-- Whether one of two branches starts with the other. -/
def oneLeadsOther (a b : String) : Bool := Text.startsWith a b || Text.startsWith b a

/-- The first quantified group whose body ends in a quantifier. -/
def nestedShape? (pattern : Array Char) : Option String :=
  (nestedQuantifier.bind fun re => re.findAt? pattern 0).bind fun m =>
    (m.group? 0).map (Regex.slice pattern)

/-- The first quantified group of two branches of which one starts with the other. -/
def branchShape? (pattern : Array Char) : Option String :=
  let found := match quantifiedAlternation with
    | some re => re.allMatches pattern
    | none => []
  found.findSome? fun m =>
    match m.group? 0, m.group? 1, m.group? 2 with
    | some whole, some a, some b =>
      if oneLeadsOther (Regex.slice pattern a) (Regex.slice pattern b) then
        some (Regex.slice pattern whole)
      else none
    | _, _, _ => none

/-- Refuse patterns that are too long or of a catastrophic shape. -/
def screen (limits : PatternLimits) (pattern : String) : Except Rejection Unit :=
  if pattern.utf8ByteSize > limits.maxLength then
    .error (.tooLong pattern.utf8ByteSize limits.maxLength)
  else
    let chars := pattern.toList.toArray
    match (nestedShape? chars).or (branchShape? chars) with
    | some shape => .error (.catastrophic shape)
    | none => .ok ()

/-- Screen and compile. -/
def compile (limits : PatternLimits) (pattern : String) : Except Rejection Regex :=
  match screen limits pattern with
  | .error e => .error e
  | .ok () =>
    match Regex.compile? pattern with
    | some re => .ok re
    | none => .error .invalid

def isMatch (limits : PatternLimits) (pattern text : String) : Except Rejection Bool :=
  (compile limits pattern).map fun re => re.isMatch text

/-- The line of the first match. -/
def findLine (limits : PatternLimits) (pattern text : String) :
    Except Rejection (Option Nat) :=
  (compile limits pattern).map fun re =>
    (re.find? text).bind fun m => (m.slot? 0).map (Text.lineAt text)

/-- The first group, or else the whole, of every match. -/
def captures (limits : PatternLimits) (pattern text : String) :
    Except Rejection (List String) :=
  (compile limits pattern).map fun re =>
    let chars := text.toList.toArray
    (re.allMatches chars).filterMap fun m =>
      ((m.group? 1).or (m.group? 0)).map (Regex.slice chars)

end Pattern

end Conformance
