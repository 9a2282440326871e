import Conformance.Text.Basic

/-! Lines of code. A line counts unless it is blank, a line comment, or inside a block comment;
text after the end of a block comment counts. -/
namespace Conformance.LineCount

def blockOpen : List Char := ['/', '*']

def blockClose : List Char := ['*', '/']

/-- What follows the end of a block comment on this line. -/
def afterBlock? (s : List Char) : Option (List Char) := (Chars.cut? blockClose s).map (·.2)

/-- Marks of comments that run to the end of the line. -/
def isLineComment (s : List Char) : Bool :=
  Chars.startsWith s ['/', '/'] || Chars.startsWith s ['#'] || Chars.startsWith s ['-', '-']

/-- Whether a line counts as code, and whether a block comment is open after it. -/
def step (inBlock : Bool) (line : List Char) : Bool × Bool :=
  let s := Chars.trim line
  if inBlock then
    match afterBlock? s with
    | some rest => (!(Chars.trim rest).isEmpty, false)
    | none => (false, true)
  else if s.isEmpty || isLineComment s then (false, false)
  else
    match Chars.strip? blockOpen s with
    | some body =>
      match afterBlock? body with
      | some rest => (!(Chars.trim rest).isEmpty, false)
      | none => (false, true)
    | none => (true, false)

/-- Which of successive lines count as code. -/
def codeFlags : Bool → List (List Char) → List Bool
  | _, [] => []
  | inBlock, line :: rest => (step inBlock line).1 :: codeFlags (step inBlock line).2 rest

/-- All lines of a text and those that count as code. -/
def count (content : String) : Nat × Nat :=
  let lines := Chars.lines content.toList
  (lines.length, ((codeFlags false lines).filter id).length)

end Conformance.LineCount
