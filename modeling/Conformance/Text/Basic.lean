import Conformance.Text.Chars

/-! The character-list operations on strings. -/
namespace Conformance.Text

def onChars (f : List Char → List Char) (s : String) : String := String.ofList (f s.toList)

def trim : String → String := onChars Chars.trim

def trimStart : String → String := onChars Chars.trimStart

def isBlank (s : String) : Bool := (Chars.trim s.toList).isEmpty

def lines (s : String) : List String := (Chars.lines s.toList).map String.ofList

def splitOn (sep : Char) (s : String) : List String :=
  (Chars.splitOn sep s.toList).map String.ofList

def startsWith (s lead : String) : Bool := Chars.startsWith s.toList lead.toList

def endsWith (s tail : String) : Bool := Chars.endsWith s.toList tail.toList

def contains (s needle : String) : Bool := Chars.contains s.toList needle.toList

def strip? (lead s : String) : Option String :=
  (Chars.strip? lead.toList s.toList).map String.ofList

/-- The text before a final copy of `tail`. -/
def stripEnd? (tail s : String) : Option String :=
  (Chars.strip? tail.toList.reverse s.toList.reverse).map fun cs => String.ofList cs.reverse

def cut? (sep s : String) : Option (String × String) :=
  (Chars.cut? sep.toList s.toList).map fun (a, b) => (String.ofList a, String.ofList b)

def cutLast? (sep : Char) (s : String) : Option (String × String) :=
  (Chars.cutLast? sep s.toList).map fun (a, b) => (String.ofList a, String.ofList b)

def offsetOf? (sep : Char) (s : String) : Option Nat := Chars.offsetOf? sep s.toList

/-- The text before a byte offset. -/
def upTo? (offset : Nat) (s : String) : Option String :=
  (Chars.splitAtByte? offset s.toList).map fun parts => String.ofList parts.1

def replaceAll (needle value s : String) : String :=
  String.ofList (Chars.replaceAll needle.toList value.toList s.toList)

/-- The parts between commas, trimmed, without the empty ones. -/
def commaParts (s : String) : List String :=
  ((splitOn ',' s).map trim).filter (· ≠ "")

def join (sep : String) (parts : List String) : String := String.intercalate sep parts

/-- The text without any copies of a character at its start. -/
def dropLeading (c : Char) : String → String := onChars (List.dropWhile (· == c))

/-- The text without any copies of a character at its end. -/
def dropTrailing (c : Char) : String → String :=
  onChars fun s => (s.reverse.dropWhile (· == c)).reverse

/-- One-based number of the line that a character position lies on. -/
def lineAt (s : String) (position : Nat) : Nat :=
  ((s.toList.take position).filter (· == '\n')).length + 1

/-- The character position of a byte offset; nothing inside a character. Offsets past the end
stand for the end. -/
def positionOfByte? (s : String) (offset : Nat) : Option Nat :=
  go s.toList offset 0
where
  go : List Char → Nat → Nat → Option Nat
    | _, 0, position => some position
    | [], _ + 1, position => some position
    | c :: cs, offset + 1, position =>
      if c.utf8Size ≤ offset + 1 then go cs (offset + 1 - c.utf8Size) (position + 1) else none

end Conformance.Text
