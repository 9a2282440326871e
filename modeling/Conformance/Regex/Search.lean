import Conformance.Regex.Program
import Conformance.Regex.Reader.Expression
import Std.Data.HashSet.Basic

/-! Leftmost matches in order of preference. The search walks the instructions depth first and
visits no pair of instruction and position twice, so it takes at most two steps for each pair. -/
namespace Conformance

/-- A compiled regular expression. -/
structure Regex where
  program : Regex.Program

namespace Regex

def compile? (pattern : String) : Option Regex :=
  (Node.read? pattern).map fun node => ⟨Program.ofNode node⟩

/-- A match: slots with the positions noted on the way, the latest first. -/
structure Match where
  slots : List (Nat × Nat)

def Match.slot? (m : Match) (slot : Nat) : Option Nat :=
  (m.slots.find? (·.1 == slot)).map (·.2)

/-- The start and end of a group; group zero is the whole match. -/
def Match.group? (m : Match) (index : Nat) : Option (Nat × Nat) :=
  match m.slot? (2 * index), m.slot? (2 * index + 1) with
  | some start, some stop => some (start, stop)
  | _, _ => none

def isWord (ascii : Bool) (text : Array Char) (position : Nat) : Bool :=
  match text[position]? with
  | some c => if ascii then CharSet.asciiWord.mem c.toNat else CharSet.word.mem c.toNat
  | none => false

/-- Whether a condition holds at a position. -/
def Look.holds (condition : Look) (text : Array Char) (position : Nat) : Bool :=
  let before := if position = 0 then none else text[position - 1]?
  let after := text[position]?
  let wordBefore (ascii : Bool) := position != 0 && isWord ascii text (position - 1)
  let wordAfter (ascii : Bool) := isWord ascii text position
  match condition with
  | .textStart => position == 0
  | .textEnd => position == text.size
  | .lineStart => position == 0 || before == some '\n'
  | .lineEnd => position == text.size || after == some '\n'
  | .anyLineStart =>
    position == 0 || before == some '\n' || (before == some '\r' && after != some '\n')
  | .anyLineEnd =>
    position == text.size || after == some '\r' || (after == some '\n' && before != some '\r')
  | .boundary ascii => wordBefore ascii != wordAfter ascii
  | .notBoundary ascii => wordBefore ascii == wordAfter ascii
  | .wordStart ascii => !wordBefore ascii && wordAfter ascii
  | .wordEnd ascii => wordBefore ascii && !wordAfter ascii
  | .wordStartHalf ascii => !wordBefore ascii
  | .wordEndHalf ascii => !wordAfter ascii

/-- Where the walk stands: an instruction, a position, and the positions noted so far. -/
structure Thread where
  state : Nat
  position : Nat
  slots : List (Nat × Nat)

/-- Walk the waiting threads, the preferred one first. -/
def walk (code : Array Instruction) (text : Array Char) :
    (fuel : Nat) → List Thread → Std.HashSet Nat → Option Match × Std.HashSet Nat
  | 0, _, visited => (none, visited)
  | _ + 1, [], visited => (none, visited)
  | fuel + 1, t :: waiting, visited =>
    let key := t.state * (text.size + 1) + t.position
    if visited.contains key then walk code text fuel waiting visited
    else
      let visited := visited.insert key
      match code[t.state]? with
      | none => walk code text fuel waiting visited
      | some .accept => (some ⟨t.slots⟩, visited)
      | some (.consume chars next) =>
        match text[t.position]? with
        | some c =>
          if chars.mem c.toNat then
            walk code text fuel (⟨next, t.position + 1, t.slots⟩ :: waiting) visited
          else walk code text fuel waiting visited
        | none => walk code text fuel waiting visited
      | some (.check condition next) =>
        if condition.holds text t.position then
          walk code text fuel (⟨next, t.position, t.slots⟩ :: waiting) visited
        else walk code text fuel waiting visited
      | some (.mark slot next) =>
        walk code text fuel (⟨next, t.position, (slot, t.position) :: t.slots⟩ :: waiting) visited
      | some (.split preferred other) =>
        walk code text fuel
          (⟨preferred, t.position, t.slots⟩ :: ⟨other, t.position, t.slots⟩ :: waiting) visited

/-- Try the positions from `position` on; what failed from an earlier one is not tried again. -/
def searchFrom (re : Regex) (text : Array Char) :
    (count position : Nat) → Std.HashSet Nat → Option Match
  | 0, _, _ => none
  | count + 1, position, visited =>
    let fuel := 2 * re.program.code.size * (text.size + 1) + 2
    match walk re.program.code text fuel [⟨re.program.start, position, []⟩] visited with
    | (some m, _) => some m
    | (none, visited) => searchFrom re text count (position + 1) visited

/-- The leftmost match that starts at `position` or later. -/
def findAt? (re : Regex) (text : Array Char) (position : Nat) : Option Match :=
  searchFrom re text (text.size + 1 - position) position ∅

def find? (re : Regex) (text : String) : Option Match := re.findAt? text.toList.toArray 0

def isMatch (re : Regex) (text : String) : Bool := (re.find? text).isSome

/-- Successive matches; an empty one may not touch the end of the match before it. -/
def matchesFrom (re : Regex) (text : Array Char) :
    (fuel position : Nat) → (lastEnd : Option Nat) → List Match
  | 0, _, _ => []
  | fuel + 1, position, lastEnd =>
    match re.findAt? text position with
    | none => []
    | some m =>
      match m.group? 0 with
      | none => []
      | some (start, stop) =>
        if start = stop ∧ lastEnd = some stop then
          match re.findAt? text (position + 1) with
          | none => []
          | some m =>
            match m.group? 0 with
            | none => []
            | some (_, stop) => m :: matchesFrom re text fuel stop (some stop)
        else m :: matchesFrom re text fuel stop (some stop)

/-- All successive matches in a text. -/
def allMatches (re : Regex) (text : Array Char) : List Match :=
  matchesFrom re text (text.size + 2) 0 none

/-- The part of a text between two positions. -/
def slice (text : Array Char) (span : Nat × Nat) : String :=
  String.ofList (text.extract span.1 span.2).toList

end Regex

end Conformance
