import Conformance.Regex.Node
import Conformance.Regex.Utf8
import Std.Data.HashMap.Basic

/-! The space that an expression takes as an automaton over bytes. A match is found by an automaton
that reads forward and its start by one that reads backward, and expressions are refused when
either grows beyond a limit. A state takes thirty-two bytes, and more for each of its ways out:
eight for one that reads a byte of a range, four for one of several alternatives. -/
namespace Conformance.Regex

inductive Direction where
  | forward
  | backward
  deriving DecidableEq

namespace Footprint

def state : Nat := 32

def transition : Nat := 8

def alternative : Nat := 4

/-- The states of a set, the transitions of each paired with its number; nodes that agree from
there on are one state. -/
abbrev States := Std.HashMap (List ((Nat × Nat) × Nat)) Nat

/-- The state that reads any of the sequences; none is left to read in state zero. -/
def addState : (longest : Nat) → List (List (Nat × Nat)) → StateM States Nat
  | 0, _ => return 0
  | longest + 1, sequences => do
    let groups := (sequences.filter (· ≠ [])).splitBy fun a b => a.head? == b.head?
    if groups.isEmpty then return 0
    let transitions ← groups.mapM fun group => do
      let next ← addState longest (group.map List.tail)
      return ((group.head?.bind List.head?).getD (0, 0), next)
    let known ← get
    match known[transitions]? with
    | some number => return number
    | none =>
      let number := known.size + 1
      set (known.insert transitions number)
      return number

/-- Read forward, sequences share whatever they begin or end with. -/
def setForward (sequences : List (List (Nat × Nat))) : Nat :=
  let (_, states) := (addState 4 sequences).run ∅
  states.fold (fun sum transitions _ => sum + state + transition * transitions.length) state

/-- How many different beginnings the sequences have. -/
def beginnings : (longest : Nat) → List (List (Nat × Nat)) → Nat
  | 0, _ => 0
  | longest + 1, sequences =>
    let groups := (sequences.filter (· ≠ [])).splitBy fun a b => a.head? == b.head?
    (groups.map fun group => 1 + beginnings longest (group.map List.tail)).sum

/-- Read backward, sequences are alternatives that share only what they end with. -/
def setBackward (sequences : List (List (Nat × Nat))) : Nat :=
  2 * state + state * beginnings 4 sequences + alternative * sequences.length

def set (direction : Direction) (s : CharSet) : Nat :=
  if s.isAscii then 2 * state + transition * s.runs.length
  else match direction with
    | .forward => setForward (Utf8.sequences s)
    | .backward => setBackward (Utf8.sequences s)

/-- Put a word into the last chunk; the empty word closes it, which it does once only before any
other word. -/
def chunkWord (chunks : List (List (List Nat))) (word : List Nat) : List (List (List Nat)) :=
  match word, chunks with
  | [], [[], []] => chunks
  | [], _ => [] :: chunks
  | _, chunk :: before => (word :: chunk) :: before
  | _, [] => [[word]]

/-- A choice between words as a tree of states by their bytes. A word that ends where another goes
on divides the branches of that state, since words keep their order of preference. -/
def tree : (longest : Nat) → List (List Nat) → Nat
  | 0, _ => 0
  | longest + 1, words =>
    let chunks := words.foldl chunkWord [[]]
    let filled := chunks.filter (· ≠ [])
    let branchSizes := filled.map fun chunk =>
      let firsts := (chunk.filterMap List.head?).eraseDups
      let below := firsts.map fun byte =>
        let rests := (chunk.filter fun word => word.head? == some byte).map List.tail
        if rests.all List.isEmpty then 0 else tree longest rests
      (if firsts.length = 1 then state else state + transition * firsts.length) + below.sum
    state + alternative * (filled.length + (chunks.length - 1)) + branchSizes.sum

/-- The texts of a choice between texts. -/
def texts? : Node → Option (List (List Char))
  | .text chars => some [chars]
  | .alt a b => do return (← texts? a) ++ (← texts? b)
  | _ => none

/-- A choice between texts. -/
def textChoice (direction : Direction) (texts : List (List Char)) : Nat :=
  let words := texts.map fun chars =>
    let bytes := chars.flatMap fun c => Utf8.bytes c.toNat
    match direction with
    | .forward => bytes
    | .backward => bytes.reverse
  state + tree ((words.map List.length).foldl max 0 + 1) words

/-- The least number of characters of a match, if there can be one. -/
def leastLength? : Node → Option Nat
  | .empty => some 0
  | .text chars => some chars.length
  | .set chars => if chars.isEmpty then none else some 1
  | .look _ => some 0
  | .group _ body => leastLength? body
  | .repeated least _ _ body => (leastLength? body).map (least * ·)
  | .cat a b => do return (← leastLength? a) + (← leastLength? b)
  | .alt a b => do return min (← leastLength? a) (← leastLength? b)

/-- A repetition of a body of a given size; `consumes` tells that each pass takes a character. -/
def repetition (least : Nat) (most : Option Nat) (consumes : Bool) (body : Nat) : Nat :=
  let copies (count : Nat) : Nat := if count = 0 then state else count * body
  match most with
  | none =>
    if 0 < least then least * body + state + 2 * alternative
    else if consumes then state + 2 * alternative + body
    else 3 * state + 4 * alternative + body
  | some most =>
    if least = most then copies least
    else if least = 0 ∧ most = 1 then 2 * state + 2 * alternative + body
    else copies least + state + (most - least) * (state + 2 * alternative + body)

/-- What a node takes by itself, and what it takes as a branch of a choice or its last branches. -/
def sizes (direction : Direction) : Node → Nat × Nat
  | .empty => alone state
  | .text chars => alone (state * (chars.map fun c => c.utf8Size).sum)
  | .set chars => alone (set direction chars)
  | .look _ => alone state
  | .group _ body =>
    let marks := match direction with
      | .forward => 2 * state
      | .backward => 0
    alone (marks + (sizes direction body).1)
  | .repeated least most _ body =>
    let consumes := (leastLength? body).any (0 < ·)
    alone (repetition least most consumes (sizes direction body).1)
  | .cat a b => alone ((sizes direction a).1 + (sizes direction b).1)
  | .alt a b =>
    let branches := alternative + (sizes direction a).1 + (sizes direction b).2
    match texts? (.alt a b) with
    | some texts => (textChoice direction texts, branches)
    | none => (2 * state + branches, branches)
where
  alone (size : Nat) : Nat × Nat := (size, alternative + size)

/-- Whether every match begins where a condition holds. -/
def beginsAt (condition : Look) : Node → Bool
  | .look found => found = condition
  | .group _ body => beginsAt condition body
  | .repeated least _ _ body => 0 < least && beginsAt condition body
  | .cat a b => beginsAt condition a || (a.onlyEmpty && beginsAt condition b)
  | .alt a b => beginsAt condition a && beginsAt condition b
  | _ => false

/-- Whether every match ends where a condition holds. -/
def endsAt (condition : Look) : Node → Bool
  | .look found => found = condition
  | .group _ body => endsAt condition body
  | .repeated least _ _ body => 0 < least && endsAt condition body
  | .cat a b => endsAt condition b || (b.onlyEmpty && endsAt condition a)
  | .alt a b => endsAt condition a && endsAt condition b
  | _ => false

/-- The whole automaton: what passes over the bytes before a match, the expression with the marks
of its bounds, and the state that accepts. -/
def size (direction : Direction) (node : Node) : Nat :=
  let anchored := match direction with
    | .forward => beginsAt .textStart node
    | .backward => endsAt .textEnd node
  let lead := if anchored then state else repetition 0 none true (2 * state + transition)
  let marks := match direction with
    | .forward => 2 * state
    | .backward => 0
  lead + marks + (sizes direction node).1 + state

/-- Automata larger than this are refused. -/
def limit : Nat := 10 * Nat.pow 2 20

def isAllowed (node : Node) : Bool :=
  size .forward node ≤ limit && size .backward node ≤ limit

end Footprint

end Conformance.Regex
