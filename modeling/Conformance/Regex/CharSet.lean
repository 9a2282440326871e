import Conformance.Regex.CharTable
import Conformance.Regex.Tables.CaseFold

/-! Sets of code points. A set is kept as the increasing list of the points at which membership
changes, so equal sets are equal values and set operations are merges of two such lists. -/
namespace Conformance.Regex

structure CharSet where
  /-- The points at which membership changes, starting from outside. -/
  points : Array Nat
  deriving DecidableEq, Hashable, Inhabited, Repr

namespace CharSet

def mem (s : CharSet) (n : Nat) : Bool := CharTable.member s.points n

def ofPoints (points : List Nat) : CharSet := ⟨points.toArray⟩

/-- The set whose membership changes after the gaps listed in a text. -/
def ofGaps (gaps : String) : CharSet := ofPoints (CharTable.points gaps)

/-- The code points in runs with a chosen label. -/
def ofRuns (runs : Array (Nat × String)) (chosen : String → Bool) : CharSet :=
  ofPoints (CharTable.changes chosen false runs.toList)

/-- The greatest code point. -/
def last : Nat := 0x10FFFF

def empty : CharSet := ⟨#[]⟩

def isEmpty (s : CharSet) : Bool := s.points.isEmpty

/-- All code points from `low` to `high`; a range that reaches the last one stays open. -/
def range (low high : Nat) : CharSet :=
  if high < low then empty
  else if last ≤ high then ⟨#[low]⟩
  else ⟨#[low, high + 1]⟩

/-- Merge two lists of change points under an operation on memberships; `inA` and `inB` tell
where the merge stands. -/
def merge (op : Bool → Bool → Bool) (inA inB : Bool) : (as bs : List Nat) → List Nat
  | [], bs => if op inA true = op inA false then [] else bs
  | as, [] => if op true inB = op false inB then [] else as
  | a :: as, b :: bs =>
    let crossA := a ≤ b
    let crossB := b ≤ a
    let nextA := if crossA then !inA else inA
    let nextB := if crossB then !inB else inB
    let rest := merge op nextA nextB (if a ≤ b then as else a :: as) (if b ≤ a then bs else b :: bs)
    if op nextA nextB = op inA inB then rest else min a b :: rest
termination_by as bs => as.length + bs.length
decreasing_by
  by_cases h : a ≤ b <;> by_cases k : b ≤ a <;> simp [h, k] <;> omega

/-- Join two sets by an operation on memberships that maps two absences to absence. -/
def combine (op : Bool → Bool → Bool) (a b : CharSet) : CharSet :=
  ofPoints (merge op false false a.points.toList b.points.toList)

def union : CharSet → CharSet → CharSet := combine (· || ·)

def inter : CharSet → CharSet → CharSet := combine (· && ·)

def diff : CharSet → CharSet → CharSet := combine fun inA inB => inA && !inB

def symmDiff : CharSet → CharSet → CharSet := combine (· != ·)

def any : CharSet := range 0 last

def compl (s : CharSet) : CharSet := symmDiff any s

def single (c : Char) : CharSet := range c.toNat c.toNat

def unionAll (sets : List CharSet) : CharSet := sets.foldr union empty

def ofRanges (ranges : List (Char × Char)) : CharSet :=
  unionAll (ranges.map fun (low, high) => range low.toNat high.toNat)

/-- Drop points that stand twice: a run that ends where the next begins goes on. -/
def fuse : List Nat → List Nat
  | a :: b :: rest => if a = b then fuse rest else a :: fuse (b :: rest)
  | short => short

/-- The set of the listed code points, which increase. -/
def ofIncreasing (members : List Nat) : CharSet :=
  ofPoints (fuse (members.flatMap fun n => [n, n + 1]))

/-- First and last members of the maximal runs. -/
def runs (s : CharSet) : List (Nat × Nat) :=
  pairs s.points.toList
where
  pairs : List Nat → List (Nat × Nat)
    | low :: high :: rest => (low, high - 1) :: pairs rest
    | [low] => [(low, last)]
    | [] => []

/-- The only member, if there is just one. -/
def only? (s : CharSet) : Option Char :=
  match s.runs with
  | [(low, high)] => if low = high then some (Char.ofNat low) else none
  | _ => none

/-- Whether all members are ASCII characters. -/
def isAscii (s : CharSet) : Bool := s.runs.all fun (_, high) => high < 128

/-- With every code point also those of the same simple case folding. -/
def folded (s : CharSet) : CharSet :=
  let found := (Tables.foldOrbits.filter fun orbit => orbit.any s.mem).flatten
  s.union (ofIncreasing (found.mergeSort (· ≤ ·)))

/-- With every ASCII letter also its other case. -/
def foldedAscii (s : CharSet) : CharSet :=
  let shifted (low high : Nat) (shift : Nat → Nat) : CharSet :=
    unionAll ((s.inter (range low high)).runs.map fun (a, b) => range (shift a) (shift b))
  unionAll [s, shifted 65 90 (· + 32), shifted 97 122 (· - 32)]

def asciiWord : CharSet := ofRanges [('0', '9'), ('A', 'Z'), ('_', '_'), ('a', 'z')]

def asciiDigit : CharSet := range 48 57

def asciiBlank : CharSet := union (range 9 13) (range 32 32)

/-- The sets with a bracketed name of their own. -/
def named? (name : String) : Option CharSet :=
  match name with
  | "alnum" => some (ofRanges [('0', '9'), ('A', 'Z'), ('a', 'z')])
  | "alpha" => some (ofRanges [('A', 'Z'), ('a', 'z')])
  | "ascii" => some (range 0 127)
  | "blank" => some (ofRanges [('\t', '\t'), (' ', ' ')])
  | "cntrl" => some (union (range 0 31) (range 127 127))
  | "digit" => some asciiDigit
  | "graph" => some (range 33 126)
  | "lower" => some (range 97 122)
  | "print" => some (range 32 126)
  | "punct" => some (ofRanges [('!', '/'), (':', '@'), ('[', '\x60'), ('\x7b', '~')])
  | "space" => some asciiBlank
  | "upper" => some (range 65 90)
  | "word" => some asciiWord
  | "xdigit" => some (ofRanges [('0', '9'), ('A', 'F'), ('a', 'f')])
  | _ => none

end CharSet

end Conformance.Regex
