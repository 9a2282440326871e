import Conformance.Text.Chars

/-! Compact tables over code points: sets given by the points at which membership changes, and
labelled runs. -/
namespace Conformance.Regex.CharTable

/-- Words between blanks and line ends. -/
def words (text : String) : List (List Char) :=
  (Chars.splitOn ' ' (text.toList.map fun c => if c = '\n' then ' ' else c)).filter (· ≠ [])

/-- Running sums of the listed gaps. -/
def points (gaps : String) : List Nat :=
  ((words gaps).foldl (fun (sum, out) w =>
    let next := sum + (Chars.digits? w).getD 0
    (next, next :: out)) ((0 : Nat), ([] : List Nat))).2.reverse

/-- Labelled runs: each word is a length followed by a label; the result pairs the first code
point of a run with its label. -/
def runs (lengths : String) : Array (Nat × String) :=
  ((words lengths).foldl (fun (start, out) w =>
    let length := (Chars.digits? (w.takeWhile Chars.isDigit)).getD 0
    (start + length, out.push (start, String.ofList (w.dropWhile Chars.isDigit))))
    ((0 : Nat), (#[] : Array (Nat × String)))).2

/-- The points at which runs with a chosen label begin and end; `inside` tells whether the run
before was chosen. -/
def changes (chosen : String → Bool) : (inside : Bool) → List (Nat × String) → List Nat
  | _, [] => []
  | inside, (start, label) :: rest =>
    if chosen label = inside then changes chosen inside rest
    else start :: changes chosen (!inside) rest

/-- How many of the increasing values `value 0, …, value (hi - 1)` are at most `n`, by halving. -/
def countUpTo (value : Nat → Nat) (n : Nat) : (steps lo hi : Nat) → Nat
  | 0, lo, _ => lo
  | steps + 1, lo, hi =>
    if hi ≤ lo then lo
    else
      let middle := (lo + hi) / 2
      if value middle ≤ n then countUpTo value n steps (middle + 1) hi
      else countUpTo value n steps lo middle

/-- Membership in the set whose membership changes at the given points. -/
def member (table : Array Nat) (n : Nat) : Bool :=
  countUpTo (fun i => table.getD i 0) n 32 0 table.size % 2 == 1

end Conformance.Regex.CharTable
