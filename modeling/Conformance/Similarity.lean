import Conformance.Text.Basic

/-! Edit distance and the closest of several names. -/
namespace Conformance.Similarity

/-- The cells of one row of the distance table after its first: `above` is the row before and
`left` the cell just computed. -/
def rowCells (a : Char) : List Char → (above : List Nat) → (left : Nat) → List Nat
  | b :: bs, diagonal :: up :: above, left =>
    let cell := min (min (diagonal + if a = b then 0 else 1) (up + 1)) (left + 1)
    cell :: rowCells a bs (up :: above) cell
  | _, _, _ => []

/-- The next row of the distance table. -/
def nextRow (target : List Char) (above : List Nat) (a : Char) : List Nat :=
  let first := above.headD 0 + 1
  first :: rowCells a target above first

/-- The least number of insertions, deletions and substitutions between two texts. -/
def editDistance (source target : List Char) : Nat :=
  (source.foldl (nextRow target) (List.range (target.length + 1))).getLastD 0

/-- How far off a candidate may be: a third of the bytes of the name, at least two. -/
def tolerance (name : String) : Nat := max 2 (name.utf8ByteSize / 3)

/-- The nearer of two candidates with their distances, the smaller text on a tie. -/
def nearer (a b : Nat × String) : Nat × String :=
  if b.1 < a.1 ∨ (b.1 = a.1 ∧ b.2 < a.2) then b else a

/-- The nearest candidate within tolerance. -/
def closest? (name : String) (candidates : List String) : Option String :=
  let scored := (candidates.map fun c => (editDistance name.toList c.toList, c)).filter
    fun scored => scored.1 ≤ tolerance name
  match scored with
  | [] => none
  | first :: rest => some (rest.foldl nearer first).2

end Conformance.Similarity
