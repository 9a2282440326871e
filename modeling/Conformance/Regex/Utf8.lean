import Conformance.Regex.CharSet

/-! Sets of code points as sequences of byte ranges: each sequence stands for the encoded texts
that take one byte out of each of its ranges. -/
namespace Conformance.Regex.Utf8

/-- The bytes that encode a code point. -/
def bytes (n : Nat) : List Nat :=
  if n < 0x80 then [n]
  else if n < 0x800 then [0xC0 + n / 0x40, 0x80 + n % 0x40]
  else if n < 0x10000 then [0xE0 + n / 0x1000, 0x80 + n / 0x40 % 0x40, 0x80 + n % 0x40]
  else [0xF0 + n / 0x40000, 0x80 + n / 0x1000 % 0x40, 0x80 + n / 0x40 % 0x40, 0x80 + n % 0x40]

/-- Cut a range after a code point inside it. -/
def cutAfter (n : Nat) (range : Nat × Nat) : List (Nat × Nat) :=
  if range.1 ≤ n ∧ n < range.2 then [(range.1, n), (n + 1, range.2)] else [range]

/-- Cut a range that spans several blocks of a size so that all but its ends are whole blocks. -/
def align (size : Nat) (range : Nat × Nat) : List (Nat × Nat) :=
  let (low, high) := range
  if low / size = high / size then [range]
  else
    let first := (low + size - 1) / size * size
    let stop := (high + 1) / size * size
    let head := if low < first then [(low, first - 1)] else []
    let middle := if first < stop then [(first, stop - 1)] else []
    let tail := if stop ≤ high then [(stop, high)] else []
    head ++ middle ++ tail

/-- Pieces of a range whose encodings are those between the encodings of the two ends, byte by
byte; a range inside one block of sixty-four is such a piece. Surrogates have no encoding. -/
def pieces (range : Nat × Nat) : List (Nat × Nat) :=
  let lengths :=
    if range.1 / 0x40 = range.2 / 0x40 then [range]
    else [0x7F, 0x7FF, 0xD7FF, 0xDFFF, 0xFFFF].foldl (fun ranges n =>
      ranges.flatMap (cutAfter n)) [range]
  let encoded := lengths.filter fun (low, _) => !(0xD800 ≤ low && low ≤ 0xDFFF)
  encoded.flatMap fun piece =>
    if piece.2 < 0x80 || piece.1 / 0x40 = piece.2 / 0x40 then [piece]
    else ((align 0x40 piece).flatMap (align 0x1000)).flatMap (align 0x40000)

/-- The sequences of byte ranges of a set, in increasing order. -/
def sequences (s : CharSet) : List (List (Nat × Nat)) :=
  (s.runs.flatMap pieces).map fun (low, high) => (bytes low).zip (bytes high)

end Conformance.Regex.Utf8
