/-! Character-list scanning: blanks, trimming, splitting and replacing. Everything here is
structural recursion or a fold, so each function computes inside the logic. -/
namespace Conformance.Chars

/-- The White_Space property. -/
def isBlank (c : Char) : Bool :=
  let n := c.toNat
  (9 ≤ n && n ≤ 13) || n == 0x20 || n == 0x85 || n == 0xA0 || n == 0x1680 ||
    (0x2000 ≤ n && n ≤ 0x200A) || n == 0x2028 || n == 0x2029 || n == 0x202F ||
    n == 0x205F || n == 0x3000

def trimStart (s : List Char) : List Char := s.dropWhile isBlank

def trimEnd (s : List Char) : List Char := (s.reverse.dropWhile isBlank).reverse

def trim (s : List Char) : List Char := trimEnd (trimStart s)

/-- Drop every leading copy of one character. -/
def dropLeading (c : Char) (s : List Char) : List Char := s.dropWhile (· == c)

/-- Split off the leading run without blanks. -/
def spanToken (s : List Char) : List Char × List Char :=
  (s.takeWhile (fun c => !isBlank c), s.dropWhile (fun c => !isBlank c))

/-- What follows a leading copy of `lead`. -/
def strip? : (lead s : List Char) → Option (List Char)
  | [], s => some s
  | _ :: _, [] => none
  | p :: ps, c :: cs => if p = c then strip? ps cs else none

def startsWith (s lead : List Char) : Bool := lead.isPrefixOf s

def endsWith (s tail : List Char) : Bool := tail.isSuffixOf s

/-- The texts before and after the first copy of `sep`. -/
def cut? (sep : List Char) : List Char → Option (List Char × List Char)
  | [] => if sep = [] then some ([], []) else none
  | c :: cs =>
    match strip? sep (c :: cs) with
    | some rest => some ([], rest)
    | none => (cut? sep cs).map fun (before, after) => (c :: before, after)

def contains (s needle : List Char) : Bool := (cut? needle s).isSome

/-- Put a character on the front of the first piece. -/
def pushFirst (c : Char) : List (List Char) → List (List Char)
  | [] => [[c]]
  | piece :: pieces => (c :: piece) :: pieces

/-- The pieces between separators; a text without one is its own single piece. -/
def splitOn (sep : Char) (s : List Char) : List (List Char) :=
  s.foldr (fun c pieces => if c = sep then [] :: pieces else pushFirst c pieces) [[]]

/-- Remove one final character when it is `c`. -/
def dropFinal (c : Char) (s : List Char) : List Char :=
  if s.getLast? = some c then s.dropLast else s

/-- Lines end at a line feed, one carriage return before it belongs to the line end, and an
empty rest after the last line feed is no line. -/
def lines (s : List Char) : List (List Char) :=
  let pieces := splitOn '\n' s
  let ended := pieces.dropLast.map (dropFinal '\r')
  match pieces.getLast? with
  | some (c :: cs) => ended ++ [c :: cs]
  | _ => ended

/-- Replace copies of a needle from left to right; `skip` counts the characters of the copy
just replaced that are still to be passed over. -/
def replaceFrom (needle value : List Char) : Nat → List Char → List Char
  | _, [] => []
  | skip + 1, _ :: cs => replaceFrom needle value skip cs
  | 0, c :: cs =>
    if needle.isPrefixOf (c :: cs) then
      value ++ replaceFrom needle value (needle.length - 1) cs
    else c :: replaceFrom needle value 0 cs

/-- Replace every copy of a non-empty needle; inserted text is not searched again. -/
def replaceAll (needle value s : List Char) : List Char :=
  if needle = [] then s else replaceFrom needle value 0 s

/-- The piece after the last separator; the whole text without one. -/
def afterLast (sep : Char) (s : List Char) : List Char :=
  (s.reverse.takeWhile (· != sep)).reverse

/-- The texts before and after the last separator. -/
def cutLast? (sep : Char) (s : List Char) : Option (List Char × List Char) :=
  if s.contains sep then
    some ((s.reverse.dropWhile (· != sep)).tail.reverse, afterLast sep s)
  else none

/-- The byte offset of the first copy of a character. -/
def offsetOf? (sep : Char) : List Char → Option Nat
  | [] => none
  | c :: cs => if c = sep then some 0 else (offsetOf? sep cs).map (c.utf8Size + ·)

/-- The texts before and after a byte offset; nothing past the end or inside a character. -/
def splitAtByte? : (offset : Nat) → List Char → Option (List Char × List Char)
  | 0, s => some ([], s)
  | _ + 1, [] => none
  | offset + 1, c :: cs =>
    if c.utf8Size ≤ offset + 1 then
      (splitAtByte? (offset + 1 - c.utf8Size) cs).map fun (before, after) => (c :: before, after)
    else none

def isDigit (c : Char) : Bool := '0' ≤ c && c ≤ '9'

/-- The value of a run of decimal digits; nothing for an empty or other text. -/
def digits? (s : List Char) : Option Nat :=
  if s ≠ [] ∧ s.all isDigit then some (s.foldl (fun n c => n * 10 + (c.toNat - '0'.toNat)) 0)
  else none

/-- An unsigned number with an optional plus sign, at most `greatest`. -/
def natUpTo? (greatest : Nat) (s : List Char) : Option Nat :=
  let body := (strip? ['+'] s).getD s
  (digits? body).filter (· ≤ greatest)

/-- A signed 64-bit number with an optional sign. -/
def int64? (s : List Char) : Option Int :=
  match s with
  | '-' :: rest => ((digits? rest).map fun n => -(n : Int)).filter (-(Nat.pow 2 63 : Int) ≤ ·)
  | '+' :: rest => ((digits? rest).map fun n => (n : Int)).filter (· < (Nat.pow 2 63 : Int))
  | _ => ((digits? s).map fun n => (n : Int)).filter (· < (Nat.pow 2 63 : Int))

end Conformance.Chars
