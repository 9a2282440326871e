import Conformance.Text.Basic

/-! Calendar dates as day numbers in the proleptic Gregorian calendar, so that order and
distance are those of integers. -/
namespace Conformance

/-- A date, given by its number of days after 1970-01-01. -/
structure Date where
  day : Int
  deriving DecidableEq, Repr, Inhabited

namespace Date

def isLeap (year : Int) : Bool :=
  year % 4 == 0 && (year % 100 != 0 || year % 400 == 0)

def monthLength (year : Int) (month : Nat) : Nat :=
  match month with
  | 2 => if isLeap year then 29 else 28
  | 4 | 6 | 9 | 11 => 30
  | _ => 31

/-- Days before the first of January of a year, counted from that of year zero. -/
def daysBeforeYear (year : Int) : Int :=
  let y := year - 1
  365 * year + y / 4 - y / 100 + y / 400 + 1

/-- Days of the months before one. -/
def daysBeforeMonth (year : Int) (month : Nat) : Nat :=
  (List.range (month - 1)).foldl (fun days m => days + monthLength year (m + 1)) 0

/-- The day number of 1970-01-01 counted from year zero. -/
def epoch : Int := daysBeforeYear 1970

def leastYear : Int := -262143

def greatestYear : Int := 262142

/-- The date of a year, month and day, if there is one. -/
def ofParts? (year : Int) (month day : Nat) : Option Date :=
  if leastYear ≤ year ∧ year ≤ greatestYear ∧ 1 ≤ month ∧ month ≤ 12 ∧ 1 ≤ day ∧
      day ≤ monthLength year month then
    some ⟨daysBeforeYear year + daysBeforeMonth year month + day - 1 - epoch⟩
  else none

/-- The year that a day, counted from year zero, lies in: the mean year length gives a guess
that is at most one off. -/
def yearOfDay (n : Int) : Int :=
  let guess := (n * 400) / 146097
  if n < daysBeforeYear guess then guess - 1
  else if daysBeforeYear (guess + 1) ≤ n then guess + 1
  else guess

/-- Month and day of the month of a day of the year. -/
def monthOfDay (year : Int) : (months month left : Nat) → Nat × Nat
  | 0, month, left => (month, left + 1)
  | months + 1, month, left =>
    if left < monthLength year month then (month, left + 1)
    else monthOfDay year months (month + 1) (left - monthLength year month)

/-- Year, month and day. -/
def parts (d : Date) : Int × Nat × Nat :=
  let n := d.day + epoch
  let year := yearOfDay n
  let (month, day) := monthOfDay year 11 1 (n - daysBeforeYear year).toNat
  (year, month, day)

/-- A number with leading zeros up to a width. -/
def padded (width n : Nat) : String :=
  let digits := toString n
  String.ofList (List.replicate (width - digits.length) '0') ++ digits

/-- Years of four digits stand as they are, others with a sign. -/
def yearText (year : Int) : String :=
  if 0 ≤ year ∧ year ≤ 9999 then padded 4 year.toNat
  else (if year < 0 then "-" else "+") ++ padded 4 year.natAbs

def toText (d : Date) : String :=
  let (year, month, day) := d.parts
  yearText year ++ "-" ++ padded 2 month ++ "-" ++ padded 2 day

/-- Days from one date to another. -/
def daysUntil (today later : Date) : Int := later.day - today.day

/-- Between `least` and `most` digits and what follows them; the number has to fit 64 bits. -/
def number? (least most : Nat) (s : List Char) : Option (Nat × List Char) :=
  let digits := (s.takeWhile Chars.isDigit).take most
  if digits.length < least then none
  else ((Chars.digits? digits).filter (· < Nat.pow 2 63)).map fun n => (n, s.drop digits.length)

/-- A year: four digits at most, or any number after a sign. -/
def signedYear? (s : List Char) : Option (Int × List Char) :=
  match s with
  | '-' :: rest => (number? 1 rest.length rest).map fun (n, rest) => (-(n : Int), rest)
  | '+' :: rest => (number? 1 rest.length rest).map fun (n, rest) => ((n : Int), rest)
  | _ => (number? 1 4 s).map fun (n, rest) => ((n : Int), rest)

/-- Year, month and day between hyphens, blanks allowed before each number. -/
def plain? (s : List Char) : Option Date := do
  let (year, s) ← signedYear? (Chars.trimStart s)
  let s ← Chars.strip? ['-'] s
  let (month, s) ← number? 1 2 (Chars.trimStart s)
  let s ← Chars.strip? ['-'] s
  let (day, s) ← number? 1 2 (Chars.trimStart s)
  if s.isEmpty then ofParts? year month day else none

/-- The clock and offset part of a timestamp. -/
def isClock (s : List Char) : Bool := (clock? s).isSome
where
  clock? (s : List Char) : Option Unit := do
    let (hour, s) ← number? 2 2 s
    let s ← Chars.strip? [':'] s
    let (minute, s) ← number? 2 2 s
    let s ← Chars.strip? [':'] s
    let (second, s) ← number? 2 2 s
    let s ← fraction? s
    if hour < 24 ∧ minute < 60 ∧ second ≤ 60 ∧ isOffset s then some () else none
  fraction? (s : List Char) : Option (List Char) :=
    match s with
    | '.' :: rest =>
      if (rest.takeWhile Chars.isDigit).isEmpty then none
      else some (rest.dropWhile Chars.isDigit)
    | _ => some s
  isOffset (s : List Char) : Bool :=
    match s with
    | ['Z'] | ['z'] => true
    | sign :: a :: b :: ':' :: c :: d :: [] =>
      (sign == '+' || sign == '-' || sign == '\u2212') &&
        match Chars.digits? [a, b], Chars.digits? [c, d] with
        | some hours, some minutes => hours < 24 && minutes < 60
        | _, _ => false
    | _ => false

/-- A timestamp with date, clock and offset; its date is the local one. -/
def timestamp? (s : List Char) : Option Date := do
  let (year, s) ← number? 4 4 s
  let s ← Chars.strip? ['-'] s
  let (month, s) ← number? 2 2 s
  let s ← Chars.strip? ['-'] s
  let (day, s) ← number? 2 2 s
  match s with
  | mark :: clock =>
    if (mark = 'T' ∨ mark = 't' ∨ mark = ' ') ∧ isClock clock then ofParts? year month day
    else none
  | [] => none

/-- Read a date or a timestamp, blanks around it allowed. -/
def read? (text : String) : Option Date :=
  let s := Chars.trim text.toList
  (plain? s).or (timestamp? s)

end Date

end Conformance
