import Conformance.Date
import Conformance.Document.JsonReader

/-! Strings, numbers and dates of TOML. -/
namespace Conformance.Toml

/-- Tab, printable ASCII and everything beyond ASCII may stand in comments and strings. -/
def isPlain (c : Char) : Bool := c == '\t' || (0x20 ≤ c.toNat && c.toNat != 0x7F)

def isSpace (c : Char) : Bool := c == ' ' || c == '\t'

/-- A run of hexadecimal digits as a scalar value. -/
def hexScalar? (digits : List Char) : Option Char := do
  let n ← digits.foldlM (fun n c => (Json.hexValue? c).map fun d => n * 16 + d) 0
  if n < 0xD800 ∨ (0xE000 ≤ n ∧ n ≤ 0x10FFFF) then some (Char.ofNat n) else none

/-- What follows a backslash: the character it stands for and how many characters it takes. -/
def escape? (s : List Char) : Option (Char × Nat) :=
  match s with
  | 'b' :: _ => some ('\x08', 1)
  | 't' :: _ => some ('\t', 1)
  | 'n' :: _ => some ('\n', 1)
  | 'f' :: _ => some ('\x0c', 1)
  | 'r' :: _ => some ('\r', 1)
  | 'e' :: _ => some ('\x1b', 1)
  | '\"' :: _ => some ('\"', 1)
  | '\\' :: _ => some ('\\', 1)
  | 'x' :: rest => hex 2 rest
  | 'u' :: rest => hex 4 rest
  | 'U' :: rest => hex 8 rest
  | _ => none
where
  hex (count : Nat) (rest : List Char) : Option (Char × Nat) :=
    if rest.length < count then none
    else (hexScalar? (rest.take count)).map fun c => (c, count + 1)

/-- A basic string after its opening quote; `skip` characters belong to an escape already
read. -/
def basic? (out : List Char) : (skip : Nat) → List Char → Option (List Char × List Char)
  | _, [] => none
  | skip + 1, _ :: rest => basic? out skip rest
  | 0, '\"' :: rest => some (out.reverse, rest)
  | 0, '\\' :: rest =>
    match escape? rest with
    | some (c, size) => basic? (c :: out) size rest
    | none => none
  | 0, c :: rest => if isPlain c then basic? (c :: out) 0 rest else none

/-- A literal string after its opening quote. -/
def literal? (out : List Char) : List Char → Option (List Char × List Char)
  | [] => none
  | '\'' :: rest => some (out.reverse, rest)
  | c :: rest => if isPlain c then literal? (c :: out) rest else none

/-- A line end. -/
def newline? : List Char → Option (List Char)
  | '\n' :: rest => some rest
  | '\r' :: '\n' :: rest => some rest
  | _ => none

/-- Whether only blanks stand before the next line end. -/
def blankToLineEnd (s : List Char) : Bool := (newline? (s.dropWhile isSpace)).isSome

/-- How many blanks and line ends a text starts with. -/
def gapLength : List Char → Nat
  | ' ' :: rest | '\t' :: rest | '\n' :: rest => gapLength rest + 1
  | '\r' :: '\n' :: rest => gapLength rest + 2
  | _ => 0

/-- A basic string of several lines after its opening quotes. A backslash at the end of a line
takes the blanks and line ends after it away, other line ends stay as they are written, and up to
two quotes may stand before the closing ones. -/
def multilineBasic? (out : List Char) : (skip : Nat) → List Char →
    Option (List Char × List Char)
  | _, [] => none
  | skip + 1, _ :: rest => multilineBasic? out skip rest
  | 0, '\"' :: '\"' :: '\"' :: rest =>
    match rest with
    | '\"' :: '\"' :: rest => some (('\"' :: '\"' :: out).reverse, rest)
    | '\"' :: rest => some (('\"' :: out).reverse, rest)
    | rest => some (out.reverse, rest)
  | 0, '\\' :: rest =>
    if blankToLineEnd rest then multilineBasic? out (gapLength rest) rest
    else
      match escape? rest with
      | some (c, size) => multilineBasic? (c :: out) size rest
      | none => none
  | 0, '\n' :: rest => multilineBasic? ('\n' :: out) 0 rest
  | 0, '\r' :: '\n' :: rest => multilineBasic? ('\n' :: '\r' :: out) 0 rest
  | 0, c :: rest => if isPlain c then multilineBasic? (c :: out) 0 rest else none

/-- A literal string of several lines after its opening quotes. -/
def multilineLiteral? (out : List Char) : List Char → Option (List Char × List Char)
  | [] => none
  | '\'' :: '\'' :: '\'' :: rest =>
    match rest with
    | '\'' :: '\'' :: rest => some (('\'' :: '\'' :: out).reverse, rest)
    | '\'' :: rest => some (('\'' :: out).reverse, rest)
    | rest => some (out.reverse, rest)
  | '\n' :: rest => multilineLiteral? ('\n' :: out) rest
  | '\r' :: '\n' :: rest => multilineLiteral? ('\n' :: '\r' :: out) rest
  | c :: rest => if isPlain c then multilineLiteral? (c :: out) rest else none

/-- A line end directly after the opening quotes is not part of the string. -/
def afterOpening (s : List Char) : List Char := (newline? s).getD s

/-- A string value, if one starts here. -/
def string? (s : List Char) : Option (Option (List Char × List Char)) :=
  match s with
  | '\"' :: '\"' :: '\"' :: rest => some (multilineBasic? [] 0 (afterOpening rest))
  | '\'' :: '\'' :: '\'' :: rest => some (multilineLiteral? [] (afterOpening rest))
  | '\"' :: rest => some (basic? [] 0 rest)
  | '\'' :: rest => some (literal? [] rest)
  | _ => none

/-- Digits with single underscores between them, of which the underscores are dropped. -/
def digitGroup? (isDigit : Char → Bool) (s : List Char) : Option (List Char) :=
  let parts := Chars.splitOn '_' s
  if parts.all (fun p => p ≠ [] ∧ p.all isDigit) then some parts.flatten else none

def isHex (c : Char) : Bool := (Json.hexValue? c).isSome

/-- Read digits in a base. -/
def valueIn (base : Nat) (digits : List Char) : Nat :=
  digits.foldl (fun n c => n * base + (Json.hexValue? c).getD 0) 0

/-- Integers have at most 128 bits. -/
def integer (n : Int) : Document :=
  if -(Nat.pow 2 127) ≤ n ∧ n < Nat.pow 2 128 then .int n else .unreadable

/-- An optional sign and the rest. -/
def sign (s : List Char) : Int × List Char :=
  match s with
  | '-' :: rest => (-1, rest)
  | '+' :: rest => (1, rest)
  | _ => (1, s)

/-- A decimal integer without leading zeros. -/
def decimalDigits? (s : List Char) : Option (List Char) :=
  if s.head? = some '0' ∧ s.length > 1 then none else digitGroup? Chars.isDigit s

/-- Numbers with a fraction or an exponent. -/
def float? (s : List Char) : Option Document := do
  let (positive, s) := sign s
  let (base, exponent) := match s.span (fun c => c != 'e' && c != 'E') with
    | (base, _ :: e) => (base, some e)
    | (base, []) => (base, none)
  let (whole, fraction) := match Chars.cut? ['.'] base with
    | some (w, f) => (w, some f)
    | none => (base, none)
  if exponent.isNone && fraction.isNone then none
  let whole ← decimalDigits? whole
  let fraction ← match fraction with
    | some f => digitGroup? Chars.isDigit f
    | none => some []
  let power ← match exponent with
    | some e =>
      let (s, digits) := sign e
      (digitGroup? Chars.isDigit digits).map fun ds => s * (valueIn 10 ds : Int)
    | none => some 0
  let significand := positive * (valueIn 10 (whole ++ fraction) : Int)
  let power := power - fraction.length
  return if Json.tooLarge significand power then .unreadable else .decimal significand power

/-- A special number: infinity or no number at all. -/
def isSpecialFloat (s : List Char) : Bool :=
  let (_, body) := sign s
  body == "inf".toList || body == "nan".toList

/-- The fraction of a second: at most nine digits count, and zeros at the end are dropped, though
one digit stays. -/
def fractionText (digits : List Char) : List Char :=
  match ((digits.take 9).reverse.dropWhile (· == '0')).reverse with
  | [] => ['0']
  | digits => digits

/-- Clock time: hours and minutes, then optionally seconds with a fraction. Gives its plain form
and what follows. -/
def clock? (s : List Char) : Option (List Char × List Char) := do
  let (hour, afterHour) ← Date.number? 2 2 s
  let afterHour ← Chars.strip? [':'] afterHour
  let (minute, afterMinute) ← Date.number? 2 2 afterHour
  if hour > 23 ∨ minute > 59 then none
  match afterMinute with
  | ':' :: rest =>
    let (second, rest) ← Date.number? 2 2 rest
    if second > 60 then none
    let whole := s.take 8
    match rest with
    | '.' :: rest =>
      let digits := rest.takeWhile Chars.isDigit
      if digits.isEmpty then none
      else some (whole ++ '.' :: fractionText digits, rest.dropWhile Chars.isDigit)
    | _ => some (whole, rest)
  | _ => some (s.take 5, afterMinute)

/-- The plain form of an offset from universal time; none is before it by nothing. -/
def offset? (s : List Char) : Option (List Char) :=
  match s with
  | ['Z'] | ['z'] => some ['Z']
  | sign :: a :: b :: ':' :: c :: d :: [] =>
    match Chars.digits? [a, b], Chars.digits? [c, d] with
    | some hours, some minutes =>
      if (sign = '+' ∨ sign = '-') ∧ hours < 24 ∧ minutes < 60 then
        some ((if hours = 0 ∧ minutes = 0 then '+' else sign) :: s.drop 1)
      else none
    | _, _ => none
  | _ => none

/-- Four, two and two digits between hyphens that name a day, and what follows. -/
def calendarDate? (s : List Char) : Option (List Char × List Char) := do
  let (year, rest) ← Date.number? 4 4 s
  let rest ← Chars.strip? ['-'] rest
  let (month, rest) ← Date.number? 2 2 rest
  let rest ← Chars.strip? ['-'] rest
  let (day, rest) ← Date.number? 2 2 rest
  let _ ← Date.ofParts? year month day
  return (s.take 10, rest)

/-- The plain form of a date, a time, or both. -/
def dateTime? (s : List Char) : Option (List Char) :=
  match calendarDate? s with
  | some (date, []) => some date
  | some (date, mark :: rest) =>
    if mark = 'T' ∨ mark = 't' ∨ mark = ' ' then
      match clock? rest with
      | some (time, []) => some (date ++ 'T' :: time)
      | some (time, rest) => (offset? rest).map fun offset => date ++ 'T' :: time ++ offset
      | none => none
    else none
  | none =>
    match clock? s with
    | some (time, []) => some time
    | _ => none

/-- The field that a date is kept under. -/
def dateField : String := "$__toml_private_datetime"

/-- Characters of an unquoted value. -/
def isScalarChar (c : Char) : Bool :=
  c.isAlphanum || c == '_' || c == '-' || c == '+' || c == '.' || c == ':'

/-- The length of an unquoted value; a space joins a date and a time. -/
def scalarLength (s : List Char) : Nat :=
  let first := s.takeWhile isScalarChar
  match calendarDate? first, s.drop first.length with
  | some (_, []), ' ' :: rest =>
    if (rest.head?.map Chars.isDigit).getD false then
      first.length + 1 + (rest.takeWhile isScalarChar).length
    else first.length
  | _, _ => first.length

/-- An unquoted value. A date is a record of one field, so that it never passes for a text; a
number out of range is unreadable. -/
def unquoted? (s : List Char) : Option Document :=
  match s with
  | [] => none
  | '0' :: 'x' :: digits => (digitGroup? isHex digits).map fun ds => integer (valueIn 16 ds)
  | '0' :: 'o' :: digits =>
    (digitGroup? (fun c => '0' ≤ c ∧ c ≤ '7') digits).map fun ds => integer (valueIn 8 ds)
  | '0' :: 'b' :: digits =>
    (digitGroup? (fun c => c == '0' || c == '1') digits).map fun ds => integer (valueIn 2 ds)
  | _ =>
    if s == "true".toList then some (.bool true)
    else if s == "false".toList then some (.bool false)
    else if isSpecialFloat s then some (.decimal 1 309)
    else
      match dateTime? s with
      | some text => some (.record [(dateField, .text (String.ofList text))])
      | none =>
        let (positive, body) := sign s
        match decimalDigits? body with
        | some digits => some (integer (positive * (valueIn 10 digits : Int)))
        | none => float? s

end Conformance.Toml
