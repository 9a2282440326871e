import Conformance.Document.Basic
import Conformance.Text.Chars

/-! Reading JSON text. Every step consumes input, so the length of the text bounds the number
of steps; nesting is bounded on its own. A value out of range, a text with half a surrogate pair
and what nests too deep are well formed all the same: `scan?` keeps them as unreadable, `read?`
refuses them. -/
namespace Conformance.Json

/-- Lists and records may nest one less than this deep. -/
def nestingLimit : Nat := 128

def isSpace (c : Char) : Bool := c == ' ' || c == '\n' || c == '\t' || c == '\r'

def skipSpace (s : List Char) : List Char := s.dropWhile isSpace

def hexValue? (c : Char) : Option Nat :=
  if '0' ≤ c ∧ c ≤ '9' then some (c.toNat - 48)
  else if 'a' ≤ c ∧ c ≤ 'f' then some (c.toNat - 87)
  else if 'A' ≤ c ∧ c ≤ 'F' then some (c.toNat - 55)
  else none

/-- Four hexadecimal digits. -/
def hex4? (a b c d : Char) : Option Nat := do
  return (((← hexValue? a) * 16 + (← hexValue? b)) * 16 + (← hexValue? c)) * 16 + (← hexValue? d)

/-- The character of one escape letter. -/
def escaped? : Char → Option Char
  | '\"' => some '\"'
  | '\\' => some '\\'
  | '/' => some '/'
  | 'b' => some '\x08'
  | 'f' => some '\x0c'
  | 'n' => some '\n'
  | 'r' => some '\r'
  | 't' => some '\t'
  | _ => none

/-- The inside of a text up to its closing quote, as code units, and what follows. A unit is a
character, or half a surrogate pair from an escape; a raw control character is refused. -/
def units? (out : List Nat) : List Char → Option (List Nat × List Char)
  | '\"' :: rest => some (out.reverse, rest)
  | '\\' :: 'u' :: a :: b :: c :: d :: rest =>
    match hex4? a b c d with
    | none => none
    | some unit => units? (unit :: out) rest
  | '\\' :: c :: rest =>
    match escaped? c with
    | none => none
    | some c => units? (c.toNat :: out) rest
  | c :: rest => if c.toNat < 0x20 then none else units? (c.toNat :: out) rest
  | [] => none

/-- Join surrogate pairs; nothing if one half stands alone. -/
def joinPairs? (out : List Char) : List Nat → Option (List Char)
  | [] => some out.reverse
  | [unit] => if 0xD800 ≤ unit ∧ unit < 0xE000 then none else some (Char.ofNat unit :: out).reverse
  | high :: low :: rest =>
    if 0xD800 ≤ high ∧ high < 0xE000 then
      if high < 0xDC00 ∧ 0xDC00 ≤ low ∧ low < 0xE000 then
        joinPairs? (Char.ofNat (0x10000 + (high - 0xD800) * 0x400 + (low - 0xDC00)) :: out) rest
      else none
    else joinPairs? (Char.ofNat high :: out) (low :: rest)

/-- The text of code units. -/
def textOf? (units : List Nat) : Option String := (joinPairs? [] units).map String.ofList

/-- Whether a decimal is beyond the range of double precision: at least 2^1024 less half a unit
in the last place. -/
def tooLarge (significand exponent : Int) : Bool :=
  let greatest : Nat := (Nat.pow 2 54 - 1) * Nat.pow 2 970
  if significand = 0 then false
  else if 0 ≤ exponent then
    exponent > 400 || significand.natAbs * Nat.pow 10 exponent.toNat ≥ greatest
  else
    let digits := (toString significand.natAbs).length
    if (digits : Int) + exponent < 300 then false
    else decide (significand.natAbs ≥ greatest * Nat.pow 10 (-exponent).toNat)

/-- A number after its sign: an integer part without a leading zero, then optionally a fraction
and an exponent. -/
def unsigned? (negative : Bool) (s : List Char) : Option (Document × List Char) := do
  let whole := s.takeWhile Chars.isDigit
  let rest := s.dropWhile Chars.isDigit
  let value ← Chars.digits? whole
  if whole.length > 1 ∧ whole.head? = some '0' then none else
  let (fraction, rest) ← (match rest with
    | '.' :: more =>
      let fraction := more.takeWhile Chars.isDigit
      if fraction = [] then none else some (fraction, more.dropWhile Chars.isDigit)
    | _ => some ([], rest) : Option (List Char × List Char))
  let (exponent, hasExponent, rest) ← (match rest with
    | e :: more =>
      if e = 'e' ∨ e = 'E' then
        let (minus, more) := match more with
          | '-' :: m => (true, m)
          | '+' :: m => (false, m)
          | m => (false, m)
        match Chars.digits? (more.takeWhile Chars.isDigit) with
        | none => none
        | some n => some ((if minus then -(n : Int) else n), true, more.dropWhile Chars.isDigit)
      else some (0, false, rest)
    | [] => some (0, false, rest) : Option (Int × Bool × List Char))
  let sign : Int := if negative then -1 else 1
  if fraction = [] ∧ !hasExponent then
    let n := sign * value
    if negative && value == 0 then some (.decimal 0 0, rest)
    else if -(Nat.pow 2 63) ≤ n ∧ n < Nat.pow 2 64 then some (.int n, rest)
    else if tooLarge n 0 then some (.unreadable, rest)
    else some (.decimal n 0, rest)
  else
    let significand := sign * ((whole ++ fraction).foldl (fun n c => n * 10 + (c.toNat - 48)) 0 : Nat)
    let exponent := exponent - fraction.length
    if tooLarge significand exponent then some (.unreadable, rest)
    else some (.decimal significand exponent, rest)

/-- A number with an optional minus. -/
def number? (s : List Char) : Option (Document × List Char) :=
  match s with
  | '-' :: rest => unsigned? true rest
  | _ => unsigned? false s

/-- A value that holds no other, after leading spaces. -/
def scalar? (s : List Char) : Option (Document × List Char) :=
  match s with
  | 'n' :: 'u' :: 'l' :: 'l' :: rest => some (.null, rest)
  | 't' :: 'r' :: 'u' :: 'e' :: rest => some (.bool true, rest)
  | 'f' :: 'a' :: 'l' :: 's' :: 'e' :: rest => some (.bool false, rest)
  | '\"' :: rest => (units? [] rest).map fun (units, rest) =>
      (((textOf? units).map Document.text).getD .unreadable, rest)
  | _ => number? s

/-- What may come next inside a value that is passed over. -/
inductive Expected where
  | value
  /-- A value, or the end of the list just opened. -/
  | firstItem
  | key
  /-- A key, or the end of the record just opened. -/
  | firstKey
  /-- A comma or the end of what is open. -/
  | separator

/-- A list or a record that is open. -/
inductive Bracket where
  | list
  | record

/-- Pass over a value of any depth. -/
def skip? : (fuel : Nat) → (isOpen : List Bracket) → Expected → List Char → Option (List Char)
  | 0, _, _, _ => none
  | fuel + 1, isOpen, expected, s =>
    match expected, isOpen, skipSpace s with
    | .separator, [], s => some s
    | .firstItem, _ :: isOpen, ']' :: rest | .separator, .list :: isOpen, ']' :: rest
    | .firstKey, _ :: isOpen, '\x7d' :: rest | .separator, .record :: isOpen, '\x7d' :: rest =>
      skip? fuel isOpen .separator rest
    | .separator, .list :: isOpen, ',' :: rest => skip? fuel (.list :: isOpen) .value rest
    | .separator, .record :: isOpen, ',' :: rest => skip? fuel (.record :: isOpen) .key rest
    | .separator, _ :: _, _ => none
    | .value, isOpen, '[' :: rest | .firstItem, isOpen, '[' :: rest =>
      skip? fuel (.list :: isOpen) .firstItem rest
    | .value, isOpen, '\x7b' :: rest | .firstItem, isOpen, '\x7b' :: rest =>
      skip? fuel (.record :: isOpen) .firstKey rest
    | .value, isOpen, s | .firstItem, isOpen, s =>
      match scalar? s with
      | some (_, rest) => skip? fuel isOpen .separator rest
      | none => none
    | .key, isOpen, s | .firstKey, isOpen, s =>
      match s with
      | '\"' :: rest =>
        match units? [] rest with
        | none => none
        | some (_, rest) =>
          match skipSpace rest with
          | ':' :: rest => skip? fuel isOpen .value rest
          | _ => none
      | _ => none

/-- A record, unless one of the keys has no text. -/
def recordOf (fields : List (Option String × Document)) : Document :=
  ((fields.mapM fun (entry : Option String × Document) =>
    entry.1.map fun name => (name, entry.2)).map Document.record).getD .unreadable

mutual

/-- One value with `depth` levels of nesting left, after leading spaces. -/
def value? (fuel depth : Nat) (s : List Char) : Option (Document × List Char) :=
  match fuel with
  | 0 => none
  | fuel + 1 =>
    match skipSpace s with
    | '[' :: rest =>
      if depth ≤ 1 then
        (skip? (rest.length + 2) [.list] .firstItem rest).map fun rest => (.unreadable, rest)
      else match skipSpace rest with
        | ']' :: rest => some (.list [], rest)
        | rest => (items? fuel (depth - 1) rest).map fun (ds, rest) => (.list ds, rest)
    | '\x7b' :: rest =>
      if depth ≤ 1 then
        (skip? (rest.length + 2) [.record] .firstKey rest).map fun rest => (.unreadable, rest)
      else match skipSpace rest with
        | '\x7d' :: rest => some (.record [], rest)
        | rest => (members? fuel (depth - 1) rest).map fun (fs, rest) => (recordOf fs, rest)
    | rest => scalar? rest

/-- The items of a list, at least one, up to its closing bracket. -/
def items? (fuel depth : Nat) (s : List Char) : Option (List Document × List Char) :=
  match fuel with
  | 0 => none
  | fuel + 1 =>
    match value? fuel depth s with
    | none => none
    | some (d, rest) =>
      match skipSpace rest with
      | ',' :: rest => (items? fuel depth rest).map fun (ds, rest) => (d :: ds, rest)
      | ']' :: rest => some ([d], rest)
      | _ => none

/-- The fields of a record, at least one, up to its closing brace. -/
def members? (fuel depth : Nat) (s : List Char) :
    Option (List (Option String × Document) × List Char) :=
  match fuel with
  | 0 => none
  | fuel + 1 =>
    match skipSpace s with
    | '\"' :: rest =>
      match units? [] rest with
      | none => none
      | some (name, rest) =>
        match skipSpace rest with
        | ':' :: rest =>
          match value? fuel depth rest with
          | none => none
          | some (d, rest) =>
            let entry := (textOf? name, d)
            match skipSpace rest with
            | ',' :: rest => (members? fuel depth rest).map fun (fs, rest) => (entry :: fs, rest)
            | '\x7d' :: rest => some ([entry], rest)
            | _ => none
        | _ => none
    | _ => none

end

/-- Read a whole text as one value, parts of which may be unreadable. -/
def scan? (text : String) : Option Document :=
  let s := text.toList
  match value? (2 * s.length + 2) nestingLimit s with
  | some (d, rest) => if skipSpace rest = [] then some d else none
  | none => none

/-- Read a whole text as one value that is readable throughout. -/
def read? (text : String) : Option Document := (scan? text).filter Document.isReadable

end Conformance.Json
