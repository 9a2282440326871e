import Conformance.Text.Chars

/-! What is left to read of an expression, the modes in force, and the steps that all parts of the
notation share. Reading yields a value or nothing. -/
namespace Conformance.Regex

/-- Modes that `(?flags)` changes. -/
structure Flags where
  ignoreCase : Bool := false
  multiLine : Bool := false
  dotAll : Bool := false
  swapGreed : Bool := false
  unicode : Bool := true
  ignoreSpace : Bool := false
  anyLineEnd : Bool := false
  deriving Inhabited

/-- What is left to read, the modes in force and the groups met so far. -/
structure Reader where
  rest : List Char
  flags : Flags := {}
  groups : Nat := 0
  names : List (List Char) := []
  deriving Inhabited

abbrev Read := StateT Reader Option

namespace Read

def fail {α : Type} : Read α := fun _ => none

/-- Pass over blanks and `#` comments. -/
def skipIgnored : (inComment : Bool) → List Char → List Char
  | _, [] => []
  | true, c :: cs => skipIgnored (c != '\n') cs
  | false, c :: cs =>
    if Chars.isBlank c then skipIgnored false cs
    else if c = '#' then skipIgnored true cs
    else c :: cs

/-- Where blanks are ignored, pass over them. -/
def skipSpace : Read Unit := modify fun r =>
  if r.flags.ignoreSpace then { r with rest := skipIgnored false r.rest } else r

def peek? : Read (Option Char) := do return (← get).rest.head?

/-- The next character, which must exist. -/
def peek : Read Char := do
  match (← get).rest with
  | c :: _ => return c
  | [] => fail

def advance : Read Unit := modify fun r => { r with rest := r.rest.tail }

def advanceSkip : Read Unit := do advance; skipSpace

/-- Take a leading text when it is there. -/
def take? (lead : List Char) : Read Bool := do
  match Chars.strip? lead (← get).rest with
  | some rest => modify fun r => { r with rest := rest }; return true
  | none => return false

def flags : Read Flags := do return (← get).flags

/-- Digits with blanks before and after them. -/
def decimal : Read Nat := do
  modify fun r => { r with rest := Chars.trimStart r.rest }
  let digits ← digitRun (← get).rest.length
  modify fun r => { r with rest := Chars.trimStart r.rest }
  skipSpace
  match Chars.digits? digits with
  | some n => if n < Nat.pow 2 32 then return n else fail
  | none => fail
where
  digitRun : Nat → Read (List Char)
    | 0 => return []
    | fuel + 1 => do
      match ← peek? with
      | some c =>
        if Chars.isDigit c then
          advanceSkip
          return c :: (← digitRun fuel)
        else return []
      | none => return []

def hexValue? (c : Char) : Option Nat :=
  if '0' ≤ c ∧ c ≤ '9' then some (c.toNat - 48)
  else if 'a' ≤ c ∧ c ≤ 'f' then some (c.toNat - 87)
  else if 'A' ≤ c ∧ c ≤ 'F' then some (c.toNat - 55)
  else none

/-- The character of a code point, which must be a scalar value. -/
def scalar (n : Nat) : Read Char :=
  if n < 0xD800 ∨ (0xE000 ≤ n ∧ n ≤ 0x10FFFF) then return Char.ofNat n else fail

/-- A fixed number of hexadecimal digits. -/
def hexDigits : Nat → Nat → Read Nat
  | 0, value => return value
  | count + 1, value => do
    match hexValue? (← peek) with
    | some d => advanceSkip; hexDigits count (value * 16 + d)
    | none => fail

/-- Hexadecimal digits up to a closing brace, at least one. -/
def hexBraced : Nat → Option Nat → Read Nat
  | 0, _ => fail
  | fuel + 1, value => do
    let c ← peek
    advanceSkip
    if c = '\x7d' then
      match value with
      | some n => return n
      | none => fail
    else
      match hexValue? c with
      | some d => hexBraced fuel (some ((value.getD 0) * 16 + d))
      | none => fail

/-- Characters up to a closing brace. -/
def braced : Nat → Read (List Char)
  | 0 => fail
  | fuel + 1 => do
    let c ← peek
    if c = '\x7d' then
      advance
      return []
    else
      advanceSkip
      return c :: (← braced fuel)

end Read

end Conformance.Regex
