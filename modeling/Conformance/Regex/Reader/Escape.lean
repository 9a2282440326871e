import Conformance.Regex.Node
import Conformance.Regex.Property
import Conformance.Regex.Reader.Input

/-! Escapes: what a backslash and the characters after it stand for, inside classes and outside. -/
namespace Conformance.Regex

open Read

/-- One thing that a backslash or a plain character stands for. -/
inductive Primitive where
  /-- A character; `byte` when it was written as two hexadecimal digits. -/
  | literal (c : Char) (byte : Bool)
  | look (condition : Look)
  | set (chars : CharSet)
  | dot

/-- Characters that have a meaning unless escaped. -/
def isMeta (c : Char) : Bool := "\\.+*?()|[]\x7b\x7d^$#&-~".toList.contains c

/-- Every ASCII character but letters, digits and angle brackets may be escaped. -/
def isEscapable (c : Char) : Bool :=
  isMeta c || (c.toNat < 128 && !c.isAlphanum && c != '<' && c != '>')

/-- Where case is ignored, add the other cases. -/
def Flags.fold (flags : Flags) (s : CharSet) : CharSet :=
  if !flags.ignoreCase then s else if flags.unicode then s.folded else s.foldedAscii

/-- Outside Unicode mode a class may hold ASCII only. -/
def admitted (flags : Flags) (s : CharSet) : Read CharSet :=
  if flags.unicode || s.isAscii then return s else fail

/-- Close a class: fold cases, then complement. -/
def closeClass (flags : Flags) (negated : Bool) (s : CharSet) : Read CharSet :=
  let s := flags.fold s
  admitted flags (if negated then s.compl else s)

/-- The classes `\d`, `\s`, `\w` and their complements. -/
def shorthand (c : Char) : Read CharSet := do
  let f ← Read.flags
  let base : CharSet := match c.toLower with
    | 'd' => if f.unicode then .digit else .asciiDigit
    | 's' => if f.unicode then .blank else .asciiBlank
    | _ => if f.unicode then .word else .asciiWord
  admitted f (if c.isUpper then base.compl else base)

/-- A property after `\p` or `\P`. -/
def propertyClass (negated : Bool) : Read CharSet := do
  let f ← Read.flags
  skipSpace
  let c ← peek
  let (found, flip) ← (if c = '\x7b' then do
      advanceSkip
      let name ← braced ((← get).rest.length + 1)
      match Chars.cut? ['!', '='] name with
      | some (key, value) => return (CharSet.propertyValue? key value, true)
      | none =>
        match Chars.cut? [':'] name with
        | some (key, value) => return (CharSet.propertyValue? key value, false)
        | none =>
          match Chars.cut? ['='] name with
          | some (key, value) => return (CharSet.propertyValue? key value, false)
          | none => return (CharSet.property? name, false)
    else do
      advanceSkip
      return (CharSet.category? (CharSet.normalName [c]), false) : Read (Option CharSet × Bool))
  if !f.unicode then fail
  match found with
  | some s => closeClass f (negated != flip) s
  | none => fail

/-- The name in a `\b` form with braces, if it is one: letters and hyphens. -/
def boundaryName : Nat → Read (List Char)
  | 0 => fail
  | fuel + 1 => do
    match ← peek? with
    | some c =>
      if c.isAlpha || c == '-' then
        advanceSkip
        return c :: (← boundaryName fuel)
      else return []
    | none => return []

/-- After `\b`: a word condition with a name in braces. When the brace opens a repetition
count nothing is taken. -/
def wordBoundary (ascii : Bool) : Read Look := do
  if (← peek?) = some '\x7b' then
    let before ← get
    advanceSkip
    let c ← peek
    if c.isAlpha || c == '-' then
      let name ← boundaryName ((← get).rest.length + 1)
      if (← peek) = '\x7d' then
        advance
        match String.ofList name with
        | "start" => return .wordStart ascii
        | "end" => return .wordEnd ascii
        | "start-half" => return .wordStartHalf ascii
        | "end-half" => return .wordEndHalf ascii
        | _ => fail
      else fail
    else
      set before
      return .boundary ascii
  else return .boundary ascii

/-- What follows a backslash. -/
def escape : Read Primitive := do
  let c ← peek
  let ascii := !(← Read.flags).unicode
  if c.isDigit then fail
  else if c = 'x' ∨ c = 'u' ∨ c = 'U' then
    advanceSkip
    if (← peek) = '\x7b' then
      advanceSkip
      let n ← hexBraced ((← get).rest.length + 1) none
      return .literal (← scalar n) false
    else
      let n ← hexDigits (if c = 'x' then 2 else if c = 'u' then 4 else 8) 0
      return .literal (← scalar n) (c == 'x')
  else if c = 'p' ∨ c = 'P' then
    advance
    return .set (← propertyClass (c == 'P'))
  else if "dswDSW".toList.contains c then
    advance
    return .set (← shorthand c)
  else
    advance
    if isEscapable c then return .literal c false
    else match c with
      | 'a' => return .literal '\x07' false
      | 'f' => return .literal '\x0c' false
      | 't' => return .literal '\t' false
      | 'n' => return .literal '\n' false
      | 'r' => return .literal '\r' false
      | 'v' => return .literal '\x0b' false
      | 'A' => return .look .textStart
      | 'z' => return .look .textEnd
      | 'b' => return .look (← wordBoundary ascii)
      | 'B' => return .look (.notBoundary ascii)
      | '<' => return .look (.wordStart ascii)
      | '>' => return .look (.wordEnd ascii)
      | _ => fail

end Conformance.Regex
