import Conformance.Regex.Reader.Escape

/-! Classes in brackets: members, ranges, named sets and set operations. -/
namespace Conformance.Regex

open Read

/-- A member of a class: an escape or the character itself. -/
def classItem : Read Primitive := do
  let c ← peek
  advance
  if c = '\\' then escape else return .literal c false

/-- The code point of a class member used as a literal. -/
def classLiteral (p : Primitive) : Read Nat := do
  match p with
  | .literal c _ =>
    if !(← Read.flags).unicode && c.toNat > 127 then fail else return c.toNat
  | _ => fail

/-- The character after the current one, past ignored blanks. -/
def peekAfter? : Read (Option Char) := do
  let r ← get
  let rest := r.rest.tail
  return (if r.flags.ignoreSpace then skipIgnored false rest else rest).head?

/-- One member or a range of members. -/
def classRange : Read CharSet := do
  let first ← classItem
  skipSpace
  let c ← peek
  let after ← peekAfter?
  if c != '-' || after == some ']' || after == some '-' then
    match first with
    | .set s => return s
    | p =>
      let n ← classLiteral p
      return .range n n
  else
    advanceSkip
    let _ ← peek
    let last ← classItem
    let low ← classLiteral first
    let high ← classLiteral last
    if low ≤ high then return .range low high else fail

/-- A set with a bracketed name, such as `[:alpha:]`; nothing is taken when it is none. -/
def namedClass? : Read (Option CharSet) := do
  let r ← get
  match Chars.strip? ['[', ':'] r.rest with
  | none => return none
  | some body =>
    let (negated, body) := match body with
      | '^' :: rest => (true, rest)
      | _ => (false, body)
    match Chars.cut? [':'] body with
    | some (name, ']' :: rest) =>
      match CharSet.named? (String.ofList name) with
      | some s =>
        set { r with rest := rest }
        return some (← closeClass r.flags negated s)
      | none => return none
    | _ => return none

/-- The set operation that two equal characters stand for. -/
def classOperation? (rest : List Char) : Option (CharSet → CharSet → CharSet) :=
  match rest with
  | '&' :: '&' :: _ => some .inter
  | '-' :: '-' :: _ => some .diff
  | '~' :: '~' :: _ => some .symmDiff
  | _ => none

/-- What has been read of a class: its set, how many members gave it, and how deep the deepest of
them is nested. -/
structure Members where
  set : CharSet := .empty
  count : Nat := 0
  depth : Nat := 0

namespace Members

def add (m : Members) (s : CharSet) (depth : Nat) : Members :=
  { set := m.set.union s, count := m.count + 1, depth := max m.depth depth }

/-- Several members together are nested one deeper than the deepest of them. -/
def nesting (m : Members) : Nat := if m.count ≤ 1 then m.depth else m.depth + 1

end Members

/-- A set operation that waits for its right side. -/
structure Waiting where
  left : CharSet
  depth : Nat
  operation : CharSet → CharSet → CharSet

/-- Apply the operation that waits; the result comes with its nesting. -/
def joinSides (f : Flags) (waiting : Option Waiting) (right : Members) : CharSet × Nat :=
  match waiting with
  | none => (right.set, right.nesting)
  | some w =>
    (w.operation (f.fold w.left) (f.fold right.set), max w.depth right.nesting + 1)

/-- Leading hyphens of a class are members. -/
def leadingHyphens : Nat → Members → Read Members
  | 0, _ => fail
  | fuel + 1, members => do
    if (← peek) = '-' then
      advanceSkip
      leadingHyphens fuel (members.add (.single '-') 0)
    else return members

mutual

/-- A class after its opening bracket, with the depth of its nesting. -/
def bracketed : Nat → Read (CharSet × Nat)
  | 0 => fail
  | fuel + 1 => do
    skipSpace
    let negated ← (do
      if (← peek) = '^' then
        advanceSkip
        return true
      else return false : Read Bool)
    let hyphens ← leadingHyphens ((← get).rest.length + 1) {}
    if hyphens.count = 0 && (← peek) = ']' then
      advanceSkip
      let _ ← peek
      classBody fuel negated (hyphens.add (.single ']') 0) none
    else classBody fuel negated hyphens none

/-- The rest of a class: members joined to `members`, under an operation that waits for its
right side. -/
def classBody : Nat → Bool → Members → Option Waiting → Read (CharSet × Nat)
  | 0, _, _, _ => fail
  | fuel + 1, negated, members, waiting => do
    skipSpace
    let f ← Read.flags
    match classOperation? (← get).rest with
    | some operation =>
      advance
      advance
      let (left, depth) := joinSides f waiting members
      classBody fuel negated {} (some { left, depth, operation })
    | none =>
      let c ← peek
      if c = ']' then
        advance
        let (s, depth) := joinSides f waiting members
        return (← closeClass f negated s, depth + 1)
      else if c = '[' then
        match ← namedClass? with
        | some s => classBody fuel negated (members.add s 0) waiting
        | none =>
          advance
          let (s, depth) ← bracketed fuel
          classBody fuel negated (members.add s depth) waiting
      else
        let s ← classRange
        classBody fuel negated (members.add s 0) waiting

end

end Conformance.Regex
