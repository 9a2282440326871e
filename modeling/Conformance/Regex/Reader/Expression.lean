import Conformance.Regex.Footprint
import Conformance.Regex.Reader.Class

/-! Reading the notation of regular expressions: literals, classes, groups, flags, counted and
uncounted repetition, positions. There is no look-around and no reference to a group. -/
namespace Conformance.Regex

open Read

/-- The name of a group up to its closing bracket. -/
def groupName : Nat → Bool → Read (List Char)
  | 0, _ => fail
  | fuel + 1, first => do
    let c ← peek
    advance
    if c = '>' then
      if first then fail else return []
    else
      let alphabetic := CharSet.alphabetic.mem c.toNat
      let later := c == '.' || c == '[' || c == ']' ||
        CharSet.numeric.mem c.toNat
      if c == '_' || alphabetic || (!first && later) then
        return c :: (← groupName fuel false)
      else fail

/-- One flag letter, switched on or off. -/
def Flags.with? (f : Flags) (letter : Char) (on : Bool) : Option Flags :=
  match letter with
  | 'i' => some { f with ignoreCase := on }
  | 'm' => some { f with multiLine := on }
  | 's' => some { f with dotAll := on }
  | 'U' => some { f with swapGreed := on }
  | 'u' => some { f with unicode := on }
  | 'R' => some { f with anyLineEnd := on }
  | 'x' => some { f with ignoreSpace := on }
  | _ => none

/-- Flag letters up to a colon or a closing parenthesis, which is left. Each letter stands at
most once, and a minus sign once and not last. The result also tells whether there was any. -/
def flagLetters : Nat → Flags → (seen : List Char) → Read (Flags × Bool)
  | 0, _, _ => fail
  | fuel + 1, f, seen => do
    let c ← peek
    if c = ':' ∨ c = ')' then
      if seen.head? = some '-' then fail else return (f, !seen.isEmpty)
    else if seen.contains c then fail
    else
      advance
      let _ ← peek
      if c = '-' then flagLetters fuel f ('-' :: seen)
      else match f.with? c (!seen.contains '-') with
        | some f => flagLetters fuel f (c :: seen)
        | none => fail

/-- How a parenthesis opens. -/
inductive Opening where
  | flagsOnly (flags : Flags)
  | plain (flags : Flags)
  | capture

/-- What follows an opening parenthesis. -/
def opening : Read Opening := do
  skipSpace
  let r ← get
  let lead := Chars.startsWith r.rest
  if lead ['?', '='] || lead ['?', '!'] || lead ['?', '<', '='] || lead ['?', '<', '!'] then fail
  else
    let named ← (do
      if ← take? ['?', 'P', '<'] then return true else take? ['?', '<'] : Read Bool)
    if named then
      let name ← groupName ((← get).rest.length + 1) true
      if (← get).names.contains name then fail
      modify fun r => { r with names := name :: r.names }
      return .capture
    else if ← take? ['?'] then
      let (f, some?) ← flagLetters ((← get).rest.length + 1) (← Read.flags) []
      let c ← peek
      advance
      if c = ')' then
        if some? then return .flagsOnly f else fail
      else return .plain f
    else return .capture

/-- The node of one literal character under the current modes. Outside Unicode mode only ASCII
letters have another case. -/
def literalNode (c : Char) (byte : Bool) : Read Node := do
  let f ← Read.flags
  if !f.unicode && byte && c.toNat > 127 then fail
  else if !f.ignoreCase then return .text [c]
  else if f.unicode then return .ofSet (.ofIncreasing (Tables.foldOrbit c.toNat))
  else return .ofSet (CharSet.single c).foldedAscii

def primitiveNode (p : Primitive) : Read Node := do
  let f ← Read.flags
  match p with
  | .literal c byte => literalNode c byte
  | .look condition => return .look condition
  | .set s => return .ofSet s
  | .dot =>
    if !f.unicode then fail
    else if f.dotAll then return .set .any
    else if f.anyLineEnd then
      return .set (CharSet.compl (.union (.single '\r') (.single '\n')))
    else return .set (CharSet.compl (.single '\n'))

/-- A character outside classes, groups and repetitions. -/
def primitive : Read Primitive := do
  let f ← Read.flags
  let c ← peek
  advance
  match c with
  | '\\' => escape
  | '.' => return .dot
  | '^' =>
    return .look (if f.multiLine then (if f.anyLineEnd then .anyLineStart else .lineStart)
      else .textStart)
  | '$' =>
    return .look (if f.multiLine then (if f.anyLineEnd then .anyLineEnd else .lineEnd)
      else .textEnd)
  | c => return .literal c false

/-- The bounds in a counted repetition, up to its closing brace. -/
def bounds : Read (Nat × Option Nat) := do
  skipSpace
  let least ← decimal
  let most ← (do
    if (← peek) = ',' then
      advanceSkip
      if (← peek) = '\x7d' then return none
      else return some (← decimal)
    else return some least : Read (Option Nat))
  if (← peek) = '\x7d' then
    match most with
    | some most => if least ≤ most then return (least, some most) else fail
    | none => return (least, none)
  else fail

/-- Items of a sequence in reverse order: a node with its depth, or a change of modes. -/
abbrev Items := List (Option (Node × Nat))

/-- Repeat the last item. -/
def repeatLast (items : Items) (least : Nat) (most : Option Nat) : Read Items := do
  let lazy ← take? ['?']
  let f ← Read.flags
  match items with
  | some (node, depth) :: before =>
    return some (Node.repeatOf least most (lazy == f.swapGreed) node, depth + 1) :: before
  | _ => fail

/-- The nodes of a sequence, one after the other. -/
def sequenceNode (items : Items) : Node × Nat :=
  let nodes := items.reverse.filterMap id
  match items.reverse with
  | [some (node, depth)] => (node, depth)
  | [] => (.empty, 0)
  | _ => (.catOf (nodes.map (·.1)), (nodes.map (·.2)).foldl max 0 + 1)

/-- A choice between branches. -/
def alternativesNode (branches : List (Node × Nat)) : Node × Nat :=
  match branches with
  | [one] => one
  | _ => (.altOf (branches.map (·.1)), (branches.map (·.2)).foldl max 0 + 1)

mutual

/-- Branches up to a closing parenthesis or the end. -/
def branches : Nat → Read (List (Node × Nat))
  | 0 => fail
  | fuel + 1 => do
    let one ← sequence fuel []
    if (← peek?) = some '|' then
      advance
      return one :: (← branches fuel)
    else return [one]

/-- One branch; `items` are those read so far. -/
def sequence : Nat → Items → Read (Node × Nat)
  | 0, _ => fail
  | fuel + 1, items => do
    skipSpace
    match ← peek? with
    | none => return sequenceNode items
    | some c =>
      if c = '|' ∨ c = ')' then return sequenceNode items
      else if c = '(' then
        advance
        let outer ← Read.flags
        match ← opening with
        | .flagsOnly f =>
          modify fun r => { r with flags := f }
          sequence fuel (none :: items)
        | .plain f =>
          modify fun r => { r with flags := f }
          let (body, depth) := alternativesNode (← branches fuel)
          closeGroup outer
          sequence fuel (some (body, depth + 1) :: items)
        | .capture =>
          let index := (← get).groups + 1
          modify fun r => { r with groups := index }
          let (body, depth) := alternativesNode (← branches fuel)
          closeGroup outer
          sequence fuel (some (.group index body, depth + 1) :: items)
      else if c = '[' then
        advance
        let (s, depth) ← bracketed fuel
        sequence fuel (some (.ofSet s, depth) :: items)
      else if c = '?' then
        advance
        sequence fuel (← repeatLast items 0 (some 1))
      else if c = '*' then
        advance
        sequence fuel (← repeatLast items 0 none)
      else if c = '+' then
        advance
        sequence fuel (← repeatLast items 1 none)
      else if c = '\x7b' then
        advance
        let (least, most) ← bounds
        advanceSkip
        sequence fuel (← repeatLast items least most)
      else
        let node ← primitiveNode (← primitive)
        sequence fuel (some (node, 0) :: items)

/-- The closing parenthesis, after which the outer modes are in force again. -/
def closeGroup (outer : Flags) : Read Unit := do
  if ← take? [')'] then modify fun r => { r with flags := outer } else fail

end

/-- Expressions nested deeper than this are refused. -/
def depthLimit : Nat := 250

/-- Read a whole expression. -/
def Node.read? (pattern : String) : Option Node :=
  let chars := pattern.toList
  match (branches (2 * chars.length + 2)).run { rest := chars } with
  | some (parts, r) =>
    let (node, depth) := alternativesNode parts
    if r.rest.isEmpty && depth ≤ depthLimit && Footprint.isAllowed node then some node
    else none
  | none => none

end Conformance.Regex
