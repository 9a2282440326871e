import Conformance.Regex.Node

/-! Nodes as instruction tables. A split prefers its first branch, so the order of branches is
the order of preference among matches. -/
namespace Conformance.Regex

inductive Instruction where
  /-- The whole expression has matched. -/
  | accept
  | consume (chars : CharSet) (next : Nat)
  | check (condition : Look) (next : Nat)
  /-- Note the position in a slot: group `i` starts in slot `2 * i` and ends in the next. -/
  | mark (slot next : Nat)
  | split (preferred other : Nat)
  deriving Inhabited

structure Program where
  code : Array Instruction
  start : Nat
  deriving Inhabited

namespace Program

abbrev Emit := StateM (Array Instruction)

/-- Append an instruction and give its index. -/
def emit (i : Instruction) : Emit Nat := do
  let index := (← get).size
  modify (·.push i)
  return index

def overwrite (index : Nat) (i : Instruction) : Emit Unit :=
  modify fun code => code.setIfInBounds index i

def branch (greedy : Bool) (body skip : Nat) : Instruction :=
  if greedy then .split body skip else .split skip body

/-- The characters of a text in front of `next`. -/
def emitText : List Char → Nat → Emit Nat
  | [], next => return next
  | c :: cs, next => do emit (.consume (.single c) (← emitText cs next))

/-- A fixed number of copies in front of `next`. -/
def copies (body : Nat → Emit Nat) : (count next : Nat) → Emit Nat
  | 0, next => return next
  | count + 1, next => do copies body count (← body next)

/-- Up to a number of copies in front of `last`, each of which may be left for `next`. -/
def optionalCopies (greedy : Bool) (body : Nat → Emit Nat) (next : Nat) :
    (count last : Nat) → Emit Nat
  | 0, last => return last
  | count + 1, last => do
    let start ← body last
    optionalCopies greedy body next count (← emit (branch greedy start next))

/-- One or more copies: after each the loop is entered again or left. -/
def loop (greedy : Bool) (body : Nat → Emit Nat) (next : Nat) : Emit Nat := do
  let again ← emit .accept
  let start ← body again
  overwrite again (branch greedy start next)
  return start

/-- Instructions for a node that go on at `next`; the result is the first of them. A repetition
from zero of a body that can be empty is an optional loop of one or more, which keeps the order
of preference when a pass through the body consumes nothing. -/
def emitNode : Node → Nat → Emit Nat
  | .empty, next => return next
  | .text chars, next => emitText chars next
  | .set chars, next => emit (.consume chars next)
  | .look condition, next => emit (.check condition next)
  | .group index body, next => do
    let close ← emit (.mark (2 * index + 1) next)
    let inner ← emitNode body close
    emit (.mark (2 * index) inner)
  | .cat a b, next => do emitNode a (← emitNode b next)
  | .alt a b, next => do
    let second ← emitNode b next
    let first ← emitNode a next
    emit (.split first second)
  | .repeated least (some most) greedy body, next => do
    let rest ← optionalCopies greedy (emitNode body) next (most - least) next
    copies (emitNode body) least rest
  | .repeated 0 none greedy body, next =>
    if body.nullable then do
      let start ← loop greedy (emitNode body) next
      emit (branch greedy start next)
    else do
      let again ← emit .accept
      let start ← emitNode body again
      overwrite again (branch greedy start next)
      return again
  | .repeated (least + 1) none greedy body, next => do
    let last ← loop greedy (emitNode body) next
    copies (emitNode body) least last

def ofNode (node : Node) : Program :=
  let (start, code) := (do
    let accept ← emit .accept
    let close ← emit (.mark 1 accept)
    let body ← emitNode node close
    emit (.mark 0 body) : Emit Nat).run #[]
  { code, start }

end Program

end Conformance.Regex
