import Conformance.Regex.CharSet

/-! Regular expressions after reading: what is matched, without the notation. Sequences and choices
are built by `catOf` and `altOf`, which keep them in a simple form: no sequence holds an empty part
or two texts side by side, no choice is one of choices, and what all choices begin with stands
before them. -/
namespace Conformance.Regex

/-- Conditions on a position. Word conditions look at word characters, ASCII ones only when
`ascii` is set. -/
inductive Look where
  | textStart
  | textEnd
  | lineStart
  | lineEnd
  /-- Line ends are carriage return, line feed or both together. -/
  | anyLineStart
  | anyLineEnd
  | boundary (ascii : Bool)
  | notBoundary (ascii : Bool)
  | wordStart (ascii : Bool)
  | wordEnd (ascii : Bool)
  | wordStartHalf (ascii : Bool)
  | wordEndHalf (ascii : Bool)
  deriving DecidableEq, Inhabited

inductive Node where
  | empty
  /-- Characters one after the other. -/
  | text (chars : List Char)
  | set (chars : CharSet)
  | look (condition : Look)
  | group (index : Nat) (body : Node)
  | repeated (least : Nat) (most : Option Nat) (greedy : Bool) (body : Node)
  | cat (first second : Node)
  | alt (first second : Node)
  deriving DecidableEq, Inhabited

namespace Node

/-- Whether only the empty text can match. -/
def onlyEmpty : Node → Bool
  | empty => true
  | text chars => chars.isEmpty
  | set _ => false
  | look _ => true
  | group _ body => body.onlyEmpty
  | repeated _ _ _ body => body.onlyEmpty
  | cat a b => a.onlyEmpty && b.onlyEmpty
  | alt a b => a.onlyEmpty && b.onlyEmpty

/-- Whether the empty text can match. -/
def nullable : Node → Bool
  | empty => true
  | text chars => chars.isEmpty
  | set _ => false
  | look _ => true
  | group _ body => body.nullable
  | repeated least _ _ body => least == 0 || body.nullable
  | cat a b => a.nullable && b.nullable
  | alt a b => a.nullable || b.nullable

/-- A set; one of a single character is a text. -/
def ofSet (s : CharSet) : Node :=
  match s.only? with
  | some c => text [c]
  | none => set s

/-- A repetition; one of an expression that only matches the empty text runs at most once. -/
def repeatOf (least : Nat) (most : Option Nat) (greedy : Bool) (body : Node) : Node :=
  let (least, most) :=
    if body.onlyEmpty then (min least 1, some (min (most.getD 1) 1)) else (least, most)
  if most = some 0 then empty
  else if least = 1 ∧ most = some 1 then body
  else repeated least most greedy body

/-- The parts of a sequence. -/
def parts : Node → List Node
  | empty => []
  | cat a b => a.parts ++ b.parts
  | n => [n]

/-- The branches of a choice. -/
def choices : Node → List Node
  | alt a b => a.choices ++ b.choices
  | n => [n]

/-- Put a part in front; two texts become one. -/
def prepend (node : Node) (rest : List Node) : List Node :=
  match node, rest with
  | text a, text b :: rest => text (a ++ b) :: rest
  | _, _ => node :: rest

/-- Parts one after the other. -/
def ofParts : List Node → Node
  | [] => empty
  | [node] => node
  | node :: rest => cat node (ofParts rest)

/-- Branches in order of preference. -/
def ofChoices : List Node → Node
  | [] => empty
  | [node] => node
  | node :: rest => alt node (ofChoices rest)

/-- A sequence in simple form. -/
def catOf (nodes : List Node) : Node := ofParts ((nodes.flatMap parts).foldr prepend [])

/-- A choice between single characters, or one between sets, is one set. -/
def asOneSet? (nodes : List Node) : Option CharSet :=
  let single? : Node → Option CharSet
    | text [c] => some (.single c)
    | _ => none
  let set? : Node → Option CharSet
    | set s => some s
    | _ => none
  ((nodes.mapM single?).or (nodes.mapM set?)).map CharSet.unionAll

/-- A choice, as one set where it can be. -/
def choose (nodes : List Node) : Node :=
  match asOneSet? nodes with
  | some s => ofSet s
  | none => ofChoices nodes

/-- What two lists of parts both begin with. -/
def commonLead : (a b : List Node) → List Node
  | a :: as, b :: bs => if a = b then a :: commonLead as bs else []
  | _, _ => []

def isSequence : Node → Bool
  | cat _ _ => true
  | _ => false

/-- What all branches begin with, when all of them are sequences. -/
def sharedLead : List Node → List Node
  | [] => []
  | first :: rest =>
    if (first :: rest).all isSequence then
      rest.foldl (fun lead node => commonLead lead node.parts) first.parts
    else []

/-- A choice in simple form. -/
def altOf (nodes : List Node) : Node :=
  let flat := nodes.flatMap choices
  match sharedLead flat with
  | [] => choose flat
  | lead =>
    let rests := flat.map fun node => catOf (node.parts.drop lead.length)
    catOf (lead ++ [choose (rests.flatMap choices)])

end Node

end Conformance.Regex
