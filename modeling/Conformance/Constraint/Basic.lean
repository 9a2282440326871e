import Conformance.Rule
import Conformance.Document.Basic
import Conformance.Text.Basic

/-! Constraints: one use of a rule by an architecture or a mixin, with its value in one of four
shapes. -/
namespace Conformance

inductive Severity where
  | error
  | warning
  deriving DecidableEq, Repr, Inhabited

def Severity.name : Severity → String
  | .error => "error"
  | .warning => "warning"

/-- Whether all of several required things have to be there, or any one. -/
inductive MatchMode where
  | all
  | any
  deriving DecidableEq, Repr, Inhabited

def MatchMode.name : MatchMode → String
  | .all => "all"
  | .any => "any"

/-- Values gathered from a file that have to show up in other files. -/
structure CoverageSpec where
  sourceType : String
  sourcePattern : Option String := none
  targetPattern : String
  inTargetFiles : String
  deriving DecidableEq, Repr, Inhabited

inductive ConstraintValue where
  | number (n : Int)
  | text (s : String)
  | list (items : List String)
  | coverage (spec : CoverageSpec)
  deriving DecidableEq, Repr, Inhabited

namespace ConstraintValue

def shape : ConstraintValue → String
  | number _ => "number"
  | text _ => "string"
  | list _ => "string list"
  | coverage _ => "coverage object"

/-- A text or list value as a list. -/
def toList? : ConstraintValue → Option (List String)
  | text s => some [s]
  | list items => some items
  | _ => none

def toText? : ConstraintValue → Option String
  | text s => some s
  | _ => none

/-- A limit: a number from zero on, or a text that holds an unsigned 64-bit number. -/
def limit? : ConstraintValue → Option Nat
  | number n => if 0 ≤ n then some n.toNat else none
  | text s => Chars.natUpTo? (Nat.pow 2 64 - 1) (Chars.trim s.toList)
  | _ => none

/-- Whether the value written in an override means this value: scalars by equality with its only
comma part, lists as sets of comma parts. -/
def matchesOverride (value : ConstraintValue) (raw : String) : Bool :=
  let wanted := Text.commaParts raw
  match value with
  | number n => wanted == [toString n]
  | text s => wanted == [s]
  | list items => sortedDistinct items == sortedDistinct wanted
  | coverage _ => false

def display : ConstraintValue → String
  | number n => toString n
  | text s => s
  | list items => "[" ++ Text.join ", " items ++ "]"
  | coverage spec => "coverage(" ++ spec.sourceType ++ " -> " ++ spec.inTargetFiles ++ ")"

end ConstraintValue

structure Constraint where
  rule : String
  value : ConstraintValue
  severity : Severity := .error
  why : Option String := none
  alternatives : List String := []
  matchMode : MatchMode := .all
  excludeComments : Bool := false
  /-- Calls that have to stand in a guarded block. -/
  around : List String := []
  /-- Calls that have to come first. -/
  before : List String := []
  /-- Functions in which a call is let through. -/
  exempt : List String := []
  /-- The architecture or mixin that the constraint comes from. -/
  source : Option String := none
  deriving DecidableEq, Repr, Inhabited

namespace Constraint

def ofRule (rule : Rule) (value : ConstraintValue) : Constraint := { rule := rule.name, value }

def rule? (c : Constraint) : Option Rule := Rule.ofName? c.rule

/-- The placeholder of a parameter. -/
def placeholder (key : String) : String := "$\x7b" ++ key ++ "\x7d"

/-- Put parameters in for their placeholders, one parameter after the other in key order. -/
def fill (params : Dict String) (text : String) : String :=
  params.entries.foldl (fun acc entry => Text.replaceAll (placeholder entry.1) entry.2 acc) text

/-- Fill a value. A text that starts and ends like a placeholder and fills to a signed 64-bit
number becomes that number. -/
def fillValue (params : Dict String) : ConstraintValue → ConstraintValue
  | .text s =>
    let filled := fill params s
    match Chars.int64? filled.toList with
    | some n =>
      if Text.startsWith s "$\x7b" && Text.endsWith s "\x7d" then .number n else .text filled
    | none => .text filled
  | .list items => .list (items.map (fill params))
  | value => value

/-- The constraint with parameters filled into its value and its reason. -/
def substitute (c : Constraint) (params : Dict String) : Constraint :=
  if params.isEmpty then c
  else { c with value := fillValue params c.value, why := c.why.map (fill params) }

end Constraint

end Conformance
