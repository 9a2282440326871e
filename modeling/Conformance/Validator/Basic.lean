import Conformance.Diagnostic.Basic
import Conformance.Pattern
import Conformance.Project.Index
import Conformance.Registry.Basic
import Conformance.Tag.Basic

/-! Validators: functions from a constraint and the facts about one file to a verdict. What a
validator knows of other files is in the project index. -/
namespace Conformance

/-- Everything a validator may look at. -/
structure FileContext where
  filePath : String
  archId : String
  model : SourceModel
  content : String
  /-- Intents of the file and of its functions. -/
  intents : List IntentTag
  intentRegistry : Dict IntentDefinition
  project : ProjectIndex
  limits : PatternLimits
  /-- Templates of test files, for a constraint that names none. -/
  testFilePatterns : List String

structure Verdict where
  passed : Bool
  violations : List Diagnostic
  deriving DecidableEq, Repr, Inhabited

namespace Verdict

def pass : Verdict := { passed := true, violations := [] }

/-- A file passes if nothing was found. -/
def ofViolations (violations : List Diagnostic) : Verdict :=
  { passed := violations.isEmpty, violations }

def fail (violation : Diagnostic) : Verdict := ofViolations [violation]

end Verdict

/-- A validator that gives no verdict has broken down. -/
abbrev Validator := Constraint → FileContext → Option Verdict

/-- Line numbers and counts are unsigned 64-bit numbers: a sum beyond them breaks down. -/
def Count.add? (a b : Nat) : Option Nat := if a + b < Nat.pow 2 64 then some (a + b) else none

/-- A difference below zero breaks down. -/
def Count.sub? (a b : Nat) : Option Nat := if b ≤ a then some (a - b) else none

/-- How many lines a span from one line to another has. -/
def Count.span? (first last : Nat) : Option Nat := Count.add? (last - first) 1

/-- Whether too little of what is required is there. -/
def MatchMode.fails (mode : MatchMode) (required missing : Nat) : Bool :=
  match mode with
  | .all => missing ≠ 0
  | .any => required ≠ 0 && missing = required

def MatchMode.joiner : MatchMode → String
  | .all => ", "
  | .any => " or "

namespace Validator

/-- A constraint whose value has the wrong shape. -/
def invalidValue (c : Constraint) (expected : String) : Verdict :=
  .fail (.ofConstraint Code.malformedConstraint c c.value
    ("'" ++ c.rule ++ "' expects " ++ expected ++ ", found " ++ c.value.shape)
    "Fix the constraint value in the registry")

/-- A pattern that is refused. -/
def rejection (c : Constraint) (pattern : String) (why : Pattern.Rejection) : Diagnostic :=
  .ofConstraint why.code c c.value
    ("pattern '" ++ pattern ++ "' rejected: " ++ why.message)
    "Simplify the pattern in the registry"

/-- Check the entries of a text or list value. -/
def onList (expected : String) (check : List String → Validator) : Validator := fun c ctx =>
  match c.value.toList? with
  | some entries => check entries c ctx
  | none => some (invalidValue c expected)

/-- Check a limit. -/
def onLimit (check : Nat → Validator) : Validator := fun c ctx =>
  match c.value.limit? with
  | some limit => check limit c ctx
  | none => some (invalidValue c "a non-negative integer")

/-- Check a text value. -/
def onText (expected : String) (check : String → Validator) : Validator := fun c ctx =>
  match c.value.toText? with
  | some text => check text c ctx
  | none => some (invalidValue c expected)

/-- Advice on what to use in place of something, or else other advice. -/
def useInstead (alternatives : List String) (otherwise : String) : String :=
  if alternatives.isEmpty then otherwise
  else "Use " ++ Text.join " or " alternatives ++ " instead"

end Validator

end Conformance
