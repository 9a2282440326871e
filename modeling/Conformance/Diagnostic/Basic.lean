import Conformance.Constraint.Basic

/-! Diagnostics and the result of checking one file. -/
namespace Conformance

/-- A change that would remove a finding. -/
inductive Suggestion where
  | replaceImport (old new : String)
  | removeImport (module : String)
  | addImport (module : String)
  | addDecorator (name : String)
  | renameFile (pattern : String)
  | createFile (path : String)
  deriving DecidableEq, Repr, Inhabited

structure Diagnostic where
  code : String
  rule : String
  value : ConstraintValue
  severity : Severity
  line : Option Nat := none
  column : Option Nat := none
  message : String
  fixHint : String
  /-- The architecture or mixin whose constraint was violated. -/
  source : Option String := none
  suggestion : Option Suggestion := none
  didYouMean : Option String := none
  deriving DecidableEq, Repr, Inhabited

namespace Diagnostic

/-- A finding about a constraint, which gives its severity, source and reason. -/
def ofConstraint (code : String) (c : Constraint) (value : ConstraintValue)
    (message fixHint : String) : Diagnostic where
  code
  rule := c.rule
  value
  severity := c.severity
  message
  fixHint := match c.why with
    | some why => fixHint ++ " (" ++ why ++ ")"
    | none => fixHint
  source := c.source

/-- A finding that no constraint stands behind. -/
def system (code rule : String) (severity : Severity) (message fixHint : String) : Diagnostic :=
  { code, rule, value := .text "", severity, message, fixHint }

/-- Line numbers start at one: zero leaves the line open. -/
def onLine (d : Diagnostic) (line : Nat) : Diagnostic :=
  if line > 0 then { d with line := some line } else d

theorem code_onLine (d : Diagnostic) (line : Nat) : (d.onLine line).code = d.code := by
  unfold onLine
  split <;> rfl

def onColumn (d : Diagnostic) (line column : Nat) : Diagnostic :=
  let d := d.onLine line
  if column > 0 then { d with column := some column } else d

def suggest (d : Diagnostic) (s : Suggestion) : Diagnostic := { d with suggestion := some s }

def meaning (d : Diagnostic) (candidate : Option String) : Diagnostic :=
  match candidate with
  | some c => { d with didYouMean := some c }
  | none => d

def display (d : Diagnostic) : String :=
  match d.line with
  | some line => "[" ++ d.code ++ "] line " ++ toString line ++ ": " ++ d.message
  | none => "[" ++ d.code ++ "] " ++ d.message

end Diagnostic

inductive FileStatus where
  | pass
  | warn
  | fail
  deriving DecidableEq, Repr, Inhabited

def FileStatus.name : FileStatus → String
  | .pass => "pass"
  | .warn => "warn"
  | .fail => "fail"

/-- The outcome of checking one file. -/
structure FileResult where
  path : String
  archId : Option String := none
  status : FileStatus := .pass
  violations : List Diagnostic := []
  warnings : List Diagnostic := []
  overridden : List Diagnostic := []
  overridesCount : Nat := 0
  /-- Project files that the file imports. -/
  imports : List String := []
  fromCache : Bool := false
  deriving DecidableEq, Repr, Inhabited

namespace FileResult

/-- Errors fail a file, warnings alone warn. -/
def statusOf (violations warnings : List Diagnostic) : FileStatus :=
  if !violations.isEmpty then .fail else if !warnings.isEmpty then .warn else .pass

def ofDiagnostics (path : String) (archId : Option String) (ds : List Diagnostic) : FileResult :=
  let violations := ds.filter fun d => d.severity = .error
  let warnings := ds.filter fun d => d.severity ≠ .error
  { path, archId, violations, warnings, status := statusOf violations warnings }

def passed (r : FileResult) : Bool := r.status ≠ .fail

end FileResult

end Conformance
