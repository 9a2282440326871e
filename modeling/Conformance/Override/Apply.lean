import Conformance.Diagnostic.Basic
import Conformance.Override.Policy

/-! Applying overrides: findings that a valid override names are set aside, and problems of the
overrides are findings of their own. -/
namespace Conformance

namespace Override

/-- Advice that goes with a code of the override family. -/
def fixFor (code : String) : String :=
  match code with
  | "O001" =>
    "Use '@override <rule>:<value>' followed by '@reason', '@expires YYYY-MM-DD' lines"
  | "O002" => "Add the missing field below the @override line"
  | "O003" => "Fix the underlying violation or renew the override with a new @expires date"
  | "O004" => "Pick an @expires date within the policy window"
  | "O005" => "Fix some violations or promote the recurring exception to an intent"
  | "W003" => "Add '@expires YYYY-MM-DD' so the exception is revisited"
  | _ => "Fix the tag syntax"

def issueDiagnostic (t : OverrideTag) (severity : Severity) (i : OverrideIssue) : Diagnostic :=
  { Diagnostic.system i.code "override" severity i.message (fixFor i.code) with
    value := .text t.key }.onLine t.line

/-- A malformed tag as a finding, given its code, line and message. -/
def tagDiagnostic (code : String) (line : Nat) (message : String) : Diagnostic :=
  let rule := if Text.startsWith code "O" then "override" else "tag"
  (Diagnostic.system code rule .error message (fixFor code)).onLine line

def ofTagError (e : TagError) : Diagnostic :=
  tagDiagnostic e.problem.code e.line e.problem.message

/-- Whether an override names a finding. -/
def «matches» (t : OverrideTag) (d : Diagnostic) : Bool :=
  t.rule == d.rule && d.value.matchesOverride t.value

/-- Findings about constraints and intents can be overridden, others not. -/
def isOverridable (d : Diagnostic) : Bool :=
  Text.startsWith d.code "E" || Text.startsWith d.code "I"

/-- Findings split by overrides, with the problems of the overrides themselves. -/
structure Outcome where
  kept : List Diagnostic := []
  overridden : List Diagnostic := []
  issues : List Diagnostic := []
  deriving DecidableEq, Repr, Inhabited

/-- Whether the override at an index is beyond the limit of a file. -/
def beyondLimit (policy : OverridePolicy) (index : Nat) : Bool :=
  policy.maxPerFile > 0 && index ≥ policy.maxPerFile

/-- The findings about the override at an index among `count`. -/
def issuesOf (policy : OverridePolicy) (today : Date) (count : Nat)
    (indexed : OverrideTag × Nat) : List Diagnostic :=
  let (t, index) := indexed
  let check := policy.check t today
  check.errors.map (issueDiagnostic t .error) ++
    check.warnings.map (issueDiagnostic t .warning) ++
    if beyondLimit policy index && index == policy.maxPerFile then
      [issueDiagnostic t .error (.limitExceeded count policy.maxPerFile)]
    else []

/-- The overrides that suppress: within the limit and without a disabling problem. -/
def active (policy : OverridePolicy) (today : Date) (overrides : List OverrideTag) :
    List OverrideTag :=
  (overrides.zipIdx.filter fun (t, index) =>
    !beyondLimit policy index && (policy.check t today).suppresses).map (·.1)

def apply (ds : List Diagnostic) (overrides : List OverrideTag) (policy : OverridePolicy)
    (today : Date) : Outcome :=
  let active := active policy today overrides
  let suppressed (d : Diagnostic) : Bool :=
    isOverridable d && active.any fun t => «matches» t d
  { kept := ds.filter fun d => !suppressed d
    overridden := ds.filter suppressed
    issues := overrides.zipIdx.flatMap (issuesOf policy today overrides.length) }

end Override

end Conformance
