import Conformance.Validator.Calls
import Conformance.Validator.Content
import Conformance.Validator.Coverage
import Conformance.Validator.Declarations
import Conformance.Validator.Intents

/-! The validators by rule. -/
namespace Conformance

/-- The validator of a rule. -/
def Rule.validator : Rule → Validator
  | .mustExtend => Validator.mustExtend
  | .implements => Validator.implements
  | .forbidImport => Validator.forbidImport
  | .requireImport => Validator.requireImport
  | .allowImport => Validator.allowImport
  | .requireDecorator => Validator.requireDecorator
  | .forbidDecorator => Validator.forbidDecorator
  | .namingPattern => Validator.namingPattern
  | .locationPattern => Validator.locationPattern
  | .maxFileLines => Validator.maxFileLines
  | .maxPublicMethods => Validator.maxPublicMethods
  | .requireTestFile => Validator.requireTestFile
  | .importableBy => Validator.importableBy
  | .forbidCircularDeps => Validator.forbidCircularDeps
  | .forbidCall => Validator.forbidCall
  | .requireCall => Validator.requireCall
  | .requireTryCatch => Validator.requireTryCatch
  | .requireCallBefore => Validator.requireCallBefore
  | .forbidMutation => Validator.forbidMutation
  | .forbidPattern => Validator.forbidPattern
  | .requirePattern => Validator.requirePattern
  | .allowPattern => Validator.allowPattern
  | .requireOneOf => Validator.requireOneOf
  | .maxFunctionLines => Validator.maxFunctionLines
  | .requireExport => Validator.requireExport
  | .requireCompanionFile => Validator.requireCompanionFile
  | .requireCoverage => Validator.requireCoverage
  | .requireIntent => Validator.requireIntent
  | .verifyIntent => Validator.verifyIntent

/-- Validators in use, at most one for a rule. -/
structure Catalogue where
  entries : List (Rule × Validator)

namespace Catalogue

def empty : Catalogue := { entries := [] }

/-- Every rule with its validator. -/
def builtin : Catalogue := { entries := Rule.all.map fun r => (r, r.validator) }

/-- Add a validator, in place of the one its rule had. -/
def register (k : Catalogue) (rule : Rule) (v : Validator) : Catalogue :=
  { entries := k.entries.filter (fun entry => entry.1 ≠ rule) ++ [(rule, v)] }

/-- The entry for the name of a rule. -/
def find? (k : Catalogue) (name : String) : Option (Rule × Validator) :=
  k.entries.find? fun entry => entry.1.name = name

def size (k : Catalogue) : Nat := k.entries.length

def isEmpty (k : Catalogue) : Bool := k.entries.isEmpty

/-- A rule that has no validator is worth a warning. -/
def unknownRule (c : Constraint) : Diagnostic :=
  { Diagnostic.system Code.unknownRule c.rule .warning
      ("no validator is registered for rule '" ++ c.rule ++ "'")
      "Check the rule name in the registry" with value := c.value }

/-- A validator that broke down. -/
def breakdown (c : Constraint) : Diagnostic :=
  { Diagnostic.system Code.malformedConstraint c.rule .error
      ("validator for '" ++ c.rule ++ "' failed on this file")
      "Report this as a bug together with the file and constraint" with value := c.value }

/-- Check one constraint. There is always a verdict. -/
def run (k : Catalogue) (c : Constraint) (ctx : FileContext) : Verdict :=
  match k.find? c.rule with
  | none => .fail (unknownRule c)
  | some (_, v) => (v c ctx).getD (.fail (breakdown c))

end Catalogue

end Conformance
