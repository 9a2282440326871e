/-! The catalogue of rules that a constraint can state. -/
namespace Conformance

inductive Rule where
  | mustExtend
  | implements
  | forbidImport
  | requireImport
  | allowImport
  | requireDecorator
  | forbidDecorator
  | namingPattern
  | locationPattern
  | maxFileLines
  | maxPublicMethods
  | requireTestFile
  | importableBy
  | forbidCircularDeps
  | forbidCall
  | requireCall
  | requireTryCatch
  | requireCallBefore
  | forbidMutation
  | forbidPattern
  | requirePattern
  | allowPattern
  | requireOneOf
  | maxFunctionLines
  | requireExport
  | requireCompanionFile
  | requireCoverage
  | requireIntent
  | verifyIntent
  deriving DecidableEq, Repr, Inhabited

namespace Rule

/-- Every rule, in catalogue order. -/
def all : List Rule := [
  .mustExtend, .implements, .forbidImport, .requireImport, .allowImport,
  .requireDecorator, .forbidDecorator, .namingPattern, .locationPattern, .maxFileLines,
  .maxPublicMethods, .requireTestFile, .importableBy, .forbidCircularDeps, .forbidCall,
  .requireCall, .requireTryCatch, .requireCallBefore, .forbidMutation, .forbidPattern,
  .requirePattern, .allowPattern, .requireOneOf, .maxFunctionLines, .requireExport,
  .requireCompanionFile, .requireCoverage, .requireIntent, .verifyIntent]

def name : Rule → String
  | .mustExtend => "must_extend"
  | .implements => "implements"
  | .forbidImport => "forbid_import"
  | .requireImport => "require_import"
  | .allowImport => "allow_import"
  | .requireDecorator => "require_decorator"
  | .forbidDecorator => "forbid_decorator"
  | .namingPattern => "naming_pattern"
  | .locationPattern => "location_pattern"
  | .maxFileLines => "max_file_lines"
  | .maxPublicMethods => "max_public_methods"
  | .requireTestFile => "require_test_file"
  | .importableBy => "importable_by"
  | .forbidCircularDeps => "forbid_circular_deps"
  | .forbidCall => "forbid_call"
  | .requireCall => "require_call"
  | .requireTryCatch => "require_try_catch"
  | .requireCallBefore => "require_call_before"
  | .forbidMutation => "forbid_mutation"
  | .forbidPattern => "forbid_pattern"
  | .requirePattern => "require_pattern"
  | .allowPattern => "allow_pattern"
  | .requireOneOf => "require_one_of"
  | .maxFunctionLines => "max_function_lines"
  | .requireExport => "require_export"
  | .requireCompanionFile => "require_companion_file"
  | .requireCoverage => "require_coverage"
  | .requireIntent => "require_intent"
  | .verifyIntent => "verify_intent"

def ofName? (name : String) : Option Rule := all.find? fun r => r.name == name

/-- The code of a rule's own findings. -/
def code : Rule → String
  | .mustExtend => "E001"
  | .implements => "E002"
  | .forbidImport => "E003"
  | .requireImport => "E004"
  | .allowImport => "E005"
  | .requireDecorator => "E006"
  | .forbidDecorator => "E007"
  | .namingPattern => "E008"
  | .locationPattern => "E009"
  | .maxFileLines => "E010"
  | .maxPublicMethods => "E011"
  | .requireTestFile => "E012"
  | .importableBy => "E013"
  | .forbidCircularDeps => "E014"
  | .forbidCall => "E015"
  | .requireCall => "E016"
  | .requireTryCatch => "E017"
  | .requireCallBefore => "E018"
  | .forbidMutation => "E019"
  | .forbidPattern => "E020"
  | .requirePattern => "E021"
  | .allowPattern => "E022"
  | .requireOneOf => "E023"
  | .maxFunctionLines => "E024"
  | .requireExport => "E025"
  | .requireCompanionFile => "E026"
  | .requireCoverage => "E027"
  | .requireIntent => "E028"
  | .verifyIntent => "I002"

/-- Rules of which a flattened architecture keeps at most one constraint. -/
def isSingleton : Rule → Bool
  | .maxFileLines | .maxPublicMethods | .maxFunctionLines | .namingPattern
  | .locationPattern | .mustExtend => true
  | _ => false

/-- The rule whose inherited entries a rule takes away. -/
def negates? : Rule → Option Rule
  | .allowImport => some .forbidImport
  | .allowPattern => some .forbidPattern
  | _ => none

end Rule

end Conformance
