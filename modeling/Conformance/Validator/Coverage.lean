import Conformance.Glob
import Conformance.Validator.Placement

/-! Coverage: every value that a file declares has to be handled somewhere in a set of other
files. -/
namespace Conformance.Validator

/-- Stands for a value in the pattern of its target. -/
def valuePlaceholder : String := "$\x7bvalue\x7d"

/-- Characters with a meaning in expressions. -/
def isMeta (c : Char) : Bool :=
  ['\\', '.', '+', '*', '?', '(', ')', '|', '[', ']', '\x7b', '\x7d', '^', '$', '#', '&', '-',
    '~'].contains c

/-- An expression that matches a text alone. -/
def escapePattern (text : String) : String :=
  String.ofList (text.toList.flatMap fun c => if isMeta c then ['\\', c] else [c])

/-- What a coverage value says to gather, or why it says nothing. -/
def gatheredValues (spec : CoverageSpec) (ctx : FileContext) : Except String (List String) :=
  match spec.sourceType with
  | "export" | "exports" => .ok (ctx.model.exports.map (·.name))
  | "function" | "functions" => .ok (ctx.model.functions.map (·.name))
  | "class" | "classes" => .ok (ctx.model.classes.map (·.name))
  | "file_name" => .ok ((Text.splitOn '.' (fileName ctx.filePath)).take 1)
  | "pattern" =>
    match spec.sourcePattern with
    | none => .error "source_type 'pattern' needs a source_pattern"
    | some pattern =>
      (Pattern.captures ctx.limits pattern ctx.content).mapError fun why =>
        "source_pattern rejected: " ++ why.message
  | other => .error ("unknown source_type '" ++ other ++ "'")

/-- The values to cover, sorted, each once. -/
def sourceValues (spec : CoverageSpec) (ctx : FileContext) : Except String (List String) :=
  (gatheredValues spec ctx).map fun values =>
    sortedDistinct (values.filter fun v => v ≠ "" ∧ v ≠ "default")

/-- The pattern that shows a value to be handled. -/
def targetPattern (spec : CoverageSpec) (value : String) : String :=
  if Text.contains spec.targetPattern valuePlaceholder then
    Text.replaceAll valuePlaceholder (escapePattern value) spec.targetPattern
  else escapePattern value

/-- The texts of the files that values are looked for in. -/
def targetTexts (spec : CoverageSpec) (ctx : FileContext) : List String :=
  let targets := ctx.project.files.keys.filter fun p =>
    p ≠ ctx.filePath && Glob.matchPath spec.inTargetFiles p
  targets.filterMap ctx.project.content?

/-- Whether a pattern matches one of several texts. -/
def matchesAny (limits : PatternLimits) (pattern : String) :
    List String → Except Pattern.Rejection Bool
  | [] => .ok false
  | text :: rest =>
    match Pattern.isMatch limits pattern text with
    | .error why => .error why
    | .ok true => .ok true
    | .ok false => matchesAny limits pattern rest

/-- The values that nothing covers. A refused pattern ends the search. -/
def uncovered (c : Constraint) (spec : CoverageSpec) (limits : PatternLimits)
    (texts : List String) : List String → List Diagnostic
  | [] => []
  | value :: rest =>
    match matchesAny limits (targetPattern spec value) texts with
    | .error why => [rejection c spec.targetPattern why]
    | .ok true => uncovered c spec limits texts rest
    | .ok false =>
      .ofConstraint Rule.requireCoverage.code c (.text value)
        ("'" ++ value ++ "' is not covered by any file matching '" ++ spec.inTargetFiles ++ "'")
        ("Handle '" ++ value ++ "' in one of the target files (" ++ spec.targetPattern ++ ")") ::
      uncovered c spec limits texts rest

def requireCoverage : Validator := fun c ctx =>
  some (match c.value with
    | .coverage spec =>
      match sourceValues spec ctx with
      | .error message => .fail (.ofConstraint Code.malformedConstraint c c.value message
          "Fix the coverage table in the registry")
      | .ok values => .ofViolations (uncovered c spec ctx.limits (targetTexts spec ctx) values)
    | _ => invalidValue c
        "a coverage table \x7b source_type, target_pattern, in_target_files \x7d")

end Conformance.Validator
