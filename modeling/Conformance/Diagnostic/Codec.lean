import Conformance.Diagnostic.Basic
import Conformance.Constraint.Codec

/-! Diagnostics and file results as documents. -/
namespace Conformance

namespace Suggestion

/-- The action and a document with the other fields; in a list the action comes first. -/
def actionOf? (d : Document) : Option (String × Document) :=
  match d with
  | .list (action :: rest) => action.text?.map fun a => (a, .list rest)
  | _ => do return (← (← d.fields? ["action"]).required "action" Document.text?, d)

/-- The action names the kind of change; the other fields belong to it, and all are held until
it is known. -/
def ofDocument? (d : Document) : Option Suggestion := do
  if !d.isHoldable then none
  let (action, rest) ← actionOf? d
  let one (name : String) : Option String := do
    (← rest.fields? [name]).required name Document.text?
  match action with
  | "replace_import" =>
    let fields ← rest.fields? ["from", "to"]
    return .replaceImport (← fields.required "from" Document.text?)
      (← fields.required "to" Document.text?)
  | "remove_import" => (one "module").map .removeImport
  | "add_import" => (one "module").map .addImport
  | "add_decorator" => (one "name").map .addDecorator
  | "rename_file" => (one "pattern").map .renameFile
  | "create_file" => (one "path").map .createFile
  | _ => none

def toDocument : Suggestion → Document
  | .replaceImport old new => .record [("action", .text "replace_import"), ("from", .text old),
      ("to", .text new)]
  | .removeImport m => .record [("action", .text "remove_import"), ("module", .text m)]
  | .addImport m => .record [("action", .text "add_import"), ("module", .text m)]
  | .addDecorator n => .record [("action", .text "add_decorator"), ("name", .text n)]
  | .renameFile p => .record [("action", .text "rename_file"), ("pattern", .text p)]
  | .createFile p => .record [("action", .text "create_file"), ("path", .text p)]

end Suggestion

namespace Diagnostic

def ofDocument? (d : Document) : Option Diagnostic := do
  let fields ← d.fields? ["code", "rule", "value", "severity", "line", "column", "message",
    "fix_hint", "source", "suggestion", "did_you_mean"]
  return {
    code := ← fields.required "code" Document.text?
    rule := ← fields.required "rule" Document.text?
    value := ← fields.required "value" ConstraintValue.ofDocument?
    severity := ← fields.required "severity" (Severity.ofDocument? .json)
    line := ← fields.nullable "line" Document.nat?
    column := ← fields.nullable "column" Document.nat?
    message := ← fields.required "message" Document.text?
    fixHint := ← fields.required "fix_hint" Document.text?
    source := ← fields.nullable "source" Document.text?
    suggestion := ← fields.optional "suggestion" Suggestion.ofDocument?
    didYouMean := ← fields.optional "did_you_mean" Document.text? }

def toDocument (d : Diagnostic) : Document := .recordOf [
  some ("code", .text d.code),
  some ("rule", .text d.rule),
  some ("value", d.value.toDocument),
  some ("severity", d.severity.toDocument),
  some ("line", .ofOption .ofNat d.line),
  some ("column", .ofOption .ofNat d.column),
  some ("message", .text d.message),
  some ("fix_hint", .text d.fixHint),
  some ("source", .ofOptionText d.source),
  Document.whenSome "suggestion" Suggestion.toDocument d.suggestion,
  Document.whenSome "did_you_mean" .text d.didYouMean]

end Diagnostic

namespace FileStatus

def ofDocument? (d : Document) : Option FileStatus :=
  match d.choice? .json with
  | some "pass" => some .pass
  | some "warn" => some .warn
  | some "fail" => some .fail
  | _ => none

def toDocument (s : FileStatus) : Document := .text s.name

end FileStatus

namespace FileResult

def ofDocument? (d : Document) : Option FileResult := do
  let fields ← d.fields? ["path", "arch_id", "status", "violations", "warnings", "overridden",
    "overrides_count", "imports", "from_cache"]
  return {
    path := ← fields.required "path" Document.text?
    archId := ← fields.nullable "arch_id" Document.text?
    status := ← fields.required "status" FileStatus.ofDocument?
    violations := ← fields.required "violations" (Document.list? Diagnostic.ofDocument?)
    warnings := ← fields.required "warnings" (Document.list? Diagnostic.ofDocument?)
    overridden := ← fields.required "overridden" (Document.list? Diagnostic.ofDocument?)
    overridesCount := ← fields.required "overrides_count" Document.nat?
    imports := ← fields.required "imports" Document.texts?
    fromCache := ← fields.withDefault "from_cache" false Document.bool? }

def toDocument (r : FileResult) : Document := .record [
  ("path", .text r.path),
  ("arch_id", .ofOptionText r.archId),
  ("status", r.status.toDocument),
  ("violations", .list (r.violations.map Diagnostic.toDocument)),
  ("warnings", .list (r.warnings.map Diagnostic.toDocument)),
  ("overridden", .list (r.overridden.map Diagnostic.toDocument)),
  ("overrides_count", .ofNat r.overridesCount),
  ("imports", .ofTexts r.imports),
  ("from_cache", .bool r.fromCache)]

end FileResult

end Conformance
