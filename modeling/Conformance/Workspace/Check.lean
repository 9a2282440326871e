import Conformance.Override.Apply
import Conformance.Workspace.Basic

/-! Checking one file. -/
namespace Conformance

/-- A file with what its text and its model tell. -/
structure ParsedFile where
  path : String
  content : String
  checksum : String
  target : Bool
  tags : SourceTags
  model : Except Failure SourceModel
  /-- Project files that it imports, sorted, each once. -/
  imports : List String

namespace Workspace

def untagged : Diagnostic :=
  .system Code.untagged "arch" .warning "File has no @arch tag"
    "Add '// @arch <id>' to the file header"

/-- A file that names no architecture. -/
def checkUntagged (w : Workspace) (f : ParsedFile) : FileResult :=
  let advice := if w.config.validation.reportUntagged then [untagged] else []
  { FileResult.ofDiagnostics f.path none (f.tags.errors.map Override.ofTagError ++ advice) with
    imports := f.imports }

/-- The architecture of a file cannot be resolved. -/
def unresolved (w : Workspace) (tag : ArchTag) (e : ResolutionError) : Diagnostic :=
  let d := { Diagnostic.system Code.unresolved "arch" .error
      ("Cannot resolve @arch " ++ tag.id ++ ": " ++ e.message)
      "Fix the registry or the @arch tag" with value := .text tag.id }
  (d.onLine tag.line).meaning (match e with
    | .unknownArch id _ => w.registry.closestId? id
    | _ => none)

def unparsed (e : Failure) : Diagnostic :=
  .system Code.unparsed "parse" .error e.message "Fix the syntax error or the model sidecar"

/-- The architecture of a file is deprecated. -/
def deprecated (archId : String) (d : Deprecation) : Diagnostic :=
  { Diagnostic.system Code.deprecated "arch" .warning
      ("Architecture '" ++ archId ++ "' is deprecated since " ++ d.since)
      (d.migrationGuide.getD "Move the file to a supported architecture") with
    value := .text archId }

/-- A file with intents is checked for them, whether or not its architecture says so. -/
def implicitConstraints (archId : String) (a : FlattenedArchitecture) (intents : List IntentTag) :
    List Constraint :=
  if !intents.isEmpty && (a.constraintsFor .verifyIntent).isEmpty then
    [{ Constraint.ofRule .verifyIntent (.list []) with source := some archId }]
  else []

/-- All findings before overrides: of every constraint in turn, then about deprecation. -/
def findings (w : Workspace) (archId : String) (a : FlattenedArchitecture) (ctx : FileContext) :
    List Diagnostic :=
  ((a.constraints ++ implicitConstraints archId a ctx.intents).flatMap fun c =>
    (w.catalogue.run c ctx).violations) ++ (a.deprecation.map (deprecated archId)).toList

def contextOf (w : Workspace) (project : ProjectIndex) (f : ParsedFile) (archId : String)
    (model : SourceModel) : FileContext where
  filePath := f.path
  archId
  model
  content := f.content
  intents := f.tags.intents.map (IntentTag.bind model)
  intentRegistry := w.registry.intents
  project
  limits := w.config.patterns
  testFilePatterns := w.config.validation.testFilePatterns

/-- Check a file against its architecture. -/
def checkTagged (w : Workspace) (project : ProjectIndex) (f : ParsedFile) (tag : ArchTag)
    (flattened : Except ResolutionError FlattenedArchitecture) : FileResult :=
  let tagErrors := f.tags.errors.map Override.ofTagError
  match flattened, f.model with
  | .error e, _ => .ofDiagnostics f.path (some tag.id) (w.unresolved tag e :: tagErrors)
  | .ok _, .error e => .ofDiagnostics f.path (some tag.id) (unparsed e :: tagErrors)
  | .ok a, .ok model =>
    let found := w.findings tag.id a (w.contextOf project f tag.id model)
    let out := Override.apply found f.tags.overrides w.config.overrides w.today
    { FileResult.ofDiagnostics f.path (some tag.id) (out.kept ++ out.issues ++ tagErrors) with
      overridden := out.overridden
      overridesCount := out.overridden.length
      imports := f.imports }

end Workspace

end Conformance
