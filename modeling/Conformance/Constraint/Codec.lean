import Conformance.Constraint.Basic

/-! Constraints and their parts as documents. -/
namespace Conformance

namespace Document

/-- What may stand as the contents of a choice that has none. -/
def isVoid (format : Format) : Document → Bool
  | null => format = .json
  | list [] | record [] => format = .toml
  | _ => false

/-- The name of a choice without contents: alone, or in a record with void contents. -/
def choice? (format : Format) : Document → Option String
  | text s => some s
  | record [(name, contents)] => if contents.isVoid format then some name else none
  | _ => none

/-- Keep the fields that hold something. -/
def recordOf (fields : List (Option (String × Document))) : Document :=
  record (fields.filterMap id)

/-- A field that is left out when absent. -/
def whenSome {α : Type} (name : String) (value : α → Document) (a : Option α) :
    Option (String × Document) :=
  a.map fun a => (name, value a)

/-- A list field that is left out when empty. -/
def whenNonempty (name : String) (texts : List String) : Option (String × Document) :=
  if texts.isEmpty then none else some (name, ofTexts texts)

end Document

namespace Severity

def ofDocument? (format : Format) (d : Document) : Option Severity :=
  match d.choice? format with
  | some "error" => some .error
  | some "warning" => some .warning
  | _ => none

def toDocument (s : Severity) : Document := .text s.name

end Severity

namespace MatchMode

def ofDocument? (format : Format) (d : Document) : Option MatchMode :=
  match d.choice? format with
  | some "all" => some .all
  | some "any" => some .any
  | _ => none

def toDocument (m : MatchMode) : Document := .text m.name

end MatchMode

namespace CoverageSpec

def ofDocument? (d : Document) : Option CoverageSpec := do
  let fields ← d.fields? ["source_type", "source_pattern", "target_pattern", "in_target_files"]
  return {
    sourceType := ← fields.required "source_type" Document.text?
    sourcePattern := ← fields.optional "source_pattern" Document.text?
    targetPattern := ← fields.required "target_pattern" Document.text?
    inTargetFiles := ← fields.required "in_target_files" Document.text? }

def toDocument (spec : CoverageSpec) : Document := .record [
  ("source_type", .text spec.sourceType),
  ("source_pattern", .ofOptionText spec.sourcePattern),
  ("target_pattern", .text spec.targetPattern),
  ("in_target_files", .text spec.inTargetFiles)]

end CoverageSpec

namespace ConstraintValue

/-- The first shape that fits: number, text, list of texts, coverage. All of it is held while
the shapes are tried. -/
def ofDocument? (d : Document) : Option ConstraintValue :=
  if !d.isHoldable then none else (d.int64?.map number).or <|
    (d.text?.map text).or <|
      (d.texts?.map list).or ((CoverageSpec.ofDocument? d).map coverage)

def toDocument : ConstraintValue → Document
  | number n => .int n
  | text s => .text s
  | list items => .ofTexts items
  | coverage spec => spec.toDocument

end ConstraintValue

namespace Constraint

def fieldNames : List String := ["rule", "value", "severity", "why", "alternatives", "match",
  "exclude_comments", "around", "before", "unless", "source"]

def ofDocument? (format : Format) (d : Document) : Option Constraint := do
  let fields ← d.fieldsIn? format fieldNames
  return {
    rule := ← fields.required "rule" Document.text?
    value := ← fields.required "value" ConstraintValue.ofDocument?
    severity := ← fields.withDefault "severity" .error (Severity.ofDocument? format)
    why := ← fields.optional "why" Document.text?
    alternatives := ← fields.withDefault "alternatives" [] Document.texts?
    matchMode := ← fields.withDefault "match" .all (MatchMode.ofDocument? format)
    excludeComments := ← fields.withDefault "exclude_comments" false Document.bool?
    around := ← fields.withDefault "around" [] Document.texts?
    before := ← fields.withDefault "before" [] Document.texts?
    exempt := ← fields.withDefault "unless" [] Document.texts?
    source := ← fields.optional "source" Document.text? }

def toDocument (c : Constraint) : Document := .recordOf [
  some ("rule", .text c.rule),
  some ("value", c.value.toDocument),
  some ("severity", c.severity.toDocument),
  Document.whenSome "why" .text c.why,
  Document.whenNonempty "alternatives" c.alternatives,
  some ("match", c.matchMode.toDocument),
  some ("exclude_comments", .bool c.excludeComments),
  Document.whenNonempty "around" c.around,
  Document.whenNonempty "before" c.before,
  Document.whenNonempty "unless" c.exempt,
  Document.whenSome "source" .text c.source]

end Constraint

end Conformance
