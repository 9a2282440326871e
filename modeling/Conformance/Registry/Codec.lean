import Conformance.Constraint.Codec
import Conformance.Document.JsonWriter
import Conformance.Registry.Basic
import Conformance.Sha256
import Conformance.Toml.Reader

/-! Registry files as TOML, and the canonical form of a registry with its checksum. -/
namespace Conformance

namespace MixinRef

/-- A name alone, or a record with parameters. All of it is held while the two are tried. -/
def ofDocument? (d : Document) : Option MixinRef :=
  match d with
  | .text name => some (named name)
  | .record _ => do
    if !d.isHoldable then none
    let fields ← d.fields? ["name", "params"]
    return withParams (← fields.required "name" Document.text?)
      (← fields.withDefault "params" ∅ (Document.dict? Document.text?))
  | _ => none

def toDocument : MixinRef → Document
  | named name => .text name
  | withParams name params =>
    .record [("name", .text name), ("params", .ofDict .text params)]

end MixinRef

namespace ArchitectureNode

def ofDocument? (d : Document) : Option ArchitectureNode := do
  let fields ← d.fieldsIn? .toml ["inherits", "mixins", "constraints", "hints", "description",
    "rationale", "deprecated_from", "migration_guide"]
  return {
    inherits := ← fields.optional "inherits" Document.text?
    mixins := ← fields.withDefault "mixins" [] (Document.list? MixinRef.ofDocument?)
    constraints :=
      ← fields.withDefault "constraints" [] (Document.list? (Constraint.ofDocument? .toml))
    hints := ← fields.withDefault "hints" [] Document.texts?
    description := ← fields.optional "description" Document.text?
    rationale := ← fields.optional "rationale" Document.text?
    deprecatedFrom := ← fields.optional "deprecated_from" Document.text?
    migrationGuide := ← fields.optional "migration_guide" Document.text? }

def toDocument (n : ArchitectureNode) : Document := .record [
  ("inherits", .ofOptionText n.inherits),
  ("mixins", .list (n.mixins.map MixinRef.toDocument)),
  ("constraints", .list (n.constraints.map Constraint.toDocument)),
  ("hints", .ofTexts n.hints),
  ("description", .ofOptionText n.description),
  ("rationale", .ofOptionText n.rationale),
  ("deprecated_from", .ofOptionText n.deprecatedFrom),
  ("migration_guide", .ofOptionText n.migrationGuide)]

end ArchitectureNode

namespace Mixin

def ofDocument? (d : Document) : Option Mixin := do
  let fields ← d.fieldsIn? .toml ["description", "constraints", "hints"]
  return {
    description := ← fields.optional "description" Document.text?
    constraints :=
      ← fields.withDefault "constraints" [] (Document.list? (Constraint.ofDocument? .toml))
    hints := ← fields.withDefault "hints" [] Document.texts? }

def toDocument (m : Mixin) : Document := .record [
  ("description", .ofOptionText m.description),
  ("constraints", .list (m.constraints.map Constraint.toDocument)),
  ("hints", .ofTexts m.hints)]

end Mixin

namespace IntentDefinition

def ofDocument? (d : Document) : Option IntentDefinition := do
  let fields ← d.fieldsIn? .toml ["description", "category", "requires", "forbids", "conflicts_with",
    "requires_intent"]
  return {
    description := ← fields.optional "description" Document.text?
    category := ← fields.optional "category" Document.text?
    requires := ← fields.withDefault "requires" [] Document.texts?
    forbids := ← fields.withDefault "forbids" [] Document.texts?
    conflictsWith := ← fields.withDefault "conflicts_with" [] Document.texts?
    requiresIntent := ← fields.withDefault "requires_intent" [] Document.texts? }

def toDocument (i : IntentDefinition) : Document := .record [
  ("description", .ofOptionText i.description),
  ("category", .ofOptionText i.category),
  ("requires", .ofTexts i.requires),
  ("forbids", .ofTexts i.forbids),
  ("conflicts_with", .ofTexts i.conflictsWith),
  ("requires_intent", .ofTexts i.requiresIntent)]

end IntentDefinition

def RegistryFile.ofDocument? (d : Document) : Option RegistryFile := do
  let fields ← d.fieldsIn? .toml ["architectures", "mixins", "intents"]
  return {
    architectures :=
      ← fields.withDefault "architectures" ∅ (Document.dict? ArchitectureNode.ofDocument?)
    mixins := ← fields.withDefault "mixins" ∅ (Document.dict? Mixin.ofDocument?)
    intents := ← fields.withDefault "intents" ∅ (Document.dict? IntentDefinition.ofDocument?) }

/-- Read a registry file. -/
def RegistryFile.read? (toml : String) : Option RegistryFile :=
  (Toml.read? toml).bind RegistryFile.ofDocument?

def RegistryIssue.toDocument (i : RegistryIssue) : Document :=
  .record [("path", .text i.path), ("message", .text i.message)]

namespace Registry

/-- Merge a file given as text; a file that cannot be read merges nothing. -/
def mergeText? (r : Registry) (path toml : String) : Option Registry :=
  (RegistryFile.read? toml).map (r.merge path)

/-- All definitions in a fixed order, without where they come from. -/
def toDocument (r : Registry) : Document := .record [
  ("nodes", .ofDict ArchitectureNode.toDocument r.nodes),
  ("mixins", .ofDict Mixin.toDocument r.mixins),
  ("intents", .record [("intents", .ofDict IntentDefinition.toDocument r.intents)])]

/-- The text whose digest is the checksum. -/
def canonicalText (r : Registry) : String := Json.write r.toDocument

def checksum (r : Registry) : String := Sha256.ofText r.canonicalText

end Registry

end Conformance
