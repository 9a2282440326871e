import Conformance.Constraint.Codec
import Conformance.Resolution.Basic

/-! Flattened architectures as documents. -/
namespace Conformance

def Deprecation.toDocument (d : Deprecation) : Document := .record [
  ("since", .text d.since),
  ("migration_guide", .ofOptionText d.migrationGuide)]

def FlattenedArchitecture.toDocument (a : FlattenedArchitecture) : Document := .record [
  ("arch_id", .text a.archId),
  ("inheritance_chain", .ofTexts a.inheritanceChain),
  ("applied_mixins", .ofTexts a.appliedMixins),
  ("constraints", .list (a.constraints.map Constraint.toDocument)),
  ("hints", .ofTexts a.hints),
  ("description", .ofOptionText a.description),
  ("rationale", .ofOptionText a.rationale),
  ("deprecation", .ofOption Deprecation.toDocument a.deprecation)]

end Conformance
