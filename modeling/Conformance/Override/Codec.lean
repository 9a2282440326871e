import Conformance.Audit
import Conformance.Constraint.Codec
import Conformance.Override.Policy
import Conformance.Tag.Codec

/-! Override policies, checks and audits as documents. -/
namespace Conformance

namespace OverridePolicy

def ofDocument? (format : Format) (d : Document) : Option OverridePolicy := do
  let fields ← d.fieldsIn? format ["required_fields", "warn_no_expiry", "max_expiry_days",
    "fail_on_expired", "max_per_file"]
  let absent : OverridePolicy := {}
  return {
    requiredFields := ← fields.withDefault "required_fields" absent.requiredFields Document.texts?
    warnNoExpiry := ← fields.withDefault "warn_no_expiry" absent.warnNoExpiry Document.bool?
    maxExpiryDays := ← fields.withDefault "max_expiry_days" absent.maxExpiryDays Document.int64?
    failOnExpired := ← fields.withDefault "fail_on_expired" absent.failOnExpired Document.bool?
    maxPerFile := ← fields.withDefault "max_per_file" absent.maxPerFile Document.nat? }

def toDocument (p : OverridePolicy) : Document := .record [
  ("required_fields", .ofTexts p.requiredFields),
  ("warn_no_expiry", .bool p.warnNoExpiry),
  ("max_expiry_days", .int p.maxExpiryDays),
  ("fail_on_expired", .bool p.failOnExpired),
  ("max_per_file", .ofNat p.maxPerFile)]

end OverridePolicy

def OverrideIssue.toDocument (i : OverrideIssue) : Document :=
  .record [("code", .text i.code), ("message", .text i.message)]

def OverrideCheck.toDocument (c : OverrideCheck) : Document := .record [
  ("valid", .bool c.valid),
  ("suppresses", .bool c.suppresses),
  ("errors", .list (c.errors.map OverrideIssue.toDocument)),
  ("warnings", .list (c.warnings.map OverrideIssue.toDocument))]

namespace OverrideRecord

def ofDocument? (d : Document) : Option OverrideRecord := do
  let fields ← d.fields? ["path", "tag"]
  return {
    path := ← fields.required "path" Document.text?
    tag := ← fields.required "tag" OverrideTag.ofDocument? }

def toDocument (r : OverrideRecord) : Document :=
  .record [("path", .text r.path), ("tag", r.tag.toDocument)]

end OverrideRecord

namespace OverrideState

def ofDocument? (d : Document) : Option OverrideState :=
  match d.choice? .json with
  | some "active" => some .active
  | some "expiring_soon" => some .expiringSoon
  | some "expired" => some .expired
  | some "no_expiry" => some .noExpiry
  | some "invalid" => some .invalid
  | _ => none

def toDocument : OverrideState → Document
  | .active => .text "active"
  | .expiringSoon => .text "expiring_soon"
  | .expired => .text "expired"
  | .noExpiry => .text "no_expiry"
  | .invalid => .text "invalid"

end OverrideState

namespace AuditEntry

def ofDocument? (d : Document) : Option AuditEntry := do
  let fields ← d.fields? ["path", "line", "key", "state", "reason", "expires", "days_left"]
  return {
    path := ← fields.required "path" Document.text?
    line := ← fields.required "line" Document.nat?
    key := ← fields.required "key" Document.text?
    state := ← fields.required "state" OverrideState.ofDocument?
    reason := ← fields.nullable "reason" Document.text?
    expires := ← fields.nullable "expires" Document.text?
    daysLeft := ← fields.nullable "days_left" Document.int64? }

def toDocument (e : AuditEntry) : Document := .record [
  ("path", .text e.path),
  ("line", .ofNat e.line),
  ("key", .text e.key),
  ("state", e.state.toDocument),
  ("reason", .ofOptionText e.reason),
  ("expires", .ofOptionText e.expires),
  ("days_left", .ofOption .int e.daysLeft)]

end AuditEntry

namespace AuditTotals

def ofDocument? (d : Document) : Option AuditTotals := do
  let fields ← d.fields? ["total", "active", "expiring_soon", "expired", "missing_expiry",
    "invalid"]
  return {
    total := ← fields.required "total" Document.nat?
    active := ← fields.required "active" Document.nat?
    expiringSoon := ← fields.required "expiring_soon" Document.nat?
    expired := ← fields.required "expired" Document.nat?
    missingExpiry := ← fields.required "missing_expiry" Document.nat?
    invalid := ← fields.required "invalid" Document.nat? }

def toDocument (t : AuditTotals) : Document := .record [
  ("total", .ofNat t.total),
  ("active", .ofNat t.active),
  ("expiring_soon", .ofNat t.expiringSoon),
  ("expired", .ofNat t.expired),
  ("missing_expiry", .ofNat t.missingExpiry),
  ("invalid", .ofNat t.invalid)]

end AuditTotals

namespace OverrideCluster

def ofDocument? (d : Document) : Option OverrideCluster := do
  let fields ← d.fields? ["key", "rule", "value", "files", "reasons", "suggested_intent"]
  return {
    key := ← fields.required "key" Document.text?
    rule := ← fields.required "rule" Document.text?
    value := ← fields.required "value" Document.text?
    files := ← fields.required "files" Document.texts?
    reasons := ← fields.required "reasons" Document.texts?
    suggestedIntent := ← fields.required "suggested_intent" Document.text? }

def toDocument (c : OverrideCluster) : Document := .record [
  ("key", .text c.key),
  ("rule", .text c.rule),
  ("value", .text c.value),
  ("files", .ofTexts c.files),
  ("reasons", .ofTexts c.reasons),
  ("suggested_intent", .text c.suggestedIntent)]

end OverrideCluster

namespace AuditReport

/-- A report in a document also says when it was made. -/
def ofDocument? (d : Document) : Option AuditReport := do
  let fields ← d.fields? ["generated_at", "totals", "entries", "clusters"]
  let _ ← fields.required "generated_at" Document.text?
  return {
    totals := ← fields.required "totals" AuditTotals.ofDocument?
    entries := ← fields.required "entries" (Document.list? AuditEntry.ofDocument?)
    clusters := ← fields.required "clusters" (Document.list? OverrideCluster.ofDocument?) }

/-- The report, with the time it was made if that is to be told. -/
def toDocument (r : AuditReport) (generatedAt : Option String := none) : Document := .recordOf [
  Document.whenSome "generated_at" .text generatedAt,
  some ("totals", r.totals.toDocument),
  some ("entries", .list (r.entries.map AuditEntry.toDocument)),
  some ("clusters", .list (r.clusters.map OverrideCluster.toDocument))]

end AuditReport

end Conformance
