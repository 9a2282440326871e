import Conformance.Tag.Basic
import Conformance.Document.Basic

/-! Tags as documents. -/
namespace Conformance

def ArchTag.toDocument (t : ArchTag) : Document :=
  .record [("id", .text t.id), ("line", .ofNat t.line)]

namespace OverrideTag

def ofDocument? (d : Document) : Option OverrideTag := do
  let fields ← d.fields? ["rule", "value", "reason", "expires", "ticket", "approved_by", "line"]
  return {
    rule := ← fields.required "rule" Document.text?
    value := ← fields.required "value" Document.text?
    reason := ← fields.nullable "reason" Document.text?
    expires := ← fields.nullable "expires" Document.text?
    ticket := ← fields.nullable "ticket" Document.text?
    approvedBy := ← fields.nullable "approved_by" Document.text?
    line := ← fields.required "line" Document.nat? }

def toDocument (t : OverrideTag) : Document := .record [
  ("rule", .text t.rule),
  ("value", .text t.value),
  ("reason", .ofOptionText t.reason),
  ("expires", .ofOptionText t.expires),
  ("ticket", .ofOptionText t.ticket),
  ("approved_by", .ofOptionText t.approvedBy),
  ("line", .ofNat t.line)]

end OverrideTag

namespace IntentScope

def ofDocument? : Document → Option IntentScope
  | .text "File" | .record [("File", .null)] => some .file
  | .record [("Function", d)] => (d.nullable? Document.text?).map .function
  | _ => none

def toDocument : IntentScope → Document
  | .file => .text "File"
  | .function name => .record [("Function", .ofOptionText name)]

end IntentScope

namespace IntentTag

def ofDocument? (d : Document) : Option IntentTag := do
  let fields ← d.fields? ["name", "line", "scope"]
  return {
    name := ← fields.required "name" Document.text?
    line := ← fields.required "line" Document.nat?
    scope := ← fields.required "scope" IntentScope.ofDocument? }

def toDocument (i : IntentTag) : Document := .record [
  ("name", .text i.name),
  ("line", .ofNat i.line),
  ("scope", i.scope.toDocument)]

end IntentTag

def TagError.toDocument (e : TagError) : Document := .record [
  ("code", .text e.problem.code),
  ("line", .ofNat e.line),
  ("message", .text e.problem.message)]

def SourceTags.toDocument (t : SourceTags) : Document := .record [
  ("arch", .ofOption ArchTag.toDocument t.arch),
  ("overrides", .list (t.overrides.map OverrideTag.toDocument)),
  ("intents", .list (t.intents.map IntentTag.toDocument)),
  ("errors", .list (t.errors.map TagError.toDocument))]

end Conformance
