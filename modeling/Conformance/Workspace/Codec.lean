import Conformance.Diagnostic.Codec
import Conformance.Workspace.Run

/-! Reports on a workspace as documents. -/
namespace Conformance

def CacheInfo.toDocument (i : CacheInfo) : Document := .record [
  ("path", .text i.path),
  ("exists", .bool i.isPresent),
  ("entries", .ofNat i.entries),
  ("stale", .bool i.stale)]

/-- The counts of a run and its length in milliseconds. -/
def RunSummary.toDocument (s : RunSummary) (duration : Nat) : Document := .record [
  ("files", .ofNat s.files),
  ("passed", .ofNat s.passed),
  ("warned", .ofNat s.warned),
  ("failed", .ofNat s.failed),
  ("errors", .ofNat s.errors),
  ("warnings", .ofNat s.warnings),
  ("overridden", .ofNat s.overridden),
  ("cached", .ofNat s.cached),
  ("duration_ms", .ofNat duration)]

def Memo.toDocument {κ α : Type} [DecidableEq κ] (m : Memo κ α) : Document := .record [
  ("entries", .ofNat m.size),
  ("hits", .ofNat m.hits),
  ("misses", .ofNat m.misses)]

/-- How much was remembered, and how often it was of use. -/
def Session.toDocument (s : Session) : Document := .record [
  ("content", s.contents.toDocument),
  ("tags", s.tags.toDocument),
  ("models", s.models.toDocument),
  ("modules", s.modules.toDocument),
  ("architectures", s.architectures.toDocument)]

def RunReport.toDocument (r : RunReport) (runId : String) (duration : Nat) : Document := .record [
  ("run_id", .text runId),
  ("results", .list (r.results.map FileResult.toDocument)),
  ("summary", r.summary.toDocument duration),
  ("cache", .ofOption CacheStats.toDocument r.cache),
  ("session", r.session.toDocument)]

end Conformance
