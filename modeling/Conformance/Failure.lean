import Conformance.Code
import Conformance.Resolution.Basic

/-! Failures of whole operations. -/
namespace Conformance

inductive Failure where
  /-- The file system refused. -/
  | io (reason : String)
  /-- A registry file that is no registry. -/
  | registry (path : String)
  /-- A configuration file that is no configuration. -/
  | config (path : String)
  | resolution (e : ResolutionError)
  /-- A stored model that cannot be read. -/
  | parse (path reason : String)
  | validation (reason : String)
  | pathTraversal (reason : String)
  | notFound (what : String)
  deriving DecidableEq, Repr, Inhabited

namespace Failure

def code : Failure → String
  | io _ | notFound _ => Code.unreadable
  | parse _ _ => Code.unparsed
  | registry _ | resolution _ | config _ => Code.unresolved
  | validation _ => Code.malformedConstraint
  | pathTraversal _ => Code.pathTraversal

def message : Failure → String
  | io reason => "I/O error: " ++ reason
  | registry path => "Registry error in " ++ path ++ ":"
  | config path => "Config error: " ++ path ++ ":"
  | resolution e => "Resolution error: " ++ e.message
  | parse path reason => "Parse error in " ++ path ++ ": " ++ reason
  | validation reason => "Validation error: " ++ reason
  | pathTraversal reason => "Path escapes project root: " ++ reason
  | notFound what => "Not found: " ++ what

end Failure

end Conformance
