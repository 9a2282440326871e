import Conformance.Override.Policy
import Conformance.Dict

/-! A survey of all overrides of a project: their state on a day and those that recur. -/
namespace Conformance

structure OverrideRecord where
  path : String
  tag : OverrideTag
  deriving DecidableEq, Repr, Inhabited

inductive OverrideState where
  | active
  | expiringSoon
  | expired
  | noExpiry
  | invalid
  deriving DecidableEq, Repr, Inhabited

structure AuditEntry where
  path : String
  line : Nat
  key : String
  state : OverrideState
  reason : Option String := none
  expires : Option String := none
  daysLeft : Option Int := none
  deriving DecidableEq, Repr, Inhabited

structure AuditTotals where
  total : Nat := 0
  active : Nat := 0
  expiringSoon : Nat := 0
  expired : Nat := 0
  missingExpiry : Nat := 0
  invalid : Nat := 0
  deriving DecidableEq, Repr, Inhabited

/-- One rule and value overridden in several files. -/
structure OverrideCluster where
  key : String
  rule : String
  value : String
  files : List String
  reasons : List String
  suggestedIntent : String
  deriving DecidableEq, Repr, Inhabited

structure AuditReport where
  totals : AuditTotals
  entries : List AuditEntry
  clusters : List OverrideCluster
  deriving DecidableEq, Repr, Inhabited

namespace Audit

/-- Overrides with at most this many days left expire soon. -/
def soonDays : Int := 30

/-- Fewer distinct files than this make no cluster. -/
def leastFiles : Nat := 2

def daysLeft? (t : OverrideTag) (today : Date) : Option Int :=
  (t.expires.bind Date.read?).map today.daysUntil

def state (t : OverrideTag) (policy : OverridePolicy) (today : Date) : OverrideState :=
  if !(policy.check t today).suppresses then .invalid
  else
    match daysLeft? t today with
    | none => .noExpiry
    | some days => if days < 0 then .expired else if days ≤ soonDays then .expiringSoon else .active

def entry (policy : OverridePolicy) (today : Date) (r : OverrideRecord) : AuditEntry where
  path := r.path
  line := r.tag.line
  key := r.tag.key
  state := state r.tag policy today
  reason := r.tag.reason
  expires := r.tag.expires
  daysLeft := daysLeft? r.tag today

/-- How many entries are in a state. -/
def inState (entries : List AuditEntry) (s : OverrideState) : Nat :=
  (entries.filter fun e => e.state = s).length

def totals (entries : List AuditEntry) : AuditTotals where
  total := entries.length
  active := inState entries .active + inState entries .expiringSoon + inState entries .noExpiry
  expiringSoon := inState entries .expiringSoon
  expired := inState entries .expired
  missingExpiry := inState entries .noExpiry
  invalid := inState entries .invalid

/-- ASCII letters in lower case and digits; each run of anything else is one hyphen, none at
either end. -/
def slug (raw : String) : String :=
  let step (out : List Char) (c : Char) : List Char :=
    if c.isAlphanum then c.toLower :: out
    else if out.head? = some '-' then out else '-' :: out
  let hyphens (s : List Char) := s.dropWhile (· == '-')
  String.ofList (hyphens ((hyphens (raw.toList.foldl step [])).reverse))

/-- An intent that could take the place of a recurring override. -/
def suggestIntent (rule value : String) : String :=
  match rule with
  | "forbid_import" => "uses-" ++ slug value
  | "forbid_call" => "calls-" ++ slug value
  | "forbid_mutation" => "mutates-" ++ slug value
  | "forbid_pattern" => "allows-pattern"
  | "max_file_lines" | "max_function_lines" => "large-module"
  | "max_public_methods" => "wide-interface"
  | "require_test_file" | "require_coverage" => "untested"
  | "importable_by" => "shared-internal"
  | _ => slug rule ++ "-" ++ slug value

/-- The cluster of the records with one key, if they lie in enough files. -/
def cluster? (key : String) (group : List OverrideRecord) : Option OverrideCluster :=
  let files := sortedDistinct (group.map (·.path))
  match group with
  | first :: _ =>
    if files.length < leastFiles then none
    else some {
      key
      rule := first.tag.rule
      value := first.tag.value
      files
      reasons := sortedDistinct (group.filterMap (·.tag.reason))
      suggestedIntent := suggestIntent first.tag.rule first.tag.value }
  | [] => none

/-- Most files first, equal numbers by key. -/
def clusterBefore (a b : OverrideCluster) : Bool :=
  a.files.length > b.files.length ||
    (a.files.length == b.files.length && decide (a.key ≤ b.key))

def clusters (records : List OverrideRecord) : List OverrideCluster :=
  let keys := sortedDistinct (records.map (·.tag.key))
  let found := keys.filterMap fun key =>
    cluster? key (records.filter fun r => r.tag.key == key)
  found.mergeSort clusterBefore

def report (records : List OverrideRecord) (policy : OverridePolicy) (today : Date) :
    AuditReport :=
  let entries := records.map (entry policy today)
  { totals := totals entries, entries, clusters := clusters records }

end Audit

end Conformance
