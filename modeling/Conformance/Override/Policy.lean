import Conformance.Date
import Conformance.Rule
import Conformance.Tag.Basic

/-! Policy on overrides: which fields they need and how long they may run. Form and missing
fields keep an override from suppressing anything; its expiry is only reported. -/
namespace Conformance

structure OverridePolicy where
  requiredFields : List String := ["reason"]
  warnNoExpiry : Bool := true
  maxExpiryDays : Int := 180
  failOnExpired : Bool := true
  /-- Zero means no limit. -/
  maxPerFile : Nat := 5
  deriving DecidableEq, Repr, Inhabited

/-- What can be said against an override. -/
inductive OverrideIssue where
  | unknownRule (rule : String)
  | missingField (key field : String)
  | noExpiry (key : String)
  | unreadableExpiry (raw : String)
  | expired (key : String) (date : Date)
  | expiryTooFar (key : String) (days allowed : Int)
  | limitExceeded (count allowed : Nat)
  deriving DecidableEq, Repr, Inhabited

namespace OverrideIssue

def code : OverrideIssue → String
  | unknownRule _ | unreadableExpiry _ => Code.overrideForm
  | missingField _ _ => Code.overrideField
  | noExpiry _ => Code.noExpiry
  | expired _ _ => Code.overrideExpired
  | expiryTooFar _ _ _ => Code.overrideTooLong
  | limitExceeded _ _ => Code.overrideLimit

def message : OverrideIssue → String
  | unknownRule rule => "override names unknown rule '" ++ rule ++ "'"
  | missingField key field => "override " ++ key ++ " is missing required @" ++ field
  | noExpiry key => "override " ++ key ++ " has no @expires date"
  | unreadableExpiry raw => "@expires '" ++ raw ++ "' is not an ISO date (YYYY-MM-DD)"
  | expired key date => "override " ++ key ++ " expired on " ++ date.toText
  | expiryTooFar key days allowed =>
    "override " ++ key ++ " expires in " ++ toString days ++ " days (policy allows at most " ++
      toString allowed ++ ")"
  | limitExceeded count allowed =>
    toString count ++ " overrides in one file; the limit is " ++ toString allowed

/-- Whether an issue keeps the override from suppressing. -/
def disables (i : OverrideIssue) : Bool :=
  i.code == Code.overrideForm || i.code == Code.overrideField

end OverrideIssue

namespace OverrideTag

/-- Rule and value in one text. -/
def key (t : OverrideTag) : String := t.rule ++ ":" ++ t.value

/-- Whether a field that a policy asks for is there; fields without a meaning always are. -/
def hasField (t : OverrideTag) (field : String) : Bool :=
  match field with
  | "reason" => t.reason.isSome
  | "expires" => t.expires.isSome
  | "ticket" => t.ticket.isSome
  | "approved_by" | "approvedBy" | "approved-by" => t.approvedBy.isSome
  | _ => true

end OverrideTag

/-- The errors and warnings of one override. -/
structure OverrideCheck where
  errors : List OverrideIssue := []
  warnings : List OverrideIssue := []
  deriving DecidableEq, Repr, Inhabited

namespace OverrideCheck

def valid (c : OverrideCheck) : Bool := c.errors.isEmpty

/-- Whether the override may suppress what it matches. -/
def suppresses (c : OverrideCheck) : Bool := !c.errors.any OverrideIssue.disables

end OverrideCheck

namespace OverridePolicy

/-- Errors of rule and fields. -/
def formErrors (policy : OverridePolicy) (t : OverrideTag) : List OverrideIssue :=
  (if (Rule.ofName? t.rule).isNone then [.unknownRule t.rule] else []) ++
    (policy.requiredFields.filter fun field => !t.hasField field).map (.missingField t.key)

/-- What the expiry of an override gives rise to on a day. -/
def expiryCheck (policy : OverridePolicy) (t : OverrideTag) (today : Date) : OverrideCheck :=
  match t.expires with
  | none => { warnings := if policy.warnNoExpiry then [.noExpiry t.key] else [] }
  | some raw =>
    match Date.read? raw with
    | none => { errors := [.unreadableExpiry raw] }
    | some date =>
      if date.day < today.day then
        if policy.failOnExpired then { errors := [.expired t.key date] }
        else { warnings := [.expired t.key date] }
      else
        let days := today.daysUntil date
        if days > policy.maxExpiryDays then
          { errors := [.expiryTooFar t.key days policy.maxExpiryDays] }
        else {}

/-- Check one override on a day. -/
def check (policy : OverridePolicy) (t : OverrideTag) (today : Date) : OverrideCheck :=
  let expiry := policy.expiryCheck t today
  { expiry with errors := policy.formErrors t ++ expiry.errors }

end OverridePolicy

end Conformance
