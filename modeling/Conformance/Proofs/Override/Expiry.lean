import Conformance.Proofs.Date
import Conformance.Proofs.Override.Suppression

/-! What is said about the expiry of an override as the days go by. Once it has run out it stays so, and
one that runs too long did so all along, while whether it suppresses anything is the same on every day
and whatever the policy says on expiry. -/
namespace Conformance

/-- The day an override runs to, if it gives one that can be read. -/
def OverrideTag.lastDay? (t : OverrideTag) : Option Date := t.expires.bind Date.read?

namespace OverrideIssue

/-- An issue is about the day that an override runs to. -/
def isDated (i : OverrideIssue) : Bool :=
  i.code == Code.overrideExpired || i.code == Code.overrideTooLong

@[simp] theorem isDated_expired (key : String) (date : Date) : (expired key date).isDated = true := rfl

@[simp] theorem isDated_expiryTooFar (key : String) (days allowed : Int) :
    (expiryTooFar key days allowed).isDated = true := rfl

@[simp] theorem code_expired (key : String) (date : Date) :
    (expired key date).code = Code.overrideExpired := rfl

@[simp] theorem code_expiryTooFar (key : String) (days allowed : Int) :
    (expiryTooFar key days allowed).code = Code.overrideTooLong := rfl

theorem tooLong_ne_expired : Code.overrideTooLong ≠ Code.overrideExpired := by decide

theorem isDated_of_code {i : OverrideIssue} {code : String} (coded : i.code = code)
    (dated : code = Code.overrideExpired ∨ code = Code.overrideTooLong) : i.isDated = true := by
  rw [isDated, coded]
  rcases dated with rfl | rfl <;> rfl

end OverrideIssue

namespace OverridePolicy

open OverrideIssue (tooLong_ne_expired isDated_of_code)

variable {policy : OverridePolicy} {t : OverrideTag} {today : Date}

/-- What there is to say on a day about the day that an override runs to. -/
def dated? (policy : OverridePolicy) (t : OverrideTag) (today : Date) : Option OverrideIssue :=
  t.lastDay?.bind fun last =>
    if last.day < today.day then some (.expired t.key last)
    else if policy.maxExpiryDays < today.daysUntil last then
      some (.expiryTooFar t.key (today.daysUntil last) policy.maxExpiryDays)
    else none

/-- Only an override that has run out may be let off with a warning. -/
def isError (policy : OverridePolicy) (i : OverrideIssue) : Bool :=
  policy.failOnExpired || i.code != Code.overrideExpired

@[simp] theorem isError_expired (key : String) (date : Date) :
    policy.isError (.expired key date) = policy.failOnExpired := Bool.or_false _

@[simp] theorem isError_expiryTooFar (key : String) (days allowed : Int) :
    policy.isError (.expiryTooFar key days allowed) = true := Bool.or_true _

/-- A code is reported on a day, as an error or a warning. -/
def Reports (policy : OverridePolicy) (t : OverrideTag) (today : Date) (code : String) : Prop :=
  ∃ i ∈ (policy.check t today).errors ++ (policy.check t today).warnings, i.code = code

private theorem formErrors_undated (policy : OverridePolicy) (t : OverrideTag) :
    (policy.formErrors t).filter OverrideIssue.isDated = [] := by
  rw [List.filter_eq_nil_iff]
  intro i member
  rcases List.mem_append.1 member with rule | field
  · split at rule
    · cases List.mem_singleton.1 rule
      exact Bool.false_ne_true
    · cases rule
  · obtain ⟨_, -, rfl⟩ := List.mem_map.1 field
    exact Bool.false_ne_true

private theorem expiryCheck_of_lastDay? {last : Date} (read : t.lastDay? = some last) :
    policy.expiryCheck t today =
      if last.day < today.day then
        if policy.failOnExpired then { errors := [.expired t.key last] }
        else { warnings := [.expired t.key last] }
      else if policy.maxExpiryDays < today.daysUntil last then
        { errors := [.expiryTooFar t.key (today.daysUntil last) policy.maxExpiryDays] }
      else {} := by
  obtain ⟨raw, given, read⟩ := Option.bind_eq_some_iff.1 read
  simp only [expiryCheck, given, read]

private theorem expiryCheck_undated (policy : OverridePolicy) (today : Date)
    (unread : t.lastDay? = none) :
    (policy.expiryCheck t today).errors.filter OverrideIssue.isDated = [] ∧
      (policy.expiryCheck t today).warnings.filter OverrideIssue.isDated = [] := by
  unfold expiryCheck
  unfold OverrideTag.lastDay? at unread
  cases given : t.expires with
  | none => cases policy.warnNoExpiry <;> exact ⟨rfl, rfl⟩
  | some raw =>
    rw [given, Option.bind_some] at unread
    simp only [unread]
    exact ⟨rfl, rfl⟩

/-- Of what is said about the expiry, the part about its day is an error or a warning as a whole. -/
theorem expiryCheck_dated (policy : OverridePolicy) (t : OverrideTag) (today : Date) :
    (policy.expiryCheck t today).errors.filter OverrideIssue.isDated =
        (policy.dated? t today).toList.filter policy.isError ∧
      (policy.expiryCheck t today).warnings.filter OverrideIssue.isDated =
        (policy.dated? t today).toList.filter fun i => !policy.isError i := by
  cases read : t.lastDay? with
  | none =>
    have nothing : policy.dated? t today = none := by rw [dated?, read, Option.bind_none]
    rw [nothing]
    exact expiryCheck_undated policy today read
  | some last =>
    rw [expiryCheck_of_lastDay? read, dated?, read, Option.bind_some]
    by_cases past : last.day < today.day
    · rw [if_pos past, if_pos past]
      cases fails : policy.failOnExpired <;> simp [fails]
    · rw [if_neg past, if_neg past]
      by_cases far : policy.maxExpiryDays < today.daysUntil last
      · rw [if_pos far, if_pos far]
        simp
      · rw [if_neg far, if_neg far]
        exact ⟨rfl, rfl⟩

theorem dated_errors (policy : OverridePolicy) (t : OverrideTag) (today : Date) :
    (policy.check t today).errors.filter OverrideIssue.isDated =
      (policy.dated? t today).toList.filter policy.isError := by
  rw [check, List.filter_append, formErrors_undated, List.nil_append]
  exact (expiryCheck_dated policy t today).1

theorem dated_warnings (policy : OverridePolicy) (t : OverrideTag) (today : Date) :
    (policy.check t today).warnings.filter OverrideIssue.isDated =
      (policy.dated? t today).toList.filter fun i => !policy.isError i :=
  (expiryCheck_dated policy t today).2

theorem mem_errors_dated {i : OverrideIssue} (dated : i.isDated = true) :
    i ∈ (policy.check t today).errors ↔ policy.dated? t today = some i ∧ policy.isError i = true := by
  have listed := congrArg (i ∈ ·) (dated_errors policy t today)
  simpa [List.mem_filter, dated] using listed

theorem mem_warnings_dated {i : OverrideIssue} (dated : i.isDated = true) :
    i ∈ (policy.check t today).warnings ↔
      policy.dated? t today = some i ∧ policy.isError i = false := by
  have listed := congrArg (i ∈ ·) (dated_warnings policy t today)
  simpa [List.mem_filter, dated] using listed

/-- What is said about the day is that it is past or too far ahead, never both. -/
theorem dated?_eq_some {i : OverrideIssue} : policy.dated? t today = some i ↔
    (∃ last, t.lastDay? = some last ∧ last.day < today.day ∧ i = .expired t.key last) ∨
      ∃ last, t.lastDay? = some last ∧ today.day ≤ last.day ∧
        policy.maxExpiryDays < today.daysUntil last ∧
        i = .expiryTooFar t.key (today.daysUntil last) policy.maxExpiryDays := by
  rw [dated?, Option.bind_eq_some_iff]
  constructor
  · rintro ⟨last, read, said⟩
    split at said
    · rename_i past
      exact .inl ⟨last, read, past, (Option.some.inj said).symm⟩
    · rename_i ahead
      split at said
      · rename_i far
        exact .inr ⟨last, read, Int.not_lt.1 ahead, far, (Option.some.inj said).symm⟩
      · cases said
  · rintro (⟨last, read, past, rfl⟩ | ⟨last, read, ahead, far, rfl⟩)
    · exact ⟨last, read, if_pos past⟩
    · exact ⟨last, read, by rw [if_neg (Int.not_lt.2 ahead), if_pos far]⟩

theorem reports_iff_dated? {code : String}
    (dated : code = Code.overrideExpired ∨ code = Code.overrideTooLong) :
    policy.Reports t today code ↔ ∃ i, policy.dated? t today = some i ∧ i.code = code := by
  constructor
  · rintro ⟨i, member, coded⟩
    have about := isDated_of_code coded dated
    rcases List.mem_append.1 member with error | warning
    · exact ⟨i, ((mem_errors_dated about).1 error).1, coded⟩
    · exact ⟨i, ((mem_warnings_dated about).1 warning).1, coded⟩
  · rintro ⟨i, said, coded⟩
    have about := isDated_of_code coded dated
    cases error : policy.isError i with
    | true => exact ⟨i, List.mem_append_left _ ((mem_errors_dated about).2 ⟨said, error⟩), coded⟩
    | false => exact ⟨i, List.mem_append_right _ ((mem_warnings_dated about).2 ⟨said, error⟩), coded⟩

/-- An override is reported as having run out on the days after its last one. -/
theorem reports_expired_iff : policy.Reports t today Code.overrideExpired ↔
    ∃ last, t.lastDay? = some last ∧ last.day < today.day := by
  rw [reports_iff_dated? (.inl rfl)]
  constructor
  · rintro ⟨i, said, coded⟩
    rcases dated?_eq_some.1 said with ⟨last, read, past, -⟩ | ⟨last, -, -, -, rfl⟩
    · exact ⟨last, read, past⟩
    · exact absurd coded tooLong_ne_expired
  · rintro ⟨last, read, past⟩
    exact ⟨_, dated?_eq_some.2 (.inl ⟨last, read, past, rfl⟩), rfl⟩

/-- An override is reported as running too long up to its last day, while that is too many days off. -/
theorem reports_tooLong_iff : policy.Reports t today Code.overrideTooLong ↔
    ∃ last, t.lastDay? = some last ∧ today.day ≤ last.day ∧
      policy.maxExpiryDays < today.daysUntil last := by
  rw [reports_iff_dated? (.inr rfl)]
  constructor
  · rintro ⟨i, said, coded⟩
    rcases dated?_eq_some.1 said with ⟨last, -, -, rfl⟩ | ⟨last, read, ahead, far, -⟩
    · exact absurd coded tooLong_ne_expired.symm
    · exact ⟨last, read, ahead, far⟩
  · rintro ⟨last, read, ahead, far⟩
    exact ⟨_, dated?_eq_some.2 (.inr ⟨last, read, ahead, far, rfl⟩), rfl⟩

/-- One day has one thing to say about it. -/
private theorem countP_dated_le_one (policy : OverridePolicy) (t : OverrideTag) (today : Date) :
    ((policy.check t today).errors ++ (policy.check t today).warnings).countP
      OverrideIssue.isDated ≤ 1 := by
  have split := List.length_eq_countP_add_countP policy.isError (l := (policy.dated? t today).toList)
  rw [List.countP_append, List.countP_eq_length_filter, List.countP_eq_length_filter, dated_errors,
    dated_warnings, ← List.countP_eq_length_filter, ← List.countP_eq_length_filter]
  have few : (policy.dated? t today).toList.length ≤ 1 := Option.length_toList_le
  simp only [Bool.not_eq_true, Bool.decide_eq_false] at split
  omega

section Severities

variable {i : OverrideIssue}

theorem errors_expired (coded : i.code = Code.overrideExpired)
    (member : i ∈ (policy.check t today).errors) : policy.failOnExpired = true := by
  have error := ((mem_errors_dated (isDated_of_code coded (.inl rfl))).1 member).2
  simpa [isError, coded] using error

theorem warnings_expired (coded : i.code = Code.overrideExpired)
    (member : i ∈ (policy.check t today).warnings) : policy.failOnExpired = false := by
  have warning := ((mem_warnings_dated (isDated_of_code coded (.inl rfl))).1 member).2
  simpa [isError, coded] using warning

/-- The policy moves the issue from one list to the other, and says nothing new. -/
private theorem errors_iff_warnings (coded : i.code = Code.overrideExpired) :
    i ∈ ({ policy with failOnExpired := true }.check t today).errors ↔
      i ∈ ({ policy with failOnExpired := false }.check t today).warnings := by
  have dated := isDated_of_code coded (.inl rfl)
  rw [mem_errors_dated dated, mem_warnings_dated dated]
  simp [isError, coded, dated?]

theorem warnings_tooLong (coded : i.code = Code.overrideTooLong) :
    i ∉ (policy.check t today).warnings := by
  intro member
  have warning := ((mem_warnings_dated (isDated_of_code coded (.inr rfl))).1 member).2
  simp [isError, coded, tooLong_ne_expired] at warning

end Severities

/-- What an override suppresses hangs on its form and the fields asked for alone. -/
theorem suppresses_eq (policy policy' : OverridePolicy)
    (fields : policy'.requiredFields = policy.requiredFields) (t : OverrideTag) (today today' : Date) :
    (policy'.check t today').suppresses = (policy.check t today).suppresses := by
  rw [Bool.eq_iff_iff, suppresses_iff, suppresses_iff]
  exact ⟨fun ⟨rule, given, expiry⟩ => ⟨rule, fields ▸ given, expiry⟩,
    fun ⟨rule, given, expiry⟩ => ⟨rule, fields.symm ▸ given, expiry⟩⟩

end OverridePolicy

namespace Override

variable {policy : OverridePolicy} {today : Date}

/-- Where the findings about overrides come from, with their severities. -/
private theorem mem_issues {ds : List Diagnostic} {tags : List OverrideTag} {d : Diagnostic}
    (member : d ∈ (apply ds tags policy today).issues) :
    (∃ t ∈ tags, ∃ i ∈ (policy.check t today).errors, d = issueDiagnostic t .error i) ∨
      (∃ t ∈ tags, ∃ i ∈ (policy.check t today).warnings, d = issueDiagnostic t .warning i) ∨
      ∃ t ∈ tags, ∃ count, d = issueDiagnostic t .error (.limitExceeded count policy.maxPerFile) := by
  obtain ⟨⟨t, index⟩, place, raised⟩ := List.mem_flatMap.1 member
  have listed : t ∈ tags := (List.mem_zipIdx place).2.2 ▸ List.getElem_mem _
  simp only [issuesOf, List.mem_append, List.mem_map] at raised
  rcases raised with (⟨i, inside, rfl⟩ | ⟨i, inside, rfl⟩) | limit
  · exact .inl ⟨t, listed, i, inside, rfl⟩
  · exact .inr (.inl ⟨t, listed, i, inside, rfl⟩)
  · split at limit
    · cases List.mem_singleton.1 limit
      exact .inr (.inr ⟨t, listed, _, rfl⟩)
    · cases limit

theorem severity_issueDiagnostic (t : OverrideTag) (severity : Severity) (i : OverrideIssue) :
    (issueDiagnostic t severity i).severity = severity := by
  unfold issueDiagnostic Diagnostic.onLine
  split <;> rfl

theorem code_issueDiagnostic (t : OverrideTag) (severity : Severity) (i : OverrideIssue) :
    (issueDiagnostic t severity i).code = i.code := Diagnostic.code_onLine _ _

open OverridePolicy OverrideIssue in
/-- The severity of a finding on the last day of an override is for the policy to say only if the day
is past. -/
private theorem severity_of_dated {ds : List Diagnostic} {tags : List OverrideTag} {d : Diagnostic}
    (member : d ∈ (apply ds tags policy today).issues) :
    (d.code = Code.overrideExpired →
      d.severity = if policy.failOnExpired then .error else .warning) ∧
      (d.code = Code.overrideTooLong → d.severity = .error) := by
  rcases mem_issues member with ⟨t, -, i, inside, rfl⟩ | ⟨t, -, i, inside, rfl⟩ | ⟨t, -, count, rfl⟩
  · rw [code_issueDiagnostic, severity_issueDiagnostic]
    refine ⟨fun coded => ?_, fun _ => rfl⟩
    rw [if_pos (errors_expired coded inside)]
  · rw [code_issueDiagnostic, severity_issueDiagnostic]
    refine ⟨fun coded => ?_, fun coded => absurd inside (warnings_tooLong coded)⟩
    rw [if_neg (by rw [warnings_expired coded inside]; exact Bool.false_ne_true)]
  · rw [code_issueDiagnostic]
    exact ⟨fun coded => absurd coded (show Code.overrideLimit ≠ Code.overrideExpired by decide),
      fun coded => absurd coded (show Code.overrideLimit ≠ Code.overrideTooLong by decide)⟩

end Override

open OverridePolicy in
/-- Whether an override suppresses does not depend on the day. Past its last day it is reported as the
policy has it; before that it is an error to be too many days before it. -/
theorem expiry_over_time (policy : OverridePolicy) (t : OverrideTag) :
    (∀ today today' warnNoExpiry maxExpiryDays failOnExpired,
      ({ policy with warnNoExpiry, maxExpiryDays, failOnExpired }.check t today').suppresses =
        (policy.check t today).suppresses) ∧
    (∀ today, (policy.check t today).valid = true ↔ (policy.check t today).errors = []) ∧
    (∀ today, ((policy.check t today).errors ++ (policy.check t today).warnings).countP
      (fun i => i.code = Code.overrideExpired ∨ i.code = Code.overrideTooLong) ≤ 1) ∧
    ((∀ today later, today.day ≤ later.day → policy.Reports t today Code.overrideExpired →
        policy.Reports t later Code.overrideExpired) ∧
      (∀ today earlier, earlier.day ≤ today.day → policy.Reports t today Code.overrideTooLong →
        policy.Reports t earlier Code.overrideTooLong)) ∧
    ((∀ today, policy.Reports t today Code.overrideExpired ↔
        ∃ last, t.lastDay? = some last ∧ last.day < today.day) ∧
      (∀ today, policy.Reports t today Code.overrideTooLong ↔
        ∃ last, t.lastDay? = some last ∧ today.day ≤ last.day ∧
          policy.maxExpiryDays < today.daysUntil last)) ∧
    (∀ today i, i.code = Code.overrideExpired →
      (i ∈ (policy.check t today).errors → policy.failOnExpired = true) ∧
      (i ∈ (policy.check t today).warnings → policy.failOnExpired = false) ∧
      (i ∈ ({ policy with failOnExpired := true }.check t today).errors ↔
        i ∈ ({ policy with failOnExpired := false }.check t today).warnings)) ∧
    (∀ today i, i.code = Code.overrideTooLong → i ∉ (policy.check t today).warnings) ∧
    (∀ ds tags today, ∀ d ∈ (Override.apply ds tags policy today).issues,
      (d.code = Code.overrideExpired →
        d.severity = if policy.failOnExpired then .error else .warning) ∧
      (d.code = Code.overrideTooLong → d.severity = .error)) ∧
    ((∀ raw last, Date.read? raw = some last → ∃ parts, last.IsMadeOf parts) ∧
      ∀ (a b : Date) parts parts', a.IsMadeOf parts → b.IsMadeOf parts' →
        (a.day < b.day ↔ Date.Precedes parts parts')) := by
  refine ⟨fun today today' _ _ _ => ?_, fun today => List.isEmpty_iff, fun today => ?_,
    ⟨fun today later le => ?_, fun today earlier le => ?_⟩,
    ⟨fun _ => reports_expired_iff, fun _ => reports_tooLong_iff⟩,
    fun today i coded => ⟨errors_expired coded, warnings_expired coded, errors_iff_warnings coded⟩,
    fun today i coded => warnings_tooLong coded,
    fun ds tags today d member => Override.severity_of_dated member,
    fun raw last => Date.read?_isMadeOf, fun a b _ _ => Date.day_lt_iff_precedes⟩
  · refine suppresses_eq policy _ ?_ t today today'
    rfl
  · have dated : (fun i : OverrideIssue => decide (i.code = Code.overrideExpired ∨
        i.code = Code.overrideTooLong)) = OverrideIssue.isDated := by
      funext i
      rw [OverrideIssue.isDated, Bool.decide_or, beq_eq_decide, beq_eq_decide]
    rw [dated]
    exact countP_dated_le_one policy t today
  · rw [reports_expired_iff, reports_expired_iff]
    rintro ⟨last, read, past⟩
    exact ⟨last, read, by omega⟩
  · rw [reports_tooLong_iff, reports_tooLong_iff]
    rintro ⟨last, read, ahead, far⟩
    refine ⟨last, read, by omega, ?_⟩
    unfold Date.daysUntil at *
    omega

namespace LeapYear

/-- An override up to the end of a February, and the days around it by number. -/
def tag : OverrideTag :=
  { rule := "max_file_lines", value := "300", reason := some "old", expires := some "2024-02-29"
    line := 1 }

def lastDay : Date := ⟨19782⟩

def nextDay : Date := ⟨19783⟩

theorem tag_lastDay : tag.lastDay? = some lastDay := by decide +kernel

end LeapYear

open LeapYear in
/-- The day after the last one is the first of March, and a year before it the end was too far off. -/
theorem override_runs_out_in_march :
    nextDay.IsMadeOf (2024, 3, 1) ∧
    (∀ later : Date, nextDay.day ≤ later.day →
      ({} : OverridePolicy).Reports tag later Code.overrideExpired) ∧
    (∀ earlier : Date, earlier.day ≤ lastDay.day - 181 →
      ({} : OverridePolicy).Reports tag earlier Code.overrideTooLong) ∧
    ¬ ({} : OverridePolicy).Reports tag lastDay Code.overrideExpired ∧
    Date.Precedes (2024, 2, 29) (2024, 3, 1) := by
  obtain ⟨-, -, -, ⟨lapsed, tooLong⟩, ⟨expired, far⟩, -, -, -, -, calendar⟩ := expiry_over_time {} tag
  refine ⟨by decide +kernel, fun later le => ?_, fun earlier le => ?_, ?_, ?_⟩
  · exact lapsed nextDay later le ((expired nextDay).2 ⟨lastDay, tag_lastDay, by decide⟩)
  · refine tooLong ⟨lastDay.day - 181⟩ earlier le ((far _).2 ⟨lastDay, tag_lastDay, ?_, ?_⟩) <;> decide
  · rintro reported
    obtain ⟨last, read, past⟩ := (expired lastDay).1 reported
    cases tag_lastDay.symm.trans read
    exact absurd past (Int.lt_irrefl _)
  · exact (calendar lastDay nextDay _ _ (by decide +kernel) (by decide +kernel)).1 (by decide)

end Conformance
