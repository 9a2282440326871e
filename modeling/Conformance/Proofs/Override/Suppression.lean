import Conformance.Proofs.Dict
import Conformance.Proofs.Resolution.Merge
import Conformance.Proofs.Workspace.Accounting
import Mathlib.Data.List.Sort

/-! Which findings overrides take away. An override counts if it stands within the limit of its file
and its policy accepts it; whether it has run out plays no part. More overrides take away more, and
below the limit their order does not matter. -/
namespace Conformance

/-- Sorted texts are the same exactly if they are the same as sets. -/
theorem sortedDistinct_eq_iff {a b : List String} :
    sortedDistinct a = sortedDistinct b ↔ ∀ text, text ∈ a ↔ text ∈ b := by
  constructor
  · intro same text
    rw [← mem_sortedDistinct, same, mem_sortedDistinct]
  · intro same
    refine (sortedDistinct_increasing a).eq_of_mem_iff (sortedDistinct_increasing b) fun text => ?_
    rw [mem_sortedDistinct, mem_sortedDistinct, same]

/-- What the text of an override means: a scalar that it spells, or a list with the same entries. -/
def ConstraintValue.IsNamedBy (raw : String) : ConstraintValue → Prop
  | .number n => Text.commaParts raw = [toString n]
  | .text s => Text.commaParts raw = [s]
  | .list items => ∀ item, item ∈ items ↔ item ∈ Text.commaParts raw
  | .coverage _ => False

theorem ConstraintValue.matchesOverride_iff (value : ConstraintValue) (raw : String) :
    value.matchesOverride raw = true ↔ value.IsNamedBy raw := by
  cases value with
  | number n => exact beq_iff_eq
  | text s => exact beq_iff_eq
  | list items => exact beq_iff_eq.trans sortedDistinct_eq_iff
  | coverage spec => simp [matchesOverride, IsNamedBy]

namespace OverrideIssue

@[simp] theorem disables_unknownRule (rule : String) : (unknownRule rule).disables = true := rfl

@[simp] theorem disables_missingField (key field : String) :
    (missingField key field).disables = true := rfl

@[simp] theorem disables_unreadableExpiry (raw : String) :
    (unreadableExpiry raw).disables = true := rfl

@[simp] theorem disables_expired (key : String) (date : Date) :
    (expired key date).disables = false := rfl

@[simp] theorem disables_expiryTooFar (key : String) (days allowed : Int) :
    (expiryTooFar key days allowed).disables = false := rfl

/-- Only the excess over the limit has the code for it. -/
private theorem code_eq_overrideLimit {i : OverrideIssue} (limit : i.code = Code.overrideLimit) :
    ∃ count allowed, i = .limitExceeded count allowed := by
  cases i with
  | limitExceeded count allowed => exact ⟨count, allowed, rfl⟩
  | _ => simp [code, Code.overrideLimit, Code.overrideForm, Code.overrideField, Code.noExpiry,
      Code.overrideExpired, Code.overrideTooLong] at limit

end OverrideIssue

namespace OverridePolicy

/-- An override that may take findings away: its rule is known, it has the fields that are asked for,
and an expiry that it gives can be read. -/
structure Accepts (policy : OverridePolicy) (t : OverrideTag) : Prop where
  rule : ∃ rule : Rule, rule.name = t.rule
  fields : ∀ field ∈ policy.requiredFields, t.hasField field = true
  expiry : ∀ raw, t.expires = some raw → ∃ date, Date.read? raw = some date

variable (policy : OverridePolicy) (t : OverrideTag) (today : Date)

theorem known_iff : (Rule.ofName? t.rule).isNone = false ↔ ∃ rule : Rule, rule.name = t.rule := by
  constructor
  · intro known
    obtain ⟨rule, found⟩ := Option.isSome_iff_exists.1 (Option.isNone_eq_false_iff.1 known)
    exact ⟨rule, Rule.name_of_ofName? found⟩
  · rintro ⟨rule, named⟩
    rw [← named, Rule.ofName?_name]
    rfl

private theorem formErrors_disable :
    (policy.formErrors t).any OverrideIssue.disables = false ↔
      (∃ rule : Rule, rule.name = t.rule) ∧
        ∀ field ∈ policy.requiredFields, t.hasField field = true := by
  rw [formErrors, List.any_append, Bool.or_eq_false_iff, ← known_iff]
  refine and_congr ?_ ?_
  · cases (Rule.ofName? t.rule).isNone <;> simp
  · simp

/-- What can be said about an expiry: that there is none, that it cannot be read, or that it lies
in the past or too far ahead. -/
theorem expiryCheck_cases :
    (t.expires = none ∧ (policy.expiryCheck t today).errors = [] ∧
      ∀ i ∈ (policy.expiryCheck t today).warnings, i = .noExpiry t.key) ∨
    (∃ raw, t.expires = some raw ∧ Date.read? raw = none ∧
      policy.expiryCheck t today = { errors := [.unreadableExpiry raw] }) ∨
    ∃ raw date, t.expires = some raw ∧ Date.read? raw = some date ∧
      ∀ i ∈ (policy.expiryCheck t today).errors ++ (policy.expiryCheck t today).warnings,
        i = .expired t.key date ∨
          i = .expiryTooFar t.key (today.daysUntil date) policy.maxExpiryDays := by
  unfold expiryCheck
  cases t.expires with
  | none =>
    refine .inl ⟨rfl, rfl, ?_⟩
    cases policy.warnNoExpiry <;> simp
  | some raw =>
    refine .inr ?_
    cases read : Date.read? raw with
    | none => exact .inl ⟨raw, rfl, read, by simp only [read]⟩
    | some date =>
      refine .inr ⟨raw, date, rfl, read, ?_⟩
      simp only [read]
      by_cases past : date.day < today.day
      · cases policy.failOnExpired <;> simp [past]
      · by_cases far : today.daysUntil date > policy.maxExpiryDays <;> simp [past, far]

/-- Of what is said about an expiry, only that it cannot be read disables the override. -/
private theorem expiryCheck_disable :
    (policy.expiryCheck t today).errors.any OverrideIssue.disables = false ↔
      ∀ raw, t.expires = some raw → ∃ date, Date.read? raw = some date := by
  rcases expiryCheck_cases policy t today with ⟨absent, errors, -⟩ |
    ⟨raw, given, unreadable, check⟩ | ⟨raw, date, given, read, issues⟩
  · simp [absent, errors]
  · simp [given, unreadable, check]
  · have readable : ∀ other, t.expires = some other → ∃ date, Date.read? other = some date := by
      intro other same
      cases given.symm.trans same
      exact ⟨date, read⟩
    refine iff_of_true (List.any_eq_false.2 fun i member => ?_) readable
    rcases issues i (List.mem_append_left _ member) with rfl | rfl <;> simp

theorem suppresses_iff : (policy.check t today).suppresses = true ↔ policy.Accepts t := by
  have split : (policy.check t today).suppresses = true ↔
      (policy.formErrors t).any OverrideIssue.disables = false ∧
        (policy.expiryCheck t today).errors.any OverrideIssue.disables = false := by
    simp only [OverrideCheck.suppresses, check, List.any_append, Bool.not_eq_true',
      Bool.or_eq_false_iff]
  rw [split, formErrors_disable, expiryCheck_disable]
  constructor
  · rintro ⟨⟨rule, fields⟩, expiry⟩
    exact ⟨rule, fields, expiry⟩
  · rintro ⟨rule, fields, expiry⟩
    exact ⟨⟨rule, fields⟩, expiry⟩

end OverridePolicy

namespace Override

variable {ds : List Diagnostic} {tags : List OverrideTag} {policy : OverridePolicy} {today : Date}

/-- The overrides of a file that count: the first ones up to the limit, or all without a limit. -/
def counted (policy : OverridePolicy) (tags : List OverrideTag) : List OverrideTag :=
  if policy.maxPerFile = 0 then tags else tags.take policy.maxPerFile

theorem mem_counted {t : OverrideTag} : t ∈ counted policy tags ↔
    ∃ index, tags[index]? = some t ∧ beyondLimit policy index = false := by
  unfold counted beyondLimit
  split
  · rename_i unlimited
    simp [unlimited, List.mem_iff_getElem?]
  · rename_i limited
    have positive : 0 < policy.maxPerFile := Nat.pos_of_ne_zero limited
    simp only [List.mem_take_iff_getElem, List.getElem?_eq_some_iff, positive, decide_true,
      Bool.true_and, decide_eq_false_iff_not, not_le]
    constructor
    · rintro ⟨index, inside, found⟩
      exact ⟨index, ⟨by omega, found⟩, by omega⟩
    · rintro ⟨index, ⟨inside, found⟩, below⟩
      exact ⟨index, by omega, found⟩

private theorem mem_active {t : OverrideTag} :
    t ∈ active policy today tags ↔ t ∈ counted policy tags ∧ policy.Accepts t := by
  rw [mem_counted, ← OverridePolicy.suppresses_iff policy t today, active]
  simp only [List.mem_map, List.mem_filter, Prod.exists, List.mem_zipIdx_iff_getElem?,
    Bool.and_eq_true, Bool.not_eq_true']
  constructor
  · rintro ⟨other, index, ⟨found, below, suppresses⟩, rfl⟩
    exact ⟨⟨index, found, below⟩, suppresses⟩
  · rintro ⟨⟨index, found, below⟩, suppresses⟩
    exact ⟨t, index, ⟨found, below, suppresses⟩, rfl⟩

/-- A finding is taken away if its family allows it and an override that counts and is accepted names
its rule and its value. -/
theorem suppressed_iff (d : Diagnostic) :
    Suppressed tags policy today d ↔
      (Text.startsWith d.code "E" = true ∨ Text.startsWith d.code "I" = true) ∧
        ∃ t ∈ counted policy tags, policy.Accepts t ∧ t.rule = d.rule ∧ d.value.IsNamedBy t.value := by
  have named (t : OverrideTag) :
      «matches» t d = true ↔ t.rule = d.rule ∧ d.value.IsNamedBy t.value := by
    rw [«matches», Bool.and_eq_true, beq_iff_eq, ConstraintValue.matchesOverride_iff]
  rw [Suppressed, isOverridable, Bool.or_eq_true]
  simp only [mem_active, named, and_assoc]

theorem overridden_eq_filter :
    (apply ds tags policy today).overridden = ds.filter (Suppressed tags policy today) := by
  simp only [apply, decide_suppressed]

theorem kept_eq_filter :
    (apply ds tags policy today).kept = ds.filter fun d => ¬Suppressed tags policy today d := by
  simp only [apply, decide_not, decide_suppressed]

/-- The families are told apart by the first letter of a code. -/
private theorem other_family {code : String}
    (family : Text.startsWith code "E" = true ∨ Text.startsWith code "I" = true) :
    ∀ other ∈ ["S", "SEC", "O", "W"], Text.startsWith code other = false := by
  simp only [Text.startsWith, Chars.startsWith] at family ⊢
  generalize code.toList = letters at family ⊢
  cases letters with
  | nil => simp at family
  | cons first rest =>
    simp only [String.reduceToList, List.isPrefixOf_cons_cons, List.isPrefixOf_nil_left, Bool.and_true,
      beq_iff_eq] at family
    rcases family with rfl | rfl <;> simp [List.isPrefixOf_cons_cons]

/-- Nothing that is said about one override is about the number of overrides. -/
theorem check_code (t : OverrideTag) {i : OverrideIssue}
    (member : i ∈ (policy.check t today).errors ++ (policy.check t today).warnings) :
    i.code ≠ Code.overrideLimit := by
  intro limit
  obtain ⟨count, allowed, rfl⟩ := OverrideIssue.code_eq_overrideLimit limit
  simp only [OverridePolicy.check, List.append_assoc, List.mem_append] at member
  rcases member with form | expiry
  · simp [OverridePolicy.formErrors] at form
  · rcases OverridePolicy.expiryCheck_cases policy t today with ⟨-, errors, warnings⟩ |
      ⟨raw, -, -, check⟩ | ⟨raw, date, -, -, issues⟩
    · simp only [errors, List.not_mem_nil, false_or] at expiry
      cases warnings _ expiry
    · simp [check] at expiry
    · rcases issues _ (List.mem_append.2 expiry) with same | same <;> cases same

/-- One override reports the excess if it is the first beyond the limit. -/
private theorem countP_issuesOf (count : Nat) (indexed : OverrideTag × Nat) :
    (issuesOf policy today count indexed).countP (·.code = Code.overrideLimit) =
      if 0 < policy.maxPerFile ∧ indexed.2 = policy.maxPerFile then 1 else 0 := by
  obtain ⟨t, index⟩ := indexed
  have code (severity : Severity) (i : OverrideIssue) :
      (issueDiagnostic t severity i).code = i.code := Diagnostic.code_onLine _ _
  have errors : ((policy.check t today).errors.map (issueDiagnostic t .error)).countP
      (·.code = Code.overrideLimit) = 0 := by
    rw [List.countP_eq_zero]
    intro d member
    obtain ⟨i, inside, rfl⟩ := List.mem_map.1 member
    simpa [code] using check_code t (List.mem_append_left _ inside)
  have warnings : ((policy.check t today).warnings.map (issueDiagnostic t .warning)).countP
      (·.code = Code.overrideLimit) = 0 := by
    rw [List.countP_eq_zero]
    intro d member
    obtain ⟨i, inside, rfl⟩ := List.mem_map.1 member
    simpa [code] using check_code t (List.mem_append_right _ inside)
  have first : (beyondLimit policy index && index == policy.maxPerFile) = true ↔
      0 < policy.maxPerFile ∧ index = policy.maxPerFile := by
    simp only [beyondLimit, Bool.and_eq_true, decide_eq_true_eq, beq_iff_eq]
    omega
  simp only [issuesOf, List.countP_append, errors, warnings, first]
  split
  · rw [List.countP_singleton, code]
    rfl
  · rfl

private theorem countP_flatMap_issuesOf (count : Nat) (indexed : List (OverrideTag × Nat)) :
    (indexed.flatMap (issuesOf policy today count)).countP (·.code = Code.overrideLimit) =
      indexed.countP fun entry => 0 < policy.maxPerFile ∧ entry.2 = policy.maxPerFile := by
  induction indexed with
  | nil => rfl
  | cons entry rest ih =>
    rw [List.flatMap_cons, List.countP_append, ih, countP_issuesOf, List.countP_cons, Nat.add_comm]
    simp only [decide_eq_true_eq]

/-- The excess is reported once, when there is one. -/
private theorem countP_issues :
    (apply ds tags policy today).issues.countP (·.code = Code.overrideLimit) =
      if 0 < policy.maxPerFile ∧ policy.maxPerFile < tags.length then 1 else 0 := by
  have indices : (tags.zipIdx.map Prod.snd).countP
      (fun index => 0 < policy.maxPerFile ∧ index = policy.maxPerFile) =
        if 0 < policy.maxPerFile ∧ policy.maxPerFile < tags.length then 1 else 0 := by
    rw [List.zipIdx_map_snd, ← List.range_eq_range']
    by_cases limited : 0 < policy.maxPerFile
    · have counts := List.Nodup.count (a := policy.maxPerFile) (List.nodup_range (n := tags.length))
      simpa [limited, List.count, List.mem_range, beq_eq_decide] using counts
    · simp [limited]
  rw [← indices, List.countP_map]
  exact countP_flatMap_issuesOf tags.length tags.zipIdx

/-- More overrides do not push any out that counted before. -/
private theorem counted_append (more : List OverrideTag) {t : OverrideTag}
    (counts : t ∈ counted policy tags) : t ∈ counted policy (tags ++ more) := by
  obtain ⟨index, found, below⟩ := mem_counted.1 counts
  refine mem_counted.2 ⟨index, ?_, below⟩
  obtain ⟨inside, -⟩ := List.getElem?_eq_some_iff.1 found
  rw [List.getElem?_append_left inside, found]

theorem counted_of_few (few : ¬(0 < policy.maxPerFile ∧ policy.maxPerFile < tags.length)) :
    counted policy tags = tags := by
  unfold counted
  split
  · rfl
  · exact List.take_of_length_le (by omega)

/-- Overrides split the findings in two, in their order, by a condition that says nothing of the day.
System, security, override and advice findings stay. The excess over the limit is reported once. More
overrides leave nothing that fewer take away, and below the limit their order makes no difference. -/
theorem overrides_take_away (ds : List Diagnostic) (tags : List OverrideTag) (policy : OverridePolicy)
    (today : Date) :
    (apply ds tags policy today).overridden = ds.filter (Suppressed tags policy today) ∧
    (apply ds tags policy today).kept = ds.filter (fun d => ¬Suppressed tags policy today d) ∧
    (∀ d, Suppressed tags policy today d ↔
      (Text.startsWith d.code "E" = true ∨ Text.startsWith d.code "I" = true) ∧
        ∃ t ∈ counted policy tags, policy.Accepts t ∧ t.rule = d.rule ∧ d.value.IsNamedBy t.value) ∧
    (∀ d ∈ (apply ds tags policy today).overridden, ∀ family ∈ ["S", "SEC", "O", "W"],
      Text.startsWith d.code family = false) ∧
    (apply ds tags policy today).issues.countP (·.code = Code.overrideLimit) =
      (if 0 < policy.maxPerFile ∧ policy.maxPerFile < tags.length then 1 else 0) ∧
    (∀ more, ((apply ds tags policy today).overridden).Sublist
      (apply ds (tags ++ more) policy today).overridden) ∧
    (∀ tags', tags.Perm tags' → ¬(0 < policy.maxPerFile ∧ policy.maxPerFile < tags.length) →
      (apply ds tags' policy today).kept = (apply ds tags policy today).kept ∧
        (apply ds tags' policy today).overridden = (apply ds tags policy today).overridden) := by
  refine ⟨overridden_eq_filter, kept_eq_filter, suppressed_iff, ?_, countP_issues, ?_, ?_⟩
  · intro d taken
    rw [overridden_eq_filter] at taken
    have suppressed : Suppressed tags policy today d := by simpa using (List.mem_filter.1 taken).2
    exact other_family ((suppressed_iff d).1 suppressed).1
  · intro more
    rw [overridden_eq_filter, overridden_eq_filter]
    refine List.monotone_filter_right ds fun d suppressed => ?_
    rw [decide_eq_true_eq, suppressed_iff] at suppressed ⊢
    obtain ⟨family, t, counts, accepted⟩ := suppressed
    exact ⟨family, t, counted_append more counts, accepted⟩
  · intro tags' order few
    have few' : ¬(0 < policy.maxPerFile ∧ policy.maxPerFile < tags'.length) := by
      rwa [← order.length_eq]
    have same (d : Diagnostic) :
        Suppressed tags' policy today d ↔ Suppressed tags policy today d := by
      simp only [suppressed_iff, counted_of_few few, counted_of_few few', order.mem_iff]
    simp only [kept_eq_filter, overridden_eq_filter, same, and_self]

namespace Mixed

/-- Findings of one rule with a number, of one with a list, and of the system. -/
def findings : List Diagnostic := [
  .ofConstraint "E010" (.ofRule .maxFileLines (.number 300)) (.number 300) "too long" "split",
  .ofConstraint "S003" (.ofRule .maxFileLines (.number 300)) (.number 300) "malformed" "fix",
  .ofConstraint "E013" (.ofRule .importableBy (.list ["a", "b"])) (.list ["a", "b"]) "stray" "move"]

/-- Two overrides, of which one has run out. -/
def length : OverrideTag :=
  { rule := "max_file_lines", value := "300", reason := some "old", expires := some "2020-01-01"
    line := 1 }

def importers : OverrideTag :=
  { rule := "importable_by", value := "b, a, b", reason := some "moving", line := 4 }

def yearsOn : Date := ⟨1000000⟩

end Mixed

open Mixed in
theorem overrides_in_either_order :
    let out := apply findings [length, importers] {} yearsOn
    out.overridden.map (·.code) = ["E010", "E013"] ∧ out.kept.map (·.code) = ["S003"] ∧
      (apply findings [importers, length] {} yearsOn).overridden = out.overridden ∧
      ∀ d ∈ out.overridden, Text.startsWith d.code "S" = false := by
  obtain ⟨-, -, -, families, -, -, order⟩ := overrides_take_away findings [length, importers] {} yearsOn
  refine ⟨by decide +kernel, by decide +kernel, ?_, ?_⟩
  · exact (order [importers, length] (List.Perm.swap importers length []) (by decide)).2
  · intro d taken
    exact families d taken "S" (by decide)

end Override
end Conformance
