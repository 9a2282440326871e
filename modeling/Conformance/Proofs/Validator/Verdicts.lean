import Conformance.Proofs.Resolution.Merge
import Conformance.Proofs.Text
import Conformance.Validator.Catalogue
import Mathlib.Algebra.Group.Nat.Defs
import Mathlib.Data.List.Basic

/-! Every validator comes to a verdict, on every constraint and every file whose numbers a machine
can hold, and each finding in it says which constraint it belongs to. One lemma for each validator
says both; they are put together in `validator_decides`. -/
namespace Conformance

/-- Line numbers have 64 bits, and a text has fewer than 2^63 characters. -/
structure FileContext.Representable (ctx : FileContext) : Prop where
  functions : ∀ f ∈ ctx.model.functions, f.startLine < 2 ^ 64 ∧ f.endLine < 2 ^ 64
  methods : ∀ k ∈ ctx.model.classes, ∀ m ∈ k.methods, m.startLine < 2 ^ 64 ∧ m.endLine < 2 ^ 64
  content : ctx.content.length < 2 ^ 63

/-- The codes of what a rule may find: its own, and those of a constraint that cannot be checked. -/
def Rule.findingCodes : Rule → List String
  | .verifyIntent => [Code.undefinedIntent, Code.intentPattern, Code.intentConflict,
      Code.missingIntent, Code.malformedConstraint, Code.unsafePattern]
  | rule => [rule.code, Code.malformedConstraint, Code.pathTraversal, Code.unsafePattern]

theorem Rule.malformed_mem_findingCodes (rule : Rule) :
    Code.malformedConstraint ∈ rule.findingCodes := by
  cases rule <;> decide

theorem Rule.unsafePattern_mem_findingCodes (rule : Rule) :
    Code.unsafePattern ∈ rule.findingCodes := by
  cases rule <;> decide

/-- The code of a rule stands for nothing else. -/
theorem Rule.code_proper (rule : Rule) : rule.code ∈ rule.findingCodes ∧
    rule.code ≠ Code.malformedConstraint ∧ rule.code ≠ Code.pathTraversal := by
  cases rule <;> decide

/-- A finding that belongs to a constraint of a rule, and is not about a validator that broke
down. -/
structure Diagnostic.OwnedBy (r : Rule) (c : Constraint) (d : Diagnostic) : Prop where
  rule : d.rule = c.rule
  source : d.source = c.source
  severity : d.severity = if d.code = Code.pathTraversal then .error else c.severity
  code : d.code ∈ r.findingCodes
  working : d.code = Code.malformedConstraint → d.message ≠ (Catalogue.breakdown c).message

namespace Diagnostic

variable {r : Rule} {c : Constraint} {d : Diagnostic} {code : String} {value : ConstraintValue}
  {message fixHint : String}

theorem owned_of_code (listed : code ∈ r.findingCodes) (formed : code ≠ Code.malformedConstraint)
    (inside : code ≠ Code.pathTraversal) :
    (ofConstraint code c value message fixHint).OwnedBy r c where
  rule := rfl
  source := rfl
  severity := (if_neg inside).symm
  code := listed
  working malformed := absurd malformed formed

theorem owned_of_rule : (ofConstraint r.code c value message fixHint).OwnedBy r c :=
  owned_of_code r.code_proper.1 r.code_proper.2.1 r.code_proper.2.2

/-- The first letter tells the message of a malformed constraint from that of a breakdown. -/
theorem owned_of_malformed (start : message.toList.head? ≠ some 'v') :
    (ofConstraint Code.malformedConstraint c value message fixHint).OwnedBy r c where
  rule := rfl
  source := rfl
  severity := rfl
  code := r.malformed_mem_findingCodes
  working _ same := by
    have same : message = (Catalogue.breakdown c).message := same
    rw [same] at start
    exact start (by simp [Catalogue.breakdown, system])

theorem OwnedBy.onLine (owned : d.OwnedBy r c) (line : Nat) : (d.onLine line).OwnedBy r c := by
  unfold Diagnostic.onLine
  split
  · exact ⟨owned.rule, owned.source, owned.severity, owned.code, owned.working⟩
  · exact owned

theorem OwnedBy.onColumn (owned : d.OwnedBy r c) (line column : Nat) :
    (d.onColumn line column).OwnedBy r c := by
  have placed := owned.onLine line
  unfold Diagnostic.onColumn
  dsimp only
  split
  · exact ⟨placed.rule, placed.source, placed.severity, placed.code, placed.working⟩
  · exact placed

theorem OwnedBy.suggest (owned : d.OwnedBy r c) (s : Suggestion) : (d.suggest s).OwnedBy r c :=
  ⟨owned.rule, owned.source, owned.severity, owned.code, owned.working⟩

theorem OwnedBy.meaning (owned : d.OwnedBy r c) (candidate : Option String) :
    (d.meaning candidate).OwnedBy r c := by
  unfold Diagnostic.meaning
  split
  · exact ⟨owned.rule, owned.source, owned.severity, owned.code, owned.working⟩
  · exact owned

end Diagnostic

/-- Steps that each give something give a list. -/
theorem exists_mapM {α β : Type} {f : α → Option β} {has : β → Prop} {items : List α}
    (each : ∀ a ∈ items, ∃ b, f a = some b ∧ has b) :
    ∃ out, items.mapM f = some out ∧ out.length = items.length ∧ ∀ b ∈ out, has b := by
  induction items with
  | nil => exact ⟨[], rfl, rfl, nofun⟩
  | cons a rest ih =>
    obtain ⟨b, first, good⟩ := each a List.mem_cons_self
    obtain ⟨out, others, length, rest⟩ := ih fun a member => each a (List.mem_cons_of_mem _ member)
    refine ⟨b :: out, ?_, congrArg (· + 1) length, List.forall_mem_cons.2 ⟨good, rest⟩⟩
    rw [List.mapM_cons, first, others]
    rfl

theorem Count.add?_eq {a b : Nat} (fits : a + b < 2 ^ 64) : Count.add? a b = some (a + b) :=
  if_pos fits

theorem Count.add?_eq_some_iff {a b c : Nat} :
    Count.add? a b = some c ↔ a + b < 2 ^ 64 ∧ a + b = c := by
  rw [Count.add?, Option.ite_none_right_eq_some, Option.some.injEq]
  exact Iff.rfl

namespace Validator

/-- There is a verdict, it is passed if nothing was found, and what was found belongs to the
constraint. -/
def Decides (r : Rule) (c : Constraint) (out : Option Verdict) : Prop :=
  ∃ v, out = some v ∧ v.passed = v.violations.isEmpty ∧ ∀ d ∈ v.violations, d.OwnedBy r c

variable {r : Rule} {c : Constraint} {ctx : FileContext} {d : Diagnostic}

theorem decides_pass : Decides r c (some .pass) :=
  ⟨.pass, rfl, rfl, fun _ member => absurd member List.not_mem_nil⟩

theorem decides_ofViolations {found : List Diagnostic} (owned : ∀ d ∈ found, d.OwnedBy r c) :
    Decides r c (some (.ofViolations found)) := ⟨.ofViolations found, rfl, rfl, owned⟩

theorem decides_fail (owned : d.OwnedBy r c) : Decides r c (some (.fail d)) :=
  decides_ofViolations fun _ member => List.mem_singleton.1 member ▸ owned

theorem decides_map {α : Type} {items : List α} {finding : α → Diagnostic}
    (owned : ∀ a, (finding a).OwnedBy r c) :
    Decides r c (some (.ofViolations (items.map finding))) := by
  refine decides_ofViolations fun d member => ?_
  obtain ⟨a, -, rfl⟩ := List.mem_map.1 member
  exact owned a

theorem decides_filterMap {α : Type} {items : List α} {finding? : α → Option Diagnostic}
    (owned : ∀ a d, finding? a = some d → d.OwnedBy r c) :
    Decides r c (some (.ofViolations (items.filterMap finding?))) := by
  refine decides_ofViolations fun d member => ?_
  obtain ⟨a, -, found⟩ := List.mem_filterMap.1 member
  exact owned a d found

private theorem decides_mapM {α : Type} {items : List α} {check : α → Option Diagnostic}
    (each : ∀ a ∈ items, ∃ d, check a = some d ∧ d.OwnedBy r c) :
    Decides r c ((items.mapM check).map .ofViolations) := by
  obtain ⟨out, done, -, owned⟩ := exists_mapM each
  rw [done, Option.map_some]
  exact decides_ofViolations owned

/-- Checks that may find nothing. -/
theorem decides_mapM_option {α : Type} {items : List α} {check : α → Option (Option Diagnostic)}
    (each : ∀ a ∈ items, ∃ found, check a = some found ∧ ∀ d ∈ found, d.OwnedBy r c) :
    Decides r c ((items.mapM check).map fun found => .ofViolations (found.filterMap id)) := by
  obtain ⟨out, done, -, owned⟩ := exists_mapM each
  rw [done, Option.map_some]
  refine decides_ofViolations fun d member => ?_
  obtain ⟨found, inside, same⟩ := List.mem_filterMap.1 member
  exact owned found inside d same

theorem decides_if {condition : Prop} [Decidable condition] (owned : d.OwnedBy r c) :
    Decides r c (some (if condition then .fail d else .pass)) := by
  split
  · exact decides_fail owned
  · exact decides_pass

theorem decides_unless {condition : Prop} [Decidable condition] (owned : d.OwnedBy r c) :
    Decides r c (some (if condition then .pass else .fail d)) := by
  split
  · exact decides_pass
  · exact decides_fail owned

theorem decides_invalidValue (expected : String) :
    Decides r c (some (invalidValue c expected)) :=
  decides_fail (Diagnostic.owned_of_malformed (by simp))

theorem decides_onList {expected : String} {check : List String → Validator}
    (each : ∀ entries, Decides r c (check entries c ctx)) :
    Decides r c (onList expected check c ctx) := by
  unfold onList
  split
  · exact each _
  · exact decides_invalidValue expected

theorem decides_onText {expected : String} {check : String → Validator}
    (each : ∀ text, Decides r c (check text c ctx)) :
    Decides r c (onText expected check c ctx) := by
  unfold onText
  split
  · exact each _
  · exact decides_invalidValue expected

theorem decides_onLimit {check : Nat → Validator}
    (each : ∀ limit, Decides r c (check limit c ctx)) :
    Decides r c (onLimit check c ctx) := by
  unfold onLimit
  split
  · exact each _
  · exact decides_invalidValue _

theorem owned_rejection (pattern : String) (why : Pattern.Rejection) :
    (rejection c pattern why).OwnedBy r c := by
  cases why with
  | catastrophic shape =>
    have code : (Pattern.Rejection.catastrophic shape).code = Code.unsafePattern := rfl
    rw [rejection, code]
    exact Diagnostic.owned_of_code r.unsafePattern_mem_findingCodes (by decide) (by decide)
  | tooLong length most => exact Diagnostic.owned_of_malformed (by simp)
  | invalid => exact Diagnostic.owned_of_malformed (by simp)

/-- Where too little is there, something is missing. -/
theorem exists_missing {mode : MatchMode} {required : Nat} {missing : List String}
    (fails : mode.fails required missing.length = true) :
    ∃ first rest, missing = first :: rest := by
  cases missing with
  | cons first rest => exact ⟨first, rest, rfl⟩
  | nil => cases mode <;> simp [MatchMode.fails] at fails; omega

theorem mustExtend_decides : Decides .mustExtend c (mustExtend c ctx) := by
  refine decides_onText fun base => ?_
  dsimp only
  split
  · exact decides_pass
  · rename_i unmet
    cases classes : subjectClasses ctx.model with
    | nil => simp [classes] at unmet
    | cons first rest =>
      exact decides_fail (Diagnostic.owned_of_rule.onLine first.line)

theorem implements_decides : Decides .implements c (implements c ctx) := by
  refine decides_onList fun required => ?_
  dsimp only
  split
  · exact decides_pass
  · rename_i some
    cases classes : subjectClasses ctx.model with
    | nil => simp [classes] at some
    | cons first rest =>
      exact decides_mapM fun wanted _ => ⟨_, rfl, Diagnostic.owned_of_rule.onLine first.line⟩

theorem requireDecorator_decides : Decides .requireDecorator c (requireDecorator c ctx) := by
  refine decides_onList fun required => decides_mapM_option fun k _ => ?_
  unfold missingDecorators
  dsimp only
  split
  · rename_i fails
    obtain ⟨first, rest, missing⟩ := exists_missing fails
    rw [missing]
    refine ⟨_, rfl, fun d found => ?_⟩
    cases found
    exact (Diagnostic.owned_of_rule.onLine k.line).suggest _
  · exact ⟨none, rfl, fun d found => absurd found (Option.not_mem_none d)⟩

theorem forbidDecorator_decides : Decides .forbidDecorator c (forbidDecorator c ctx) := by
  refine decides_onList fun banned => decides_filterMap fun dec d found => ?_
  obtain ⟨hit, -, rfl⟩ := Option.map_eq_some_iff.1 found
  exact Diagnostic.owned_of_rule.onLine dec.line

theorem maxPublicMethods_decides : Decides .maxPublicMethods c (maxPublicMethods c ctx) :=
  decides_onLimit fun _ => decides_map fun k => Diagnostic.owned_of_rule.onLine k.line

theorem requireExport_decides : Decides .requireExport c (requireExport c ctx) :=
  decides_onList fun _ => decides_if Diagnostic.owned_of_rule

/-- A span of lines whose numbers have 64 bits has a 64-bit length, if it starts at a line. -/
theorem span?_eq {first last : Nat} (positive : 0 < first) (firstFits : first < 2 ^ 64)
    (lastFits : last < 2 ^ 64) : Count.span? first last = some (last - first + 1) := by
  exact Count.add?_eq (by omega)

private theorem mem_bodies {ctx : FileContext} (fits : ctx.Representable)
    {body : String × Nat × Nat}
    (member : body ∈ bodies ctx.model) : body.2.1 < 2 ^ 64 ∧ body.2.2 < 2 ^ 64 := by
  rcases List.mem_append.1 member with function | method
  · obtain ⟨f, inside, rfl⟩ := List.mem_map.1 function
    exact fits.functions f inside
  · obtain ⟨k, inside, own⟩ := List.mem_flatMap.1 method
    obtain ⟨m, inClass, rfl⟩ := List.mem_map.1 own
    exact fits.methods k inside m inClass

theorem maxFunctionLines_decides (fits : ctx.Representable) :
    Decides .maxFunctionLines c (maxFunctionLines c ctx) := by
  refine decides_onLimit fun limit => decides_mapM_option fun body member => ?_
  obtain ⟨firstFits, lastFits⟩ := mem_bodies fits member
  obtain ⟨name, first, last⟩ := body
  unfold longBody
  dsimp only at firstFits lastFits ⊢
  split
  · rename_i positive
    rw [span?_eq positive firstFits lastFits]
    refine ⟨_, rfl, fun d found => ?_⟩
    split at found
    · cases found
      exact Diagnostic.owned_of_rule.onLine first
    · cases found
  · exact ⟨none, rfl, fun d found => absurd found (Option.not_mem_none d)⟩

/-- A name can be cut before its first dot. -/
private theorem nameStem?_isSome (name : String) : ∃ stem, nameStem? name = some stem := by
  unfold nameStem? Text.offsetOf?
  rcases Chars.offsetOf?_cases '.' name.toList with ⟨-, none⟩ | ⟨before, after, parts, -, found⟩
  · rw [none]
    exact ⟨name, rfl⟩
  · rw [found]
    dsimp only
    split
    · rw [Text.upTo?, parts, Chars.splitAtByte?_append]
      exact ⟨_, rfl⟩
    · exact ⟨name, rfl⟩

theorem namingPattern_decides : Decides .namingPattern c (namingPattern c ctx) := by
  refine decides_onText fun pattern => ?_
  obtain ⟨stem, cut⟩ := nameStem?_isSome (fileName ctx.filePath)
  simp only [cut]
  change Decides _ c (some _)
  split
  · exact decides_fail (owned_rejection pattern _)
  · exact decides_pass
  · exact decides_fail (Diagnostic.owned_of_rule.suggest _)

theorem locationPattern_decides : Decides .locationPattern c (locationPattern c ctx) :=
  decides_onText fun _ => decides_unless Diagnostic.owned_of_rule

theorem maxFileLines_decides : Decides .maxFileLines c (maxFileLines c ctx) := by
  refine decides_onLimit fun limit => ?_
  dsimp only
  split
  · exact decides_unless Diagnostic.owned_of_rule
  · exact decides_unless Diagnostic.owned_of_rule

/-- Templates are expanded one by one, unless one leads out of the project. -/
theorem expandAll_cases (c : Constraint) (path : String) (templates : List String) :
    (∃ paths, expandAll c path templates = .ok paths ∧ paths.length = templates.length) ∨
      ∃ template, expandAll c path templates = .error (escaped c path template) := by
  unfold expandAll
  induction templates with
  | nil => exact .inl ⟨[], rfl, rfl⟩
  | cons template rest ih =>
    rw [List.mapM_cons]
    cases Path.expandTemplate? path template with
    | none => exact .inr ⟨template, rfl⟩
    | some expanded =>
      rcases ih with ⟨paths, done, length⟩ | ⟨other, refused⟩
      · refine .inl ⟨expanded :: paths, ?_, congrArg (· + 1) length⟩
        rw [done]
        rfl
      · refine .inr ⟨other, ?_⟩
        rw [refused]
        rfl

theorem owned_escaped (listed : Code.pathTraversal ∈ r.findingCodes) (path template : String) :
    (escaped c path template).OwnedBy r c where
  rule := rfl
  source := rfl
  severity := rfl
  code := listed
  working malformed := by
    have other : Code.pathTraversal = Code.malformedConstraint := malformed
    exact absurd other (by decide)

theorem requireTestFile_decides : Decides .requireTestFile c (requireTestFile c ctx) := by
  refine decides_onList fun entries => ?_
  dsimp only
  generalize (if (entries.filter fun t => !Text.isBlank t).isEmpty then ctx.testFilePatterns
    else entries.filter fun t => !Text.isBlank t) = templates
  split
  · exact decides_pass
  · rename_i needed
    rcases expandAll_cases c ctx.filePath templates with ⟨paths, expanded, length⟩ |
      ⟨template, refused⟩
    · rw [expanded]
      dsimp only
      split
      · exact decides_pass
      · cases paths with
        | nil =>
          have none : templates = [] := List.eq_nil_of_length_eq_zero length.symm
          simp [none] at needed
        | cons first rest => exact decides_fail (Diagnostic.owned_of_rule.suggest _)
    · rw [refused]
      exact decides_fail (owned_escaped (by decide) ctx.filePath template)

theorem requireCompanionFile_decides :
    Decides .requireCompanionFile c (requireCompanionFile c ctx) := by
  refine decides_onList fun templates => ?_
  dsimp only
  rcases expandAll_cases c ctx.filePath templates with ⟨paths, expanded, -⟩ | ⟨template, refused⟩
  · rw [expanded]
    dsimp only
    split
    · rename_i fails
      obtain ⟨first, rest, missing⟩ := exists_missing fails
      rw [missing]
      cases c.matchMode with
      | all => exact decides_map fun path => Diagnostic.owned_of_rule.suggest _
      | any => exact decides_map fun path => Diagnostic.owned_of_rule.suggest _
    · exact decides_pass
  · rw [refused]
    exact decides_fail (owned_escaped (by decide) ctx.filePath template)

theorem forbidImport_decides : Decides .forbidImport c (forbidImport c ctx) := by
  refine decides_onList fun entries => decides_filterMap fun i d found => ?_
  obtain ⟨entry, -, rfl⟩ := Option.map_eq_some_iff.1 found
  exact (Diagnostic.owned_of_rule.onLine i.line).suggest _

theorem requireImport_decides : Decides .requireImport c (requireImport c ctx) := by
  refine decides_onList fun entries => ?_
  dsimp only
  split
  · exact decides_map fun entry => Diagnostic.owned_of_rule.suggest _
  · exact decides_if Diagnostic.owned_of_rule

theorem allowImport_decides : Decides .allowImport c (allowImport c ctx) :=
  decides_onList fun _ => decides_pass

theorem importableBy_decides : Decides .importableBy c (importableBy c ctx) :=
  decides_onList fun _ => decides_map fun _ => Diagnostic.owned_of_rule

theorem forbidCircularDeps_decides : Decides .forbidCircularDeps c (forbidCircularDeps c ctx) := by
  refine decides_onList fun globs => ?_
  split
  · exact decides_pass
  · exact decides_fail Diagnostic.owned_of_rule

theorem forbidCall_decides : Decides .forbidCall c (forbidCall c ctx) := by
  refine decides_onList fun banned => decides_filterMap fun call d found => ?_
  obtain ⟨hit, -, rfl⟩ := Option.map_eq_some_iff.1 found
  exact Diagnostic.owned_of_rule.onColumn call.line call.column

theorem requireCall_decides : Decides .requireCall c (requireCall c ctx) :=
  decides_onList fun _ => decides_if Diagnostic.owned_of_rule

theorem requireTryCatch_decides : Decides .requireTryCatch c (requireTryCatch c ctx) := by
  have unguarded (targets : List String) :
      Decides .requireTryCatch c (some (unguardedCalls c ctx.model targets)) :=
    decides_map fun call => Diagnostic.owned_of_rule.onColumn call.line call.column
  unfold requireTryCatch
  split
  · exact decides_onList unguarded
  · exact unguarded c.around

theorem requireCallBefore_decides : Decides .requireCallBefore c (requireCallBefore c ctx) := by
  refine decides_onList fun targets => ?_
  dsimp only
  split
  · exact decides_invalidValue _
  · exact decides_map fun call => Diagnostic.owned_of_rule.onColumn call.line call.column

theorem forbidMutation_decides : Decides .forbidMutation c (forbidMutation c ctx) := by
  refine decides_onList fun roots => decides_filterMap fun m d found => ?_
  obtain ⟨hit, -, rfl⟩ := Option.map_eq_some_iff.1 found
  exact Diagnostic.owned_of_rule.onColumn m.line m.column

theorem forbidPattern_decides : Decides .forbidPattern c (forbidPattern c ctx) := by
  refine decides_onList fun patterns => decides_filterMap fun pattern d found => ?_
  split at found
  · cases found
    exact owned_rejection pattern _
  · cases found
  · rename_i line _
    cases found
    exact Diagnostic.owned_of_rule.onLine line

theorem requirePattern_decides : Decides .requirePattern c (requirePattern c ctx) := by
  refine decides_onList fun patterns => decides_filterMap fun pattern d found => ?_
  split at found
  · cases found
    exact owned_rejection pattern _
  · cases found
  · cases found
    exact Diagnostic.owned_of_rule

theorem allowPattern_decides : Decides .allowPattern c (allowPattern c ctx) := by
  refine decides_onList fun patterns => ?_
  dsimp only
  split
  · rename_i violation refused
    obtain ⟨pattern, -, found⟩ := List.exists_of_findSome?_eq_some refused
    split at found
    · cases found
      exact decides_fail (owned_rejection pattern _)
    · cases found
  · exact decides_pass

/-- What ends the search for an entry is a refused pattern. -/
private theorem owned_of_anyPresent {text : String} {entries : List String}
    (refused : anyPresent c ctx text entries = .error d) : d.OwnedBy r c := by
  induction entries with
  | nil => cases refused
  | cons entry rest ih =>
    rw [anyPresent] at refused
    split at refused
    · rename_i violation found
      cases refused
      unfold entryPresent at found
      split at found
      · rename_i pattern _
        cases tried : Pattern.isMatch ctx.limits pattern text with
        | error why =>
          rw [tried] at found
          cases found
          exact owned_rejection pattern why
        | ok present =>
          rw [tried] at found
          cases found
      · cases found
    · cases refused
    · exact ih refused

theorem requireOneOf_decides : Decides .requireOneOf c (requireOneOf c ctx) := by
  refine decides_onList fun entries => ?_
  split
  · exact decides_pass
  · split
    · rename_i refused
      exact decides_fail (owned_of_anyPresent refused)
    · exact decides_pass
    · exact decides_fail Diagnostic.owned_of_rule

/-- What is wrong with a coverage value is said in words of its own. -/
private theorem head_of_gatheredValues {spec : CoverageSpec} {message : String}
    (refused : gatheredValues spec ctx = .error message) : message.toList.head? ≠ some 'v' := by
  unfold gatheredValues at refused
  split at refused
  · cases refused
  · cases refused
  · cases refused
  · cases refused
  · cases refused
  · cases refused
  · cases refused
  · split at refused
    · cases refused
      simp
    · rename_i pattern _
      cases tried : Pattern.captures ctx.limits pattern ctx.content with
      | error why =>
        rw [tried] at refused
        cases refused
        simp
      | ok values =>
        rw [tried] at refused
        cases refused
  · cases refused
    simp

private theorem owned_of_mem_uncovered {spec : CoverageSpec} {limits : PatternLimits}
    {texts values : List String} (member : d ∈ uncovered c spec limits texts values) :
    d.OwnedBy .requireCoverage c := by
  induction values with
  | nil => cases member
  | cons value rest ih =>
    rw [uncovered] at member
    split at member
    · cases List.mem_singleton.1 member
      exact owned_rejection spec.targetPattern _
    · exact ih member
    · rcases List.mem_cons.1 member with rfl | later
      · exact Diagnostic.owned_of_rule
      · exact ih later

theorem requireCoverage_decides : Decides .requireCoverage c (requireCoverage c ctx) := by
  unfold requireCoverage
  split
  · rename_i spec _
    split
    · rename_i message refused
      have gathered : gatheredValues spec ctx = .error message := by
        unfold sourceValues at refused
        cases values : gatheredValues spec ctx with
        | error other =>
          rw [values] at refused
          cases refused
          rfl
        | ok found =>
          rw [values] at refused
          cases refused
      exact decides_fail (Diagnostic.owned_of_malformed (head_of_gatheredValues gathered))
    · exact decides_ofViolations fun d member => owned_of_mem_uncovered member
  · exact decides_invalidValue _

theorem requireIntent_decides : Decides .requireIntent c (requireIntent c ctx) :=
  decides_onList fun _ => decides_if Diagnostic.owned_of_rule

/-- A finding about an intent, with one of the codes for intents. -/
theorem owned_of_intent {code message fixHint : String} {value : ConstraintValue}
    (listed : code ∈ [Code.undefinedIntent, Code.intentPattern, Code.intentConflict,
      Code.missingIntent]) (line : Nat) :
    ((Diagnostic.ofConstraint code c value message fixHint).onLine line).OwnedBy
      .verifyIntent c := by
  have proper : code ∈ Rule.verifyIntent.findingCodes ∧ code ≠ Code.malformedConstraint ∧
      code ≠ Code.pathTraversal := by
    revert code
    decide
  exact (Diagnostic.owned_of_code proper.1 proper.2.1 proper.2.2).onLine line

/-- A place in a text lies on a line no higher than its line feeds allow. -/
theorem lineAt_le (text : String) (position : Nat) :
    Text.lineAt text position ≤ text.toList.count '\n' + 1 := by
  have feeds : ((text.toList.take position).filter (· == '\n')).length =
      (text.toList.take position).count '\n' := List.countP_eq_length_filter.symm
  rw [Text.lineAt, feeds]
  exact Nat.add_le_add_right ((List.take_sublist position text.toList).count_le '\n') 1

theorem findLine_eq {limits : PatternLimits} {pattern text : String} {line : Nat}
    (found : Pattern.findLine limits pattern text = .ok (some line)) :
    ∃ position, line = Text.lineAt text position := by
  unfold Pattern.findLine at found
  cases compiled : Pattern.compile limits pattern with
  | error why =>
    rw [compiled] at found
    cases found
  | ok re =>
    rw [compiled] at found
    obtain ⟨m, -, here⟩ := Option.bind_eq_some_iff.1 (Except.ok.inj found)
    obtain ⟨position, -, same⟩ := Option.map_eq_some_iff.1 here
    exact ⟨position, same.symm⟩

/-- The text of an intent is always found, and so few lines stand before it that every line of the
text has its 64-bit number in the file. -/
theorem scopeText_fits (fits : ctx.Representable) (i : IntentTag) :
    ∃ text skipped, scopeText ctx i = some (text, skipped) ∧
      text.toList.count '\n' + 1 + skipped < 2 ^ 64 := by
  have whole : ctx.content.toList.count '\n' + 1 + 0 < 2 ^ 64 := by
    have feeds := List.count_le_length (a := '\n') (l := ctx.content.toList)
    have short := fits.content
    rw [String.length_toList] at feeds
    omega
  unfold scopeText
  split
  · rename_i name _
    split
    · rename_i f found
      split
      · rename_i positive
        obtain ⟨first, last⟩ := fits.functions f (List.mem_of_find?_eq_some found)
        have skipped : Count.sub? f.startLine 1 = some (f.startLine - 1) := if_pos positive
        rw [skipped, span?_eq positive first last]
        -- Only the lines of the function are counted, from the line that it starts on.
        have feeds := Text.count_span ctx.content f.startLine f.endLine
        exact ⟨Text.span ctx.content f.startLine f.endLine, f.startLine - 1, rfl, by omega⟩
      · exact ⟨_, _, rfl, whole⟩
    · exact ⟨_, _, rfl, whole⟩
  · exact ⟨_, _, rfl, whole⟩

theorem brokenPattern_decides (c : Constraint) (i : IntentTag) (definition : IntentDefinition)
    (limits : PatternLimits) {text : String} {skipped : Nat}
    (room : text.toList.count '\n' + 1 + skipped < 2 ^ 64) (pattern : String) :
    ∃ found, brokenPattern c limits i definition text skipped pattern = some found ∧
      ∀ d ∈ found, d.OwnedBy .verifyIntent c := by
  unfold brokenPattern
  split
  · rename_i why _
    refine ⟨_, rfl, fun d found => ?_⟩
    cases found
    exact owned_rejection pattern why
  · exact ⟨none, rfl, fun d found => absurd found (Option.not_mem_none d)⟩
  · rename_i line found
    obtain ⟨position, rfl⟩ := findLine_eq found
    have bound := lineAt_le text position
    rw [Count.add?_eq (by omega)]
    refine ⟨_, rfl, fun d found => ?_⟩
    cases found
    exact owned_of_intent (by decide) _

theorem brokenPatterns_decides (c : Constraint) (i : IntentTag) (definition : IntentDefinition)
    (limits : PatternLimits) (text : String) (skipped : Nat)
    (room : text.toList.count '\n' + 1 + skipped < 2 ^ 64) :
    ∃ found, brokenPatterns c limits i definition text skipped = some found ∧
      ∀ d ∈ found, d.OwnedBy .verifyIntent c := by
  obtain ⟨out, done, -, owned⟩ := exists_mapM fun pattern (_ : pattern ∈ definition.forbids) =>
    brokenPattern_decides c i definition limits room pattern
  rw [brokenPatterns, done]
  refine ⟨_, rfl, fun d member => ?_⟩
  obtain ⟨found, inside, same⟩ := List.mem_filterMap.1 member
  exact owned found inside d same

private theorem owned_of_mem_conflicts {i : IntentTag} {definition : IntentDefinition}
    {present others : List String} {reported : List (String × String)}
    (member : d ∈ (conflicts c i definition present others reported).1) :
    d.OwnedBy .verifyIntent c := by
  induction others generalizing reported with
  | nil => cases member
  | cons other rest ih =>
    rw [conflicts] at member
    split at member
    · rcases List.mem_cons.1 member with rfl | later
      · exact owned_of_intent (by decide) i.line
      · exact ih later
    · exact ih member

private theorem owned_of_mem_unmetPatterns {i : IntentTag} {definition : IntentDefinition}
    {limits : PatternLimits} {text : String}
    (member : d ∈ unmetPatterns c limits i definition text) : d.OwnedBy .verifyIntent c := by
  obtain ⟨pattern, -, found⟩ := List.mem_filterMap.1 member
  split at found
  · cases found
    exact owned_rejection pattern _
  · cases found
  · cases found
    exact owned_of_intent (by decide) i.line

private theorem owned_of_mem_missingPartners {i : IntentTag} {definition : IntentDefinition}
    {present : List String} (member : d ∈ missingPartners c i definition present) :
    d.OwnedBy .verifyIntent c := by
  obtain ⟨needed, -, rfl⟩ := List.mem_map.1 member
  exact owned_of_intent (by decide) i.line

/-- One intent is checked to the end. -/
theorem checkIntent_decides (fits : ctx.Representable) (i : IntentTag)
    (reported : List (String × String)) :
    ∃ found reported', checkIntent c ctx i reported = some (found, reported') ∧
      ∀ d ∈ found, d.OwnedBy .verifyIntent c := by
  unfold checkIntent
  split
  · refine ⟨_, _, rfl, fun d member => ?_⟩
    cases List.mem_singleton.1 member
    exact (owned_of_intent (by decide) i.line).meaning _
  · rename_i definition _
    obtain ⟨text, skipped, read, room⟩ := scopeText_fits fits i
    obtain ⟨broken, searched, owned⟩ :=
      brokenPatterns_decides c i definition ctx.limits text skipped room
    rw [read]
    dsimp only [Option.bind_eq_bind, Option.bind_some]
    rw [searched]
    refine ⟨_, _, rfl, fun d member => ?_⟩
    simp only [List.mem_append, or_assoc] at member
    rcases member with unmet | present | clash | partner
    · exact owned_of_mem_unmetPatterns unmet
    · exact owned d present
    · exact owned_of_mem_conflicts clash
    · exact owned_of_mem_missingPartners partner

theorem checkIntents_decides (fits : ctx.Representable) (intents : List IntentTag)
    (reported : List (String × String)) :
    ∃ found, checkIntents c ctx intents reported = some found ∧
      ∀ d ∈ found, d.OwnedBy .verifyIntent c := by
  induction intents generalizing reported with
  | nil => exact ⟨[], rfl, fun d member => absurd member List.not_mem_nil⟩
  | cons i rest ih =>
    obtain ⟨first, reported', checked, own⟩ := checkIntent_decides (c := c) fits i reported
    obtain ⟨others, done, later⟩ := ih reported'
    refine ⟨first ++ others, ?_, List.forall_mem_append.2 ⟨own, later⟩⟩
    rw [checkIntents, checked]
    dsimp only [Option.bind_eq_bind, Option.bind_some]
    rw [done]
    rfl

theorem verifyIntent_decides (fits : ctx.Representable) :
    Decides .verifyIntent c (verifyIntent c ctx) := by
  obtain ⟨found, done, owned⟩ :=
    checkIntents_decides (c := c) fits (distinctIntents ctx.intents) []
  rw [verifyIntent, done]
  exact decides_ofViolations owned

/-- The validator of a rule comes to a verdict on every constraint, and finds only what belongs to
the constraint. -/
theorem validator_decides (fits : ctx.Representable) (r : Rule) (c : Constraint) :
    Decides r c (r.validator c ctx) := by
  cases r with
  | mustExtend => exact mustExtend_decides
  | implements => exact implements_decides
  | forbidImport => exact forbidImport_decides
  | requireImport => exact requireImport_decides
  | allowImport => exact allowImport_decides
  | requireDecorator => exact requireDecorator_decides
  | forbidDecorator => exact forbidDecorator_decides
  | namingPattern => exact namingPattern_decides
  | locationPattern => exact locationPattern_decides
  | maxFileLines => exact maxFileLines_decides
  | maxPublicMethods => exact maxPublicMethods_decides
  | requireTestFile => exact requireTestFile_decides
  | importableBy => exact importableBy_decides
  | forbidCircularDeps => exact forbidCircularDeps_decides
  | forbidCall => exact forbidCall_decides
  | requireCall => exact requireCall_decides
  | requireTryCatch => exact requireTryCatch_decides
  | requireCallBefore => exact requireCallBefore_decides
  | forbidMutation => exact forbidMutation_decides
  | forbidPattern => exact forbidPattern_decides
  | requirePattern => exact requirePattern_decides
  | allowPattern => exact allowPattern_decides
  | requireOneOf => exact requireOneOf_decides
  | maxFunctionLines => exact maxFunctionLines_decides fits
  | requireExport => exact requireExport_decides
  | requireCompanionFile => exact requireCompanionFile_decides
  | requireCoverage => exact requireCoverage_decides
  | requireIntent => exact requireIntent_decides
  | verifyIntent => exact verifyIntent_decides fits

end Validator

namespace Catalogue

theorem find?_builtin_eq (name : String) :
    builtin.find? name = (Rule.ofName? name).map fun r => (r, r.validator) := by
  rw [find?, builtin, List.find?_map]
  rfl

theorem run_of_rule {r : Rule} {c : Constraint} {ctx : FileContext} (fits : ctx.Representable)
    (named : c.rule = r.name) :
    (builtin.run c ctx).passed = (builtin.run c ctx).violations.isEmpty ∧
      ∀ d ∈ (builtin.run c ctx).violations, d.OwnedBy r c := by
  obtain ⟨v, done, passed, owned⟩ := Validator.validator_decides fits r c
  have verdict : builtin.run c ctx = v := by
    unfold run
    rw [find?_builtin_eq, named, Rule.ofName?_name, Option.map_some]
    dsimp only
    rw [done, Option.getD_some]
  rw [verdict]
  exact ⟨passed, owned⟩

theorem run_of_unknown {c : Constraint} (unknown : ∀ r : Rule, c.rule ≠ r.name)
    (ctx : FileContext) : builtin.run c ctx = .fail (unknownRule c) := by
  have absent : Rule.ofName? c.rule = none := by
    refine List.find?_eq_none.2 fun r _ same => unknown r ?_
    exact (beq_iff_eq.1 same).symm
  unfold run
  rw [find?_builtin_eq, absent, Option.map_none]

/-- A file passes a constraint if nothing is found. What is found by the validator of a rule has
the constraint's rule, source and severity, except that a path out of the project is an error, and a
code of the rule; a rule without a validator is one warning. -/
theorem findings_belong_to_their_constraint (c : Constraint) (ctx : FileContext)
    (fits : ctx.Representable) :
    ((builtin.run c ctx).passed = true ↔ (builtin.run c ctx).violations = []) ∧
      (∀ r : Rule, c.rule = r.name → ∀ d ∈ (builtin.run c ctx).violations,
        d.rule = c.rule ∧ d.source = c.source ∧
          d.severity = (if d.code = Code.pathTraversal then .error else c.severity) ∧
          d.code ∈ r.findingCodes) ∧
      ((∀ r : Rule, c.rule ≠ r.name) → ∃ d, (builtin.run c ctx).violations = [d] ∧
        d.code = Code.unknownRule ∧ d.severity = .warning ∧ d.rule = c.rule) := by
  refine ⟨?_, ?_, ?_⟩
  · by_cases named : ∃ r : Rule, c.rule = r.name
    · obtain ⟨r, named⟩ := named
      rw [(run_of_rule fits named).1, List.isEmpty_iff]
    · rw [run_of_unknown (not_exists.1 named)]
      exact iff_of_false Bool.false_ne_true (List.cons_ne_nil _ _)
  · intro r named d member
    have own := (run_of_rule fits named).2 d member
    exact ⟨own.rule, own.source, own.severity, own.code⟩
  · intro unknown
    rw [run_of_unknown unknown]
    exact ⟨unknownRule c, rfl, rfl, rfl, rfl⟩

namespace Outermost

/-- A function on the last line that has a number. -/
def ctx : FileContext where
  filePath := "a.ts"
  archId := "svc"
  model := { functions := [{ name := "f", startLine := 2 ^ 64 - 1, endLine := 2 ^ 64 - 1 }] }
  content := "f"
  intents := [{ name := "pure", line := 1, scope := .function (some "f") }]
  intentRegistry := ∅
  project := {}
  limits := {}
  testFilePatterns := []

theorem ctx_representable : ctx.Representable := by
  refine ⟨by simp [ctx], by simp [ctx], by decide⟩

/-- A companion outside the project. -/
def sibling : Constraint :=
  { rule := "require_companion_file", value := .text "../\x7bname\x7d.md", severity := .warning
    source := some "base" }

end Outermost

open Outermost in
theorem sibling_is_an_error_of_its_source :
    ((builtin.run sibling ctx).violations.map (·.code)) = ["SEC001"] ∧
      (builtin.run sibling ctx).passed = false ∧
      ∀ d ∈ (builtin.run sibling ctx).violations, d.source = some "base" ∧ d.severity = .error := by
  obtain ⟨passed, owned, -⟩ := findings_belong_to_their_constraint sibling ctx ctx_representable
  have codes : (builtin.run sibling ctx).violations.map (·.code) = ["SEC001"] := by decide +kernel
  refine ⟨codes, ?_, fun d member => ?_⟩
  · rw [Bool.eq_false_iff, ne_eq, passed]
    intro none
    rw [none] at codes
    cases codes
  · obtain ⟨-, source, severity, -⟩ := owned .requireCompanionFile rfl d member
    have listed : d.code ∈ (builtin.run sibling ctx).violations.map (·.code) :=
      List.mem_map_of_mem member
    have code : d.code = "SEC001" := by simpa [codes] using listed
    rw [code, if_pos (show "SEC001" = Code.pathTraversal from rfl)] at severity
    exact ⟨source, severity⟩

end Catalogue
end Conformance
