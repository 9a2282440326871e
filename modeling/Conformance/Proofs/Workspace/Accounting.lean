import Conformance.Proofs.Session
import Conformance.Workspace.Run
import Mathlib.Algebra.Order.Group.Multiset
import Mathlib.Data.Multiset.Filter
import Mathlib.Tactic.Abel

/-! Every diagnostic about a file is accounted for: what its constraints, its intents, its
architecture, its overrides and its tags give rise to is split over the lists of its result, with
nothing lost and nothing counted twice. -/
namespace Conformance

namespace FileResult

variable (path : String) (archId : Option String) (ds : List Diagnostic)

private theorem violations_ofDiagnostics :
    ((ofDiagnostics path archId ds).violations : Multiset Diagnostic) =
      (ds : Multiset Diagnostic).filter (·.severity = .error) := rfl

private theorem warnings_ofDiagnostics :
    ((ofDiagnostics path archId ds).warnings : Multiset Diagnostic) =
      (ds : Multiset Diagnostic).filter (·.severity = .warning) := by
  have other (severity : Severity) : severity ≠ .error ↔ severity = .warning := by
    cases severity <;> decide
  rw [← Multiset.filter_congr fun (d : Diagnostic) _ => other d.severity]
  rfl

/-- The two severities split the diagnostics. -/
private theorem sorted_ofDiagnostics :
    ((ofDiagnostics path archId ds).violations : Multiset Diagnostic) +
      (ofDiagnostics path archId ds).warnings = ds :=
  Multiset.filter_add_not (fun d : Diagnostic => d.severity = .error) (ds : Multiset Diagnostic)

private theorem statusOf_cases (violations warnings : List Diagnostic) :
    (statusOf violations warnings = .fail ↔ violations ≠ []) ∧
      (statusOf violations warnings = .warn ↔ violations = [] ∧ warnings ≠ []) ∧
      (statusOf violations warnings = .pass ↔ violations = [] ∧ warnings = []) := by
  cases violations <;> cases warnings <;> simp [statusOf]

end FileResult

namespace Override

variable (ds : List Diagnostic) (overrides : List OverrideTag) (policy : OverridePolicy)
  (today : Date)

/-- A finding that an active override names. -/
def Suppressed (d : Diagnostic) : Prop :=
  isOverridable d = true ∧ ∃ t ∈ active policy today overrides, «matches» t d = true

instance : DecidablePred (Suppressed overrides policy today) := fun d =>
  inferInstanceAs (Decidable (isOverridable d = true ∧ ∃ t ∈ _, «matches» t d = true))

theorem decide_suppressed (d : Diagnostic) :
    decide (Suppressed overrides policy today d) =
      (isOverridable d && (active policy today overrides).any fun t => «matches» t d) := by
  rw [Bool.eq_iff_iff, decide_eq_true_iff]
  simp [Suppressed]

theorem overridden_apply :
    ((apply ds overrides policy today).overridden : Multiset Diagnostic) =
      (ds : Multiset Diagnostic).filter (Suppressed overrides policy today) := by
  simp only [apply, Multiset.filter_coe, decide_suppressed]

theorem kept_apply :
    ((apply ds overrides policy today).kept : Multiset Diagnostic) =
      (ds : Multiset Diagnostic).filter fun d => ¬Suppressed overrides policy today d := by
  simp only [apply, Multiset.filter_coe, decide_not, decide_suppressed]

/-- The codes of what is said about overrides and tags. -/
def tagCodes : List String :=
  [Code.overrideForm, Code.overrideField, Code.overrideExpired, Code.overrideTooLong,
    Code.overrideLimit, Code.noExpiry, Code.unparsed]

theorem isOverridable_of_tagCode {d : Diagnostic} (listed : d.code ∈ tagCodes) :
    isOverridable d = false := by
  rw [isOverridable]
  revert listed
  generalize d.code = code
  revert code
  decide

theorem isOverridable_issue (t : OverrideTag) (severity : Severity) (i : OverrideIssue) :
    isOverridable (issueDiagnostic t severity i) = false := by
  have code : (issueDiagnostic t severity i).code = i.code := Diagnostic.code_onLine _ _
  apply isOverridable_of_tagCode
  rw [code]
  cases i <;> simp [OverrideIssue.code, tagCodes]

private theorem isOverridable_ofTagError (e : TagError) : isOverridable (ofTagError e) = false := by
  have code : (ofTagError e).code = e.problem.code := Diagnostic.code_onLine _ _
  apply isOverridable_of_tagCode
  rw [code]
  cases e.problem <;> simp [TagProblem.code, tagCodes]

/-- Nothing that is said about an override itself can be overridden. -/
private theorem isOverridable_of_mem_issues {d : Diagnostic}
    (member : d ∈ (apply ds overrides policy today).issues) : isOverridable d = false := by
  obtain ⟨⟨t, index⟩, -, raised⟩ := List.mem_flatMap.mp member
  simp only [issuesOf, List.mem_append, List.mem_map] at raised
  rcases raised with (⟨i, -, rfl⟩ | ⟨i, -, rfl⟩) | limit
  · exact isOverridable_issue t .error i
  · exact isOverridable_issue t .warning i
  · split at limit
    · cases List.mem_singleton.mp limit
      exact isOverridable_issue t .error _
    · cases limit

theorem filter_suppressed {ds : List Diagnostic} (lasting : ∀ d ∈ ds, isOverridable d = false) :
    (ds : Multiset Diagnostic).filter (Suppressed overrides policy today) = 0 := by
  refine Multiset.filter_eq_nil.mpr fun d member suppressed => ?_
  exact Bool.false_ne_true ((lasting d (Multiset.mem_coe.mp member)).symm.trans suppressed.1)

end Override

namespace Workspace

/-- All that there is to say about a file of a resolved architecture, by where it comes from. -/
structure Sources where
  constraints : List Diagnostic
  /-- The check of intents that no constraint asks for. -/
  intents : List Diagnostic
  deprecation : List Diagnostic
  overrides : List Diagnostic
  tags : List Diagnostic

/-- The diagnostics of every source, with their multiplicities. -/
def Sources.all (s : Sources) : Multiset Diagnostic :=
  s.constraints + s.intents + s.deprecation + s.overrides + s.tags

variable (w : Workspace) (project : ProjectIndex) (f : ParsedFile) (archId : String)
  (a : FlattenedArchitecture) (model : SourceModel)

def sources : Sources where
  constraints := a.constraints.flatMap fun c =>
    (w.catalogue.run c (w.contextOf project f archId model)).violations
  intents :=
    if f.tags.intents ≠ [] ∧ ∀ c ∈ a.constraints, c.rule ≠ Rule.verifyIntent.name then
      (w.catalogue.run { Constraint.ofRule .verifyIntent (.list []) with source := some archId }
        (w.contextOf project f archId model)).violations
    else []
  deprecation := match a.deprecation with
    | some d => [deprecated archId d]
    | none => []
  overrides := f.tags.overrides.zipIdx.flatMap
    (Override.issuesOf w.config.overrides w.today f.tags.overrides.length)
  tags := f.tags.errors.map Override.ofTagError

/-- Intents are checked without a constraint exactly when there are some and no constraint does. -/
private theorem flatMap_implicitConstraints :
    ((implicitConstraints archId a (w.contextOf project f archId model).intents).flatMap fun c =>
      (w.catalogue.run c (w.contextOf project f archId model)).violations) =
        (w.sources project f archId a model).intents := by
  have asked : (!(w.contextOf project f archId model).intents.isEmpty &&
      (a.constraintsFor .verifyIntent).isEmpty) = true ↔
        f.tags.intents ≠ [] ∧ ∀ c ∈ a.constraints, c.rule ≠ Rule.verifyIntent.name := by
    simp [contextOf, FlattenedArchitecture.constraintsFor]
  simp only [implicitConstraints, sources, asked]
  split
  · rw [List.flatMap_singleton]
  · rfl

/-- The findings before overrides are those of the first three sources. -/
private theorem coe_findings :
    (w.findings archId a (w.contextOf project f archId model) : Multiset Diagnostic) =
      (w.sources project f archId a model).constraints +
        (w.sources project f archId a model).intents +
        (w.sources project f archId a model).deprecation := by
  have advice : (a.deprecation.map (deprecated archId)).toList =
      (w.sources project f archId a model).deprecation := by
    unfold sources
    cases a.deprecation <;> rfl
  rw [findings, List.flatMap_append, flatMap_implicitConstraints, advice, ← Multiset.coe_add,
    ← Multiset.coe_add]
  rfl

/-- What overrides make of the findings about a file. -/
def outcome : Override.Outcome :=
  Override.apply (w.findings archId a (w.contextOf project f archId model)) f.tags.overrides
    w.config.overrides w.today

theorem all_eq_findings :
    (w.sources project f archId a model).all =
      (w.findings archId a (w.contextOf project f archId model) : Multiset Diagnostic) +
        (w.outcome project f archId a model).issues + f.tags.errors.map Override.ofTagError := by
  rw [Sources.all, coe_findings]
  rfl

/-- What is sorted by severity. -/
def reported : List Diagnostic :=
  (w.outcome project f archId a model).kept ++ (w.outcome project f archId a model).issues ++
    f.tags.errors.map Override.ofTagError

theorem reported_add_overridden :
    (w.reported project f archId a model : Multiset Diagnostic) +
        (w.outcome project f archId a model).overridden =
      (w.sources project f archId a model).all := by
  have split : ((w.outcome project f archId a model).overridden : Multiset Diagnostic) +
      (w.outcome project f archId a model).kept =
        w.findings archId a (w.contextOf project f archId model) := by
    rw [outcome, Override.overridden_apply, Override.kept_apply, Multiset.filter_add_not]
  rw [all_eq_findings, ← split, reported, ← Multiset.coe_add, ← Multiset.coe_add]
  abel

private theorem overridden_eq_suppressed :
    ((w.outcome project f archId a model).overridden : Multiset Diagnostic) =
      (w.sources project f archId a model).all.filter
        (Override.Suppressed f.tags.overrides w.config.overrides w.today) := by
  have issues : ∀ d ∈ (w.outcome project f archId a model).issues,
      Override.isOverridable d = false :=
    fun d => Override.isOverridable_of_mem_issues _ _ _ _
  have tags : ∀ d ∈ f.tags.errors.map Override.ofTagError, Override.isOverridable d = false := by
    intro d member
    obtain ⟨e, -, rfl⟩ := List.mem_map.mp member
    exact Override.isOverridable_ofTagError e
  rw [all_eq_findings, Multiset.filter_add, Multiset.filter_add,
    Override.filter_suppressed _ _ _ issues, Override.filter_suppressed _ _ _ tags, add_zero,
    add_zero]
  exact Override.overridden_apply _ _ _ _

variable {w project f archId a model}

private theorem checkFile_resolved {s : Session} {tag : ArchTag}
    (remembered : s.architectures.Sound fun id a => a = w.resolve id)
    (tagged : f.tags.arch = some tag) (resolved : w.resolve tag.id = .ok a)
    (parsed : f.model = .ok model) :
    (w.checkFile project s f).1 =
      { FileResult.ofDiagnostics f.path (some tag.id) (w.reported project f tag.id a model) with
        overridden := (w.outcome project f tag.id a model).overridden
        overridesCount := (w.outcome project f tag.id a model).overridden.length
        imports := f.imports } := by
  obtain ⟨flattened, -⟩ := remembered.getOrInsert tag.id (fun _ => w.resolve tag.id) rfl
  simp only [checkFile, tagged]
  rw [flattened, resolved]
  simp only [checkTagged, parsed]
  rfl

/-- Whatever any source has to say about a file is in exactly one list of its result: set aside if
an active override names it, else sorted by severity, which decides the status. -/
theorem every_diagnostic_is_placed {s : Session} {f : ParsedFile} {tag : ArchTag}
    {a : FlattenedArchitecture} {model : SourceModel}
    (remembered : s.architectures.Sound fun id a => a = w.resolve id)
    (tagged : f.tags.arch = some tag) (resolved : w.resolve tag.id = .ok a)
    (parsed : f.model = .ok model) :
    let result := (w.checkFile project s f).1
    let all := (w.sources project f tag.id a model).all
    let kept := all - (result.overridden : Multiset Diagnostic)
    ((result.violations ++ result.warnings ++ result.overridden : List Diagnostic) :
        Multiset Diagnostic) = all ∧
      (result.violations : Multiset Diagnostic) = kept.filter (·.severity = .error) ∧
      (result.warnings : Multiset Diagnostic) = kept.filter (·.severity = .warning) ∧
      (result.overridden : Multiset Diagnostic) =
        all.filter (Override.Suppressed f.tags.overrides w.config.overrides w.today) ∧
      result.overridesCount = result.overridden.length ∧
      (result.status = .fail ↔ result.violations ≠ []) ∧
      (result.status = .warn ↔ result.violations = [] ∧ result.warnings ≠ []) ∧
      (result.status = .pass ↔ result.violations = [] ∧ result.warnings = []) := by
  have whole := w.reported_add_overridden project f tag.id a model
  have kept : (w.sources project f tag.id a model).all -
      (w.outcome project f tag.id a model).overridden = w.reported project f tag.id a model := by
    rw [← whole, add_tsub_cancel_right]
  rw [checkFile_resolved remembered tagged resolved parsed]
  refine ⟨?_, ?_, ?_, ?_, rfl, ?_⟩
  · rw [← Multiset.coe_add, ← Multiset.coe_add, ← whole]
    exact congrArg (· + _) (FileResult.sorted_ofDiagnostics f.path (some tag.id) _)
  · rw [kept]
    exact FileResult.violations_ofDiagnostics f.path (some tag.id) _
  · rw [kept]
    exact FileResult.warnings_ofDiagnostics f.path (some tag.id) _
  · exact w.overridden_eq_suppressed project f tag.id a model
  · exact FileResult.statusOf_cases _ _

end Workspace

namespace MixedReport

/-- A file with something to say from every source. -/
def source : String :=
  "// @arch svc\n// @intent:pure\n// @override max_file_lines:1\n// @reason legacy\n// @ticket\n"

def registry : Registry := { nodes := .ofList [
  ("svc", { id := "svc"
            constraints := [.ofRule .maxFileLines (.number 1), .ofRule .requireExport (.text "run")]
            deprecatedFrom := some "2024" })] }

def workspace : Workspace := .ofParts "/p" {} registry ⟨0⟩

def flattened : FlattenedArchitecture where
  archId := "svc"
  inheritanceChain := ["svc"]
  appliedMixins := []
  constraints := [{ Constraint.ofRule .maxFileLines (.number 1) with source := some "svc" },
    { Constraint.ofRule .requireExport (.text "run") with source := some "svc" }]
  hints := []
  description := none
  rationale := none
  deprecation := some { since := "2024", migrationGuide := none }

def model : SourceModel := { lineCount := 5 }

def file : ParsedFile where
  path := "a.ts"
  content := source
  checksum := ""
  target := true
  tags := TagScan.extract source
  model := .ok model
  imports := []

end MixedReport

open MixedReport in
theorem every_source_is_accounted_for :
    let result := (workspace.checkFile {} {} file).1
    [result.violations, result.warnings, result.overridden].map (·.map (·.code)) =
        [["E025", "I001", "O001"], ["W001", "W003"], ["E010"]] ∧
      ((result.violations ++ result.warnings ++ result.overridden : List Diagnostic) :
        Multiset Diagnostic) = (workspace.sources {} file "svc" flattened model).all := by
  have tagged : file.tags.arch = some ⟨"svc", 1⟩ := by decide +kernel
  have resolved : workspace.resolve "svc" = .ok flattened := by decide +kernel
  refine ⟨by decide +kernel, ?_⟩
  exact (Workspace.every_diagnostic_is_placed Memo.sound_empty tagged resolved rfl).1

end Conformance
