import Conformance.Validator.Catalogue
import Mathlib.Data.List.Basic

/-! How far the verdict of a rule reaches into the project. Most rules look at the file alone;
the others see one aspect of the rest, and nothing else of it can change their verdict. -/
namespace Conformance

/-- What a rule sees of the project besides the file it checks. -/
inductive Reach where
  | nothing
  /-- The project files that the imports of the file name. -/
  | modules
  /-- Which files there are. -/
  | files
  /-- Which files there are and what they hold. -/
  | texts
  /-- Which file imports which. -/
  | imports
  deriving DecidableEq, Repr

def Rule.reach : Rule → Reach
  | .forbidImport | .requireImport | .requireOneOf => .modules
  | .requireTestFile | .requireCompanionFile => .files
  | .requireCoverage => .texts
  | .importableBy | .forbidCircularDeps => .imports
  | _ => .nothing

/-- The imports of a file name the same files in two projects. -/
def SameModules (path : String) (model : SourceModel) (p q : ProjectIndex) : Prop :=
  ∀ i ∈ model.imports, p.resolveModule? path i.moduleSpecifier = q.resolveModule? path i.moduleSpecifier

/-- Two projects that cannot be told apart within a reach, from a file with a model. -/
def Reach.Same (path : String) (model : SourceModel) (p q : ProjectIndex) : Reach → Prop
  | .nothing => True
  | .modules => SameModules path model p q
  | .files => p.files = q.files
  | .texts => p.files = q.files ∧ p.contents = q.contents
  | .imports => p.imports = q.imports ∧ p.importers = q.importers

namespace ProjectIndex

theorem visitRound_congr {p q : ProjectIndex} (same : p.imports = q.imports)
    (within : String → Bool) (start : String) (files : List String) (s : Search) :
    visitRound p within start files s = visitRound q within start files s := by
  induction files generalizing s with
  | nil => rfl
  | cons file rest ih =>
    have targets : p.importsOf file = q.importsOf file := by rw [importsOf, importsOf, same]
    rw [visitRound, visitRound, targets]
    split
    · rfl
    · exact ih _

theorem searchRounds_congr {p q : ProjectIndex} (same : p.imports = q.imports)
    (within : String → Bool) (start : String) (fuel : Nat) (s : Search) :
    searchRounds p within start fuel s = searchRounds q within start fuel s := by
  induction fuel generalizing s with
  | zero => rfl
  | succ fuel ih =>
    rw [searchRounds, searchRounds, visitRound_congr same]
    split
    · rfl
    · split
      · rfl
      · exact ih _

/-- Cycles depend on the imports alone. -/
theorem cycleThrough?_congr {p q : ProjectIndex} (same : p.imports = q.imports) (start : String)
    (within : String → Bool) : p.cycleThrough? start within = q.cycleThrough? start within := by
  have edges : p.edges = q.edges := by rw [ProjectIndex.edges, ProjectIndex.edges, same]
  rw [cycleThrough?, cycleThrough?, edges, searchRounds_congr same]

end ProjectIndex

namespace Validator
variable {ctx : FileContext} {q : ProjectIndex} {c : Constraint}

theorem importMatches_congr (same : SameModules ctx.filePath ctx.model ctx.project q)
    (entry : String) {i : ImportDecl} (member : i ∈ ctx.model.imports) :
    importMatches { ctx with project := q } entry i = importMatches ctx entry i := by
  simp only [importMatches, same i member]

theorem any_importMatches_congr (same : SameModules ctx.filePath ctx.model ctx.project q)
    (entry : String) :
    ctx.model.imports.any (importMatches { ctx with project := q } entry) =
      ctx.model.imports.any (importMatches ctx entry) := by
  rw [Bool.eq_iff_iff, List.any_eq_true, List.any_eq_true]
  constructor
  · rintro ⟨i, member, hit⟩
    exact ⟨i, member, (importMatches_congr same entry member).symm.trans hit⟩
  · rintro ⟨i, member, hit⟩
    exact ⟨i, member, (importMatches_congr same entry member).trans hit⟩

theorem forbidImport_congr (same : SameModules ctx.filePath ctx.model ctx.project q) :
    forbidImport c { ctx with project := q } = forbidImport c ctx := by
  unfold forbidImport onList
  cases c.value.toList? with
  | none => rfl
  | some entries =>
    refine congrArg (fun found => some (Verdict.ofViolations found)) ?_
    refine List.filterMap_congr fun i member => ?_
    have hit : (fun entry => importMatches { ctx with project := q } entry i) =
        fun entry => importMatches ctx entry i :=
      funext fun entry => importMatches_congr same entry member
    simp only [hit]

theorem requireImport_congr (same : SameModules ctx.filePath ctx.model ctx.project q) :
    requireImport c { ctx with project := q } = requireImport c ctx := by
  unfold requireImport onList
  simp only [any_importMatches_congr same]

theorem anyPresent_congr (same : SameModules ctx.filePath ctx.model ctx.project q) (text : String)
    (entries : List String) :
    anyPresent c { ctx with project := q } text entries = anyPresent c ctx text entries := by
  induction entries with
  | nil => rfl
  | cons entry rest ih =>
    have present : entryPresent c { ctx with project := q } text entry =
        entryPresent c ctx text entry := by
      simp only [entryPresent, any_importMatches_congr same]
    rw [anyPresent, anyPresent, present, ih]

theorem requireOneOf_congr (same : SameModules ctx.filePath ctx.model ctx.project q) :
    requireOneOf c { ctx with project := q } = requireOneOf c ctx := by
  unfold requireOneOf onList
  simp only [anyPresent_congr same]

theorem checkIntents_congr (intents : List IntentTag) (reported : List (String × String)) :
    checkIntents c { ctx with project := q } intents reported =
      checkIntents c ctx intents reported := by
  induction intents generalizing reported with
  | nil => rfl
  | cons i rest ih =>
    have here : checkIntent c { ctx with project := q } i reported = checkIntent c ctx i reported :=
      rfl
    simp only [checkIntents, here, ih]

theorem contains_congr {p q : ProjectIndex} (same : p.files = q.files) : p.contains = q.contains := by
  funext path
  rw [ProjectIndex.contains, ProjectIndex.contains, same]

/-- A verdict changes only with what its rule sees of the project. -/
theorem validator_congr (rule : Rule)
    (same : rule.reach.Same ctx.filePath ctx.model ctx.project q) :
    rule.validator c { ctx with project := q } = rule.validator c ctx := by
  cases rule with
  | forbidImport => exact forbidImport_congr same
  | requireImport => exact requireImport_congr same
  | requireOneOf => exact requireOneOf_congr same
  | requireTestFile =>
    simp only [Rule.validator, requireTestFile, onList, contains_congr same]
  | requireCompanionFile =>
    simp only [Rule.validator, requireCompanionFile, onList, contains_congr same]
  | requireCoverage =>
    have texts (spec : CoverageSpec) :
        targetTexts spec { ctx with project := q } = targetTexts spec ctx := by
      have content : q.content? = ctx.project.content? := by
        funext path
        rw [ProjectIndex.content?, ProjectIndex.content?, same.2]
      simp only [targetTexts, content, same.1]
    simp only [Rule.validator, requireCoverage, texts]
    rfl
  | importableBy =>
    have importers : q.importersOf ctx.filePath = ctx.project.importersOf ctx.filePath := by
      rw [ProjectIndex.importersOf, ProjectIndex.importersOf, same.2]
    simp only [Rule.validator, importableBy, onList, importers]
  | forbidCircularDeps =>
    simp only [Rule.validator, forbidCircularDeps, onList,
      ProjectIndex.cycleThrough?_congr same.1]
  | verifyIntent => exact congrArg (Option.map Verdict.ofViolations) (checkIntents_congr _ _)
  | _ => rfl

end Validator

end Conformance
