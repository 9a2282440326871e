import Conformance.Proofs.Workspace.Check
import Conformance.Proofs.Workspace.Project

/-! Files that do not see one another. Most rules look at one file and at the names of the others,
so that what other files hold, whether they can be read at all, and what they import cannot change
the result of a file that only such rules are for. -/
namespace Conformance

/-- The rules whose verdict on a file may change with what other files hold. -/
def Rule.readsOthers : List Rule := [.importableBy, .forbidCircularDeps, .requireCoverage]

theorem Rule.reach_of_not_readsOthers {rule : Rule} (keeps : rule ∉ Rule.readsOthers) :
    rule.reach = .nothing ∨ rule.reach = .modules ∨ rule.reach = .files := by
  cases rule <;> first
    | exact .inl rfl
    | exact .inr (.inl rfl)
    | exact .inr (.inr rfl)
    | exact absurd (by decide) keeps

/-- An architecture without constraints whose verdict may change with what other files hold. -/
def FlattenedArchitecture.KeepsToItself (a : FlattenedArchitecture) : Prop :=
  ∀ rule ∈ Rule.readsOthers, a.constraintsFor rule = []

namespace Run
open Workspace
variable {r q : Run}

/-- Two runs over projects with the same files, opened alike. What the files hold may differ, and
which of them are asked for. -/
structure SameFiles (r q : Run) : Prop where
  opened : r.workspace = q.workspace
  found : r.workspace.discover r.tree = q.workspace.discover q.tree
  paths : r.paths = q.paths

/-- A file and its stored model are the same in two runs, be it that they cannot be read. -/
structure SameSource (r q : Run) (path : String) : Prop where
  text : r.text path = q.text path
  model : r.tree.readText (ModelSource.modelPath r.workspace.root path) =
    q.tree.readText (ModelSource.modelPath q.workspace.root path)

theorem SameFiles.files (same : SameFiles r q) : r.files = q.files := by
  rw [Run.files, Run.files, same.paths]

theorem SameSource.model_eq {path : String} (own : SameSource r q path)
    (source : r.workspace.modelSource = q.workspace.modelSource)
    (root : r.workspace.root = q.workspace.root) (content : String) :
    r.model path content = q.model path content := by
  have present : r.tree.isPresent (ModelSource.modelPath r.workspace.root path) =
      q.tree.isPresent (ModelSource.modelPath q.workspace.root path) := by
    rw [FileTree.isPresent_eq, FileTree.isPresent_eq, own.model]
  have read := own.model
  unfold Run.model ModelSource.parse
  rw [source]
  rw [root] at present read ⊢
  dsimp only
  rw [present, read]

theorem SameSource.parsed {path : String} (own : SameSource r q path) (same : SameFiles r q)
    (content : String) : SameFile (r.parsed path content) (q.parsed path content) := by
  have model := own.model_eq (by rw [same.opened]) (by rw [same.opened]) content
  refine ⟨rfl, rfl, rfl, model, ?_⟩
  simp only [Run.parsed, same.files, model]

/-- Projects with the same files look the same to an architecture that keeps to itself. -/
theorem SameFiles.sameView (same : SameFiles r q) {a : FlattenedArchitecture}
    (keeps : a.KeepsToItself) (path : String) (model : SourceModel) :
    SameView a path model r.project q.project := by
  have files : r.project.files = q.project.files := by
    rw [project_files, project_files, same.files]
  intro c member rule known
  have own : rule ∉ Rule.readsOthers := by
    intro far
    have none := keeps rule far
    have inside : c ∈ a.constraintsFor rule := by
      refine List.mem_filter.2 ⟨member, ?_⟩
      simpa using (Rule.name_of_ofName? known).symm
    rw [none] at inside
    cases inside
  rcases Rule.reach_of_not_readsOthers own with reach | reach | reach
  · rw [reach]
    trivial
  · rw [reach]
    intro i _
    rw [ProjectIndex.resolveModule?, ProjectIndex.resolveModule?, files]
  · rw [reach]
    exact files

theorem stored?_of_off (off : r.workspace.config.cache.enabled = false) (path : String) :
    r.stored? path = none := by
  rw [stored?, cache?, off]
  rfl

/-- Without stored results, a file that reads alike in two runs has the same result in both if a
check finds the same. -/
theorem result_congr {path : String} (off : r.workspace.config.cache.enabled = false)
    (offToo : q.workspace.config.cache.enabled = false) (text : r.text path = q.text path)
    (alike : ∀ content, r.text path = .ok content →
      checked r.workspace r.project (r.parsed path content) =
        checked q.workspace q.project (q.parsed path content)) :
    r.result path = q.result path := by
  cases readable : r.text path with
  | error e =>
    have unread := text.symm.trans readable
    rw [result_of_unread readable, result_of_unread unread]
  | ok content =>
    have readableToo := text.symm.trans readable
    rw [result_of_missed readable (stored?_of_off off path),
      result_of_missed readableToo (stored?_of_off offToo path)]
    exact alike content readable

/-- The rules for a file, if it has any, keep to themselves. -/
def KeepsToItself (r : Run) (path : String) : Prop :=
  ∀ content tag a, r.text path = .ok content → (TagScan.extract content).arch = some tag →
    r.workspace.resolve tag.id = .ok a → a.KeepsToItself

theorem SameFiles.result_eq (same : SameFiles r q) {path : String} (own : SameSource r q path)
    (builtin : r.workspace.catalogue = .builtin)
    (off : r.workspace.config.cache.enabled = false) (keeps : r.KeepsToItself path) :
    r.result path = q.result path := by
  have offToo : q.workspace.config.cache.enabled = false := by rw [← same.opened, off]
  refine result_congr off offToo own.text fun content readable => ?_
  rw [← same.opened]
  refine checked_congr ⟨⟨rfl, rfl, rfl⟩, rfl, rfl, rfl, rfl, rfl⟩ builtin
    (own.parsed same content) (fun _ _ => rfl) ?_
  intro tag a model arch resolved _
  exact same.sameView (keeps content tag a readable arch resolved) path model

/-- A run that finds its project has the result of every file asked for. -/
theorem result?_of_asked {discovered : List String}
    (found : r.workspace.discover r.tree = .ok discovered) {path : String}
    (asked : path ∈ r.targets) :
    ∃ report, r.outcome = .ok report ∧ report.result? path = some (r.result path) := by
  obtain ⟨_, _, _, -, done, -⟩ := validatePaths_eq found
  refine ⟨_, done, ?_⟩
  have listed : r.result path ∈ r.results := by
    rw [results_eq]
    exact List.mem_map_of_mem (mem_sortedDistinct.2 asked)
  rw [RunReport.result?]
  cases hit : r.results.find? fun f => f.path = path with
  | none => exact absurd (path_result path) (by simpa using List.find?_eq_none.1 hit _ listed)
  | some f =>
    have named : f.path = path := by simpa using List.find?_some hit
    have inside := List.mem_of_find?_eq_some hit
    rw [results_eq] at inside
    obtain ⟨other, -, rfl⟩ := List.mem_map.1 inside
    rw [path_result] at named
    rw [named]

/-- What other files hold does not change the result of a file whose rules keep to themselves, or
that has none. Without stored results, two runs over projects with the same files, opened alike,
give the same result for a file that has the same text and the same stored model in both. -/
theorem result_ignores_other_files {path : String} (same : SameFiles r q) (own : SameSource r q path)
    (builtin : r.workspace.catalogue = .builtin)
    (off : r.workspace.config.cache.enabled = false) (asked : path ∈ r.targets)
    (askedToo : path ∈ q.targets) (keeps : r.KeepsToItself path) :
    (r.outcome.map fun report => report.result? path) =
      (q.outcome.map fun report => report.result? path) ∧
    ∀ report, r.outcome = .ok report → ∃ result, report.result? path = some result := by
  cases found : r.workspace.discover r.tree with
  | error e =>
    have missing := same.found.symm.trans found
    rw [outcome_of_undiscovered found, outcome_of_undiscovered missing]
    exact ⟨rfl, nofun⟩
  | ok discovered =>
    have foundToo := same.found.symm.trans found
    obtain ⟨report, done, result⟩ := result?_of_asked found asked
    obtain ⟨report', doneToo, result'⟩ := result?_of_asked foundToo askedToo
    rw [done, doneToo]
    refine ⟨?_, ?_⟩
    · simp only [Except.map, result, result', same.result_eq own builtin off keeps]
    · rintro _ ⟨⟩
      exact ⟨_, result⟩

end Run

namespace Neighbours

/-- A file that wants a companion. -/
def source : String := "// @arch svc\n"

def registry : Registry := { nodes := .ofList [
  ("svc", { id := "svc", constraints := [.ofRule .requireCompanionFile (.list ["b.ts"])] })] }

/-- A project of the file and its companion, which may hold anything. -/
def tree (companion : ByteArray) : FileTree := { entries := .ofList [
  ("p", .folder), ("p/a.ts", .file source.toUTF8), ("p/b.ts", .file companion)] }

def run (companion : ByteArray) : Run where
  workspace := { Workspace.ofParts "/p" {} registry ⟨0⟩ with modelSource := .text }.withCache false
  tree := tree companion
  targets := ["a.ts"]
  now := "t"

def plain : ByteArray := "// @arch none\n".toUTF8

/-- No text. -/
def broken : ByteArray := ⟨#[255]⟩

theorem discovers {companion : ByteArray} (one : companion = plain ∨ companion = broken) :
    (run companion).workspace.discover (run companion).tree = .ok ["a.ts", "b.ts"] := by
  change (Discovery.files (tree companion) "/p" {}).mapError Workspace.fileFailure = _
  have root : (tree companion).entry "/p" = .ok .folder := by rcases one with rfl | rfl <;> rfl
  have found : Discovery.found (tree companion) "/p" {} = ["a.ts", "b.ts"] := by
    rcases one with rfl | rfl <;> decide +kernel
  rw [Discovery.files_of_found root found (by decide)]
  rfl

private theorem sameFiles : (run plain).SameFiles (run broken) := by
  have found := (discovers (.inl rfl)).trans (discovers (.inr rfl)).symm
  refine ⟨rfl, found, ?_⟩
  rw [Run.paths, Run.paths, found]
  rfl

private theorem sameSource : (run plain).SameSource (run broken) "a.ts" where
  text := by rfl
  model := by rfl

private theorem keepsToItself : (run plain).KeepsToItself "a.ts" := by
  intro content tag a readable arch resolved
  have text : (run plain).text "a.ts" = .ok source := by
    have joined : FileTree.join "/p" "a.ts" = "/p/a.ts" := by decide
    exact Run.text_of_entry joined (by rfl)
  cases text.symm.trans readable
  have known : (TagScan.extract source).arch.map (·.id) = some "svc" := by decide +kernel
  rw [arch] at known
  have id : tag.id = "svc" := Option.some.inj known
  have same : Resolution.resolve registry tag.id = .ok a := resolved
  rw [id] at same
  have rules : (Resolution.resolve registry "svc").toOption.map (fun a =>
      Rule.readsOthers.all fun rule => (a.constraintsFor rule).isEmpty) = some true := by
    decide +kernel
  rw [same] at rules
  intro rule far
  exact List.isEmpty_iff.1 (List.all_eq_true.1 (Option.some.inj rules) rule far)

end Neighbours

open Neighbours in
theorem result_beside_broken_companion : (run broken).text "b.ts" = .error .notText ∧
    ∃ result, (run plain).outcome.map (fun report => report.result? "a.ts") = .ok (some result) ∧
      (run broken).outcome.map (fun report => report.result? "a.ts") = .ok (some result) := by
  obtain ⟨same, reports⟩ := Run.result_ignores_other_files sameFiles sameSource rfl rfl
    List.mem_cons_self List.mem_cons_self keepsToItself
  obtain ⟨report, done, -⟩ := Run.result?_of_asked (r := run plain) (discovers (.inl rfl))
    List.mem_cons_self
  obtain ⟨result, found⟩ := reports report done
  have here : (run plain).outcome.map (fun report => report.result? "a.ts") = .ok (some result) := by
    rw [done, ← found]
    rfl
  exact ⟨by rfl, result, here, same.symm.trans here⟩

end Conformance
