import Conformance.Proofs.Override.Suppression
import Conformance.Proofs.Workspace.Isolation

/-! The files that are checked together. A run looks at all files of the project, whichever it is
asked for. So without stored results the result of a file is the same by itself, in any company, and
in a run over the whole project. -/
namespace Conformance

theorem ProjectIndex.eq_of_parts {p q : ProjectIndex} (files : p.files = q.files)
    (imports : p.imports = q.imports) (importers : p.importers = q.importers)
    (contents : p.contents = q.contents) : p = q := by
  cases p
  cases q
  cases files
  cases imports
  cases importers
  cases contents
  rfl

namespace Run
open Workspace
variable {r q : Run}

/-- Runs over the same project that keep no results. They may be asked for different files. -/
structure SameProject (r q : Run) : Prop extends SameFiles r q where
  tree : r.tree = q.tree
  off : r.workspace.config.cache.enabled = false

namespace SameProject
variable (same : SameProject r q)
include same

theorem text_eq (path : String) : r.text path = q.text path := by
  rw [Run.text, Run.text, same.tree, same.opened]

theorem source (path : String) : SameSource r q path :=
  ⟨same.text_eq path, by rw [same.tree, same.opened]⟩

theorem off_too : q.workspace.config.cache.enabled = false := by
  rw [← same.opened, same.off]

/-- Whether a file is asked for plays no part in what it is found to import. -/
theorem seenImports?_eq (path : String) : r.seenImports? path = q.seenImports? path := by
  have missed : r.stored? path = none := stored?_of_off same.off path
  have missedToo : q.stored? path = none := stored?_of_off same.off_too path
  cases readable : r.text path with
  | error e =>
    have unread := (same.text_eq path).symm.trans readable
    rw [seenImports?_unread readable, seenImports?_unread unread]
  | ok content =>
    have readableToo := (same.text_eq path).symm.trans readable
    have imports := ((same.source path).parsed same.toSameFiles content).imports
    rw [seenImports?_missed readable missed, seenImports?_missed readableToo missedToo]
    exact congrArg some imports

theorem project_eq : r.project = q.project := by
  have files : r.project.files = q.project.files := by
    rw [project_files, project_files, same.files]
  have imports : r.project.imports = q.project.imports := by
    refine Dict.ext_find? fun path => Option.ext fun targets => ?_
    rw [project_imports, project_imports, same.paths, same.seenImports?_eq]
  have contents : r.project.contents = q.project.contents := by
    refine Dict.ext_find? fun path => Option.ext fun content => ?_
    refine project_content?.trans (Iff.trans ?_ project_content?.symm)
    rw [same.paths, same.text_eq]
  have importers := project_importers_congr imports
  exact ProjectIndex.eq_of_parts files imports importers contents

theorem result_eq (path : String) : r.result path = q.result path := by
  refine result_congr same.off same.off_too (same.text_eq path) fun content _ => ?_
  rw [← same.opened, ← same.project_eq]
  exact checked_of_sameFile ((same.source path).parsed same.toSameFiles content) r.project

end SameProject

variable {discovered : List String}

/-- Files that are discovered anyway add nothing to the files of a run. -/
theorem paths_of_within (found : r.workspace.discover r.tree = .ok discovered)
    (within : r.targets ⊆ discovered) : r.paths = sortedDistinct discovered := by
  rw [paths, found]
  refine sortedDistinct_eq_iff.2 fun path => ?_
  rw [List.mem_append]
  exact ⟨fun listed => listed.elim id fun asked => within asked, Or.inl⟩

theorem sameProject_of_within (opened : r.workspace = q.workspace) (tree : r.tree = q.tree)
    (off : r.workspace.config.cache.enabled = false)
    (found : r.workspace.discover r.tree = .ok discovered) (within : r.targets ⊆ discovered)
    (withinToo : q.targets ⊆ discovered) : SameProject r q := by
  have foundToo : q.workspace.discover q.tree = .ok discovered := by rw [← opened, ← tree, found]
  refine ⟨⟨opened, found.trans foundToo.symm, ?_⟩, tree, off⟩
  rw [paths_of_within found within, paths_of_within foundToo withinToo]

/-- What a run that finds its project reports. -/
theorem exists_report (found : r.workspace.discover r.tree = .ok discovered) :
    ∃ report, r.outcome = .ok report ∧ report.results = (sortedDistinct r.targets).map r.result ∧
      ∀ path ∈ r.targets, report.result? path = some (r.result path) := by
  obtain ⟨_, _, _, -, done, -⟩ := validatePaths_eq found
  refine ⟨_, done, results_eq, ?_⟩
  intro path asked
  obtain ⟨report, doneToo, given⟩ := result?_of_asked found asked
  cases done.symm.trans doneToo
  exact given

/-- The results of some files of the project among those of all. -/
private theorem filter_results (found : r.workspace.discover r.tree = .ok discovered)
    (within : r.targets ⊆ discovered) :
    ((sortedDistinct discovered).map r.result).filter (fun f => r.targets.contains f.path) =
      (sortedDistinct r.targets).map r.result := by
  have asked : (fun f : FileResult => r.targets.contains f.path) ∘ r.result = r.targets.contains :=
    funext fun path => congrArg r.targets.contains (path_result path)
  rw [List.filter_map, asked, ← paths_of_within found within, targets_of_paths]

end Run

namespace Workspace

/-- A file has one result, whatever else is asked for. Where no results are stored, any two runs
asked for files of the project, in any order, report alike on each file that both are asked for, and
so does a run over all files, of which the others report a part. -/
theorem result_regardless_of_company {w : Workspace} {t : FileTree} {discovered : List String}
    (found : w.discover t = .ok discovered) (off : w.config.cache.enabled = false)
    {targets others : List String} (within : targets ⊆ discovered)
    (withinToo : others ⊆ discovered) (now now' now'' : String) :
    ∃ full part other, (w.validateAll t now).1 = .ok full ∧
      (w.validatePaths t targets now').1 = .ok part ∧
      (w.validatePaths t others now'').1 = .ok other ∧
      (∀ path ∈ targets, ∃ result, part.result? path = some result ∧
        full.result? path = some result ∧
        (path ∈ others → other.result? path = some result)) ∧
      part.results = full.results.filter (fun f => targets.contains f.path) ∧
      ((∀ path, path ∈ targets ↔ path ∈ others) → part.results = other.results) := by
  let whole : Run := ⟨w, t, discovered, now⟩
  let chosen : Run := ⟨w, t, targets, now'⟩
  let company : Run := ⟨w, t, others, now''⟩
  have sameWhole : chosen.SameProject whole :=
    Run.sameProject_of_within rfl rfl off found within (List.Subset.refl _)
  have sameCompany : chosen.SameProject company :=
    Run.sameProject_of_within rfl rfl off found within withinToo
  obtain ⟨full, wholeDone, wholeResults, ofWhole⟩ := Run.exists_report (r := whole) found
  obtain ⟨part, chosenDone, chosenResults, ofChosen⟩ := Run.exists_report (r := chosen) found
  obtain ⟨other, companyDone, companyResults, ofCompany⟩ := Run.exists_report (r := company) found
  have everything : (w.validateAll t now).1 = whole.outcome := by
    rw [validateAll, found]
    rfl
  refine ⟨full, part, other, everything.trans wholeDone, chosenDone, companyDone, ?_, ?_, ?_⟩
  · intro path asked
    refine ⟨chosen.result path, ofChosen path asked, ?_, ?_⟩
    · rw [ofWhole path (within asked), sameWhole.result_eq]
    · intro askedToo
      rw [ofCompany path askedToo, sameCompany.result_eq]
  · rw [chosenResults, wholeResults, ← funext sameWhole.result_eq]
    exact (Run.filter_results (r := chosen) found within).symm
  · intro members
    rw [chosenResults, companyResults, ← funext sameCompany.result_eq]
    exact congrArg (List.map chosen.result) (sortedDistinct_eq_iff.2 members)

open Neighbours in
theorem file_is_reported_alike_beside_its_companion : ∃ full part other : RunReport,
    ((run plain).workspace.validateAll (tree plain) "t").1 = .ok full ∧
    ((run plain).workspace.validatePaths (tree plain) ["a.ts"] "t").1 = .ok part ∧
    ((run plain).workspace.validatePaths (tree plain) ["b.ts", "a.ts", "b.ts"] "t").1 = .ok other ∧
    ∃ result, part.result? "a.ts" = some result ∧ full.result? "a.ts" = some result ∧
      other.result? "a.ts" = some result := by
  have alone : ["a.ts"] ⊆ ["a.ts", "b.ts"] := by decide
  have together : ["b.ts", "a.ts", "b.ts"] ⊆ ["a.ts", "b.ts"] := by decide
  obtain ⟨full, part, other, whole, chosen, company, same, -, -⟩ :=
    result_regardless_of_company (discovers (.inl rfl)) rfl alone together "t" "t" "t"
  obtain ⟨result, inPart, inFull, inOther⟩ := same "a.ts" List.mem_cons_self
  exact ⟨full, part, other, whole, chosen, company, result, inPart, inFull, inOther (by decide)⟩

end Workspace

end Conformance
