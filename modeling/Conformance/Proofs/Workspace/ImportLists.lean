import Conformance.Proofs.Workspace.Dependence
import Conformance.Proofs.Workspace.Isolation

/-! The import lists that results carry, and that stored results bring into the import graphs of
later runs. A result says what its file imports, unless its architecture cannot be resolved: then
it says that the file imports nothing. So the graphs of runs over a project that does not change
are the same up to the imports of such files, which are there as long as nothing is stored. -/
namespace Conformance

namespace Run
open Workspace
variable {r : Run} {path : String}

/-- The project files that a file imports, as parsing finds them. -/
def foundImports (r : Run) (path : String) : List String :=
  (r.text path).toOption.elim [] fun content => importsOf r.files path (r.model path content)

/-- The file names an architecture that cannot be resolved. -/
def isUnresolved (r : Run) (path : String) : Bool :=
  (r.text path).toOption.any fun content =>
    (TagScan.extract content).arch.any fun tag => !(r.workspace.resolve tag.id).isOk

/-- The imports that the result of a file carries. -/
def keptImports (r : Run) (path : String) : List String :=
  if r.isUnresolved path then [] else r.foundImports path

theorem foundImports_of_text {content : String} (readable : r.text path = .ok content) :
    r.foundImports path = importsOf r.files path (r.model path content) := by
  rw [foundImports, readable, Except.toOption, Option.elim_some]

theorem isUnresolved_of_text {content : String} (readable : r.text path = .ok content) :
    r.isUnresolved path =
      (TagScan.extract content).arch.any fun tag => !(r.workspace.resolve tag.id).isOk := by
  rw [isUnresolved, readable]
  rfl

theorem keptImports_of_unread {e : FileError} (unread : r.text path = .error e) :
    r.foundImports path = [] ∧ r.keptImports path = [] := by
  have found : r.foundImports path = [] := by
    rw [foundImports, unread]
    rfl
  refine ⟨found, ?_⟩
  rw [keptImports, found, ite_self]

theorem keptImports_eq (harmless : r.isUnresolved path = true → r.foundImports path = []) :
    r.keptImports path = r.foundImports path := by
  rw [keptImports]
  split
  · rename_i unknown
    exact (harmless unknown).symm
  · rfl

theorem result_imports_of_missed (missed : r.stored? path = none) :
    (r.result path).imports = r.keptImports path := by
  cases readable : r.text path with
  | error e =>
    rw [result_of_unread readable, (keptImports_of_unread readable).2]
    rfl
  | ok content =>
    rw [result_of_missed readable missed, keptImports, isUnresolved_of_text readable,
      foundImports_of_text readable]
    exact checked_imports r.workspace r.project (r.parsed path content) (parsed_imports content)

/-- What a run sees of the imports of a file in its graph. -/
private theorem project_importsOf (asked : path ∈ r.paths) :
    r.project.importsOf path = (r.seenImports? path).getD [] := by
  rw [ProjectIndex.importsOf]
  cases seen : r.seenImports? path with
  | some targets => rw [project_imports.2 ⟨asked, seen⟩]
  | none =>
    cases found : r.project.imports.find? path with
    | none => rfl
    | some targets =>
      rw [(project_imports.1 found).2] at seen
      cases seen

/-- The results of a run are those of the files asked for. -/
private theorem mem_results {report : RunReport} (done : r.outcome = .ok report) {a : FileResult}
    (member : a ∈ report.results) : a.path ∈ r.targets ∧ a = r.result a.path := by
  cases found : r.workspace.discover r.tree with
  | error e =>
    rw [outcome_of_undiscovered found] at done
    cases done
  | ok discovered =>
    obtain ⟨_, _, _, -, doneToo, -⟩ := validatePaths_eq found
    cases done.symm.trans doneToo
    rw [results_eq] at member
    obtain ⟨path, asked, rfl⟩ := List.mem_map.1 member
    rw [path_result]
    exact ⟨mem_sortedDistinct.1 asked, rfl⟩

end Run

namespace Visit
variable {root : String} {source : ModelSource} {v w u : Visit root source} {path : String}

/-- Two visits to a project that is the same: its registry and configuration, its files, their
texts and their stored models. -/
structure Unchanged (v w : Visit root source) : Prop where
  registry : v.registry = w.registry
  config : v.config = w.config
  paths : v.run.paths = w.run.paths
  source : ∀ path ∈ w.run.paths, v.run.SameSource w.run path

theorem Unchanged.refl (v : Visit root source) : v.Unchanged v :=
  ⟨rfl, rfl, rfl, fun _ _ => ⟨rfl, rfl⟩⟩

theorem Unchanged.symm (same : v.Unchanged w) : w.Unchanged v where
  registry := same.registry.symm
  config := same.config.symm
  paths := same.paths.symm
  source path asked := by
    rw [same.paths] at asked
    exact ⟨(same.source path asked).text.symm, (same.source path asked).model.symm⟩

theorem Unchanged.trans (same : v.Unchanged w) (sameToo : w.Unchanged u) : v.Unchanged u where
  registry := same.registry.trans sameToo.registry
  config := same.config.trans sameToo.config
  paths := same.paths.trans sameToo.paths
  source path asked := by
    have first := same.source path (by rw [sameToo.paths]; exact asked)
    have second := sameToo.source path asked
    exact ⟨first.text.trans second.text, first.model.trans second.model⟩

theorem Unchanged.rules (same : v.Unchanged w) : v.SameRules w := by
  refine ⟨?_, same.config⟩
  rw [same.registry]
  exact ⟨rfl, rfl, rfl⟩

theorem Unchanged.input? (same : v.Unchanged w) (asked : path ∈ w.run.paths) :
    v.input? path = w.input? path := by
  have own := same.source path asked
  have sidecar : v.run.sidecar? path = w.run.sidecar? path := by
    cases source with
    | text => rfl
    | stored => exact congrArg Except.toOption own.model
  rw [Visit.input?, Visit.input?, own.text, sidecar]

theorem Unchanged.foundImports (same : v.Unchanged w) (asked : path ∈ w.run.paths) :
    v.run.foundImports path = w.run.foundImports path := by
  have own := same.source path asked
  have files : v.run.files = w.run.files := by rw [Run.files, Run.files, same.paths]
  rw [Run.foundImports, Run.foundImports, own.text]
  cases w.run.text path with
  | error e => rw [Except.toOption, Option.elim_none, Option.elim_none]
  | ok content =>
    have model : v.run.model path content = w.run.model path content := own.model_eq rfl rfl content
    dsimp only [Except.toOption, Option.elim_some]
    rw [files, model]

theorem Unchanged.isUnresolved (same : v.Unchanged w) (asked : path ∈ w.run.paths) :
    v.run.isUnresolved path = w.run.isUnresolved path := by
  have resolve (id : String) : v.run.workspace.resolve id = w.run.workspace.resolve id :=
    same.rules.workspace.resolve id
  rw [Run.isUnresolved, Run.isUnresolved, (same.source path asked).text]
  simp only [resolve]

theorem Unchanged.keptImports (same : v.Unchanged w) (asked : path ∈ w.run.paths) :
    v.run.keptImports path = w.run.keptImports path := by
  rw [Run.keptImports, Run.keptImports, same.isUnresolved asked, same.foundImports asked]

end Visit

namespace History
variable {root : String} {source : ModelSource} {earlier : List (Visit root source)}
  {last v : Visit root source} {path : String}

section Unchanged

variable (unchanged : ∀ w ∈ earlier, w.Unchanged last)
include unchanged

theorem same_of_mem (member : v ∈ last :: earlier) : v.Unchanged last := by
  rcases List.mem_cons.1 member with rfl | before
  · exact .refl v
  · exact unchanged v before

/-- Visits that take digests of the same texts see no collision. -/
private theorem collisionFree_of_unchanged : CollisionFree (last :: earlier) := by
  have pair {v w : Visit root source} (memberV : v ∈ last :: earlier)
      (memberW : w ∈ last :: earlier) : v.Unchanged w :=
    (same_of_mem unchanged memberV).trans (same_of_mem unchanged memberW).symm
  refine ⟨?_, ?_, ?_⟩
  · intro v memberV w memberW _
    rw [(pair memberV memberW).registry]
  · intro v memberV w memberW _
    rw [(pair memberV memberW).config]
  · intro v memberV w memberW path _ asked a b atV atW _
    rw [(pair memberV memberW).input? asked, atW] at atV
    exact Option.some.inj atV.symm

variable (history : History root source earlier last.tree)
include history

/-- A stored result carries the imports that a check would keep. -/
theorem stored_imports_eq (member : v ∈ last :: earlier) (asked : path ∈ v.run.paths)
    {content : String} (readable : v.run.text path = .ok content) {e : CachedResult}
    (hit : v.run.stored? path = some e) : e.imports = v.run.keptImports path := by
  -- Whichever visit made the entry, it checked the project as it is now.
  obtain ⟨w, inside, -, stores⟩ :=
    history.origin (collisionFree_of_unchanged unchanged) member asked readable hit
  have same := (unchanged w inside).trans (same_of_mem unchanged member).symm
  rw [stores.entry, ← same.keptImports asked]
  exact Run.result_imports_of_missed stores.missed

private theorem result_imports (member : v ∈ last :: earlier) (asked : path ∈ v.run.paths) :
    (v.run.result path).imports = v.run.keptImports path := by
  cases hit : v.run.stored? path with
  | none => exact Run.result_imports_of_missed hit
  | some e =>
    cases readable : v.run.text path with
    | error e =>
      rw [Run.result_of_unread readable, (Run.keptImports_of_unread readable).2]
      rfl
    | ok content =>
      rw [Run.result_of_stored readable hit]
      exact stored_imports_eq unchanged history member asked readable hit

/-- The imports of a file in the graph of a run. -/
theorem seenImports?_eq (member : v ∈ last :: earlier) (asked : path ∈ v.run.paths) :
    v.run.seenImports? path = (v.run.text path).toOption.map fun _ =>
      if (v.run.stored? path).isSome then v.run.keptImports path else v.run.foundImports path := by
  cases readable : v.run.text path with
  | error e => exact Run.seenImports?_unread readable
  | ok content =>
    cases hit : v.run.stored? path with
    | none =>
      rw [Run.seenImports?_missed readable hit, Run.foundImports_of_text readable]
      rfl
    | some e =>
      rw [Run.seenImports?_stored readable hit,
        stored_imports_eq unchanged history member asked readable hit]
      rfl

theorem importsOf_eq (member : v ∈ last :: earlier) (asked : path ∈ v.run.paths) :
    v.run.project.importsOf path =
      if (v.run.stored? path).isSome then v.run.keptImports path else v.run.foundImports path := by
  rw [Run.project_importsOf asked, seenImports?_eq unchanged history member asked]
  cases readable : v.run.text path with
  | error e =>
    obtain ⟨found, kept⟩ := Run.keptImports_of_unread readable
    rw [found, kept, ite_self]
    rfl
  | ok content => rw [Except.toOption, Option.map_some, Option.getD_some]

/-- Without files that import something under an architecture that is not known, all runs have the
same graph. -/
private theorem project_imports_eq_last (member : v ∈ last :: earlier)
    (harmless : ∀ path ∈ last.run.paths, last.run.isUnresolved path = true →
      last.run.foundImports path = []) :
    v.run.project.imports = last.run.project.imports := by
  have same := same_of_mem unchanged member
  apply Dict.ext_find?
  intro path
  apply Option.ext
  intro targets
  rw [Run.project_imports, Run.project_imports, same.paths]
  refine and_congr_right fun asked => ?_
  have askedToo : path ∈ v.run.paths := by rw [same.paths]; exact asked
  have kept : last.run.keptImports path = last.run.foundImports path :=
    Run.keptImports_eq (harmless path asked)
  rw [seenImports?_eq unchanged history member askedToo,
    seenImports?_eq unchanged history List.mem_cons_self asked, (same.source path asked).text,
    same.keptImports asked, same.foundImports asked, kept, ite_self, ite_self]

/-- Over visits to a project that does not change, the imports of a result and of what is stored of it
are those found by parsing, or none if its architecture cannot be resolved; so go the graphs. -/
theorem imports_of_unchanged_project (member : v ∈ last :: earlier) :
    (∀ report, v.run.outcome = .ok report → ∀ a ∈ report.results,
      a.imports = v.run.keptImports a.path) ∧
    (∀ path e, v.run.Stores path e → e.imports = v.run.keptImports path) ∧
    (∀ path ∈ last.run.paths,
      v.run.foundImports path = last.run.foundImports path ∧
      v.run.project.importsOf path = if (v.run.stored? path).isSome then v.run.keptImports path
        else v.run.foundImports path) ∧
    ((∀ path ∈ last.run.paths, last.run.isUnresolved path = true →
        last.run.foundImports path = []) →
      v.run.project.imports = last.run.project.imports ∧
        v.run.project.importers = last.run.project.importers) := by
  have same := same_of_mem unchanged member
  refine ⟨?_, ?_, ?_, ?_⟩
  · intro report done a inside
    obtain ⟨asked, own⟩ := Run.mem_results done inside
    rw [own, Run.path_result]
    exact result_imports unchanged history member (Visit.mem_paths asked)
  · intro path e stores
    rw [stores.entry]
    exact Run.result_imports_of_missed stores.missed
  · intro path asked
    refine ⟨same.foundImports asked, importsOf_eq unchanged history member ?_⟩
    rw [same.paths]
    exact asked
  · intro harmless
    have graph := project_imports_eq_last unchanged history member harmless
    exact ⟨graph, Run.project_importers_congr graph⟩

end Unchanged

end History

namespace Unlisted

/-- A file of an architecture that is not in the registry. -/
def source : String := "// @arch nope\n"

/-- It imports the file beside it. -/
def model : String := "\x7b\"imports\": [\x7b\"module_specifier\": \"./b\"\x7d]\x7d"

def entries : List (String × FileEntry) := [
  ("p", .folder), ("p/.arch", .folder), ("p/.arch/cache", .folder), ("p/.arch/models", .folder),
  ("p/.arch/models/src", .folder), ("p/.arch/models/src/a.ts.json", .file model.toUTF8),
  ("p/src", .folder), ("p/src/a.ts", .file source.toUTF8), ("p/src/b.ts", .file "".toUTF8)]

/-- The tree with both files, the stored model and a folder for results. -/
def bare : FileTree := { entries := .ofList entries }

/-- The tree after results were stored. -/
def withResults (text : String) : FileTree :=
  { entries := bare.entries.insert "p/.arch/cache/validation.json" (.file text.toUTF8) }

def visit (tree : FileTree) : Visit "/p" .stored where
  config := {}
  registry := {}
  named := ⟨nofun, nofun, nofun⟩
  today := ⟨0⟩
  tree
  targets := ["src/a.ts"]
  now := "t"

/-- A tree with both files and the stored model, and no other files of the project. -/
structure Shows (t : FileTree) : Prop where
  root : t.entry "/p" = .ok .folder
  found : Discovery.found t "/p" {} = ["src/a.ts", "src/b.ts"]
  file : t.entry "/p/src/a.ts" = .ok (.file source.toUTF8)
  other : t.entry "/p/src/b.ts" = .ok (.file "".toUTF8)
  model : t.entry "/p/.arch/models/src/a.ts.json" = .ok (.file model.toUTF8)
  otherModel : t.entry "/p/.arch/models/src/b.ts.json" = .error .missing

theorem bare_shows : Shows bare :=
  ⟨by rfl, by decide +kernel, by rfl, by rfl, by rfl, by rfl⟩

theorem withResults_shows (text : String) : Shows (withResults text) := by
  have before : bare.below "/p" = [(".arch", .folder), (".arch/cache", .folder),
      (".arch/models", .folder), (".arch/models/src", .folder),
      (".arch/models/src/a.ts.json", .file model.toUTF8), ("src", .folder),
      ("src/a.ts", .file source.toUTF8), ("src/b.ts", .file "".toUTF8)] := by
    rfl
  have below : (withResults text).below "/p" = [(".arch", .folder), (".arch/cache", .folder),
      (".arch/cache/validation.json", .file text.toUTF8), (".arch/models", .folder),
      (".arch/models/src", .folder), (".arch/models/src/a.ts.json", .file model.toUTF8),
      ("src", .folder), ("src/a.ts", .file source.toUTF8), ("src/b.ts", .file "".toUTF8)] := by
    rfl
  have found : Discovery.found (withResults text) "/p" {} = Discovery.found bare "/p" {} := by
    -- The document is the one entry more, and it is not a file of the project.
    have pruned : Discovery.isFound {} ".arch/cache/validation.json" = false := by decide +kernel
    rw [Discovery.found, Discovery.found, below, before]
    simp only [List.filterMap_cons, pruned, Bool.false_eq_true, if_false]
  exact ⟨by rfl, found.trans bare_shows.found, by rfl, by rfl, by rfl, by rfl⟩

section Visits

variable {t : FileTree} (shows : Shows t)
include shows

theorem discovers : (visit t).run.workspace.discover t = .ok ["src/a.ts", "src/b.ts"] := by
  change (Discovery.files t "/p" {}).mapError Workspace.fileFailure = _
  rw [Discovery.files_of_found shows.root shows.found (by decide)]
  rfl

theorem paths : (visit t).run.paths = ["src/a.ts", "src/b.ts"] := by
  have found : (visit t).run.workspace.discover (visit t).run.tree = _ := discovers shows
  rw [Run.paths, found]
  change Workspace.runPaths ["src/a.ts", "src/b.ts"] ["src/a.ts"] = _
  decide +kernel

theorem files : (visit t).run.files = .ofList [("src/a.ts", ()), ("src/b.ts", ())] := by
  rw [Run.files, paths shows]
  rfl

theorem text : (visit t).run.text "src/a.ts" = .ok source := by
  have joined : FileTree.join "/p" "src/a.ts" = "/p/src/a.ts" := by decide
  exact Run.text_of_entry joined shows.file

theorem other : (visit t).run.text "src/b.ts" = .ok "" := by
  have joined : FileTree.join "/p" "src/b.ts" = "/p/src/b.ts" := by decide
  exact Run.text_of_entry joined shows.other

theorem stored_model : t.readText (ModelSource.modelPath "/p" "src/a.ts") = .ok model := by
  have joined : ModelSource.modelPath "/p" "src/a.ts" = "/p/.arch/models/src/a.ts.json" := by decide
  rw [joined]
  exact FileTree.readText_of_entry shows.model

theorem other_model : t.readText (ModelSource.modelPath "/p" "src/b.ts") = .error .missing := by
  have joined : ModelSource.modelPath "/p" "src/b.ts" = "/p/.arch/models/src/b.ts.json" := by decide
  rw [joined, FileTree.readText, FileTree.readBytes, shows.otherModel]
  rfl

theorem sidecar? : (visit t).run.sidecar? "src/a.ts" = some model := by
  change (t.readText (ModelSource.modelPath "/p" "src/a.ts")).toOption = _
  rw [stored_model shows]
  rfl

theorem reads : (visit t).run.ReadsSidecar "src/a.ts" := by
  intro _ _
  change ∃ text, t.readText (ModelSource.modelPath "/p" "src/a.ts") = .ok text
  exact ⟨_, stored_model shows⟩

/-- The file is found to import the other. -/
theorem foundImports : (visit t).run.foundImports "src/a.ts" = ["src/b.ts"] := by
  rw [Run.foundImports_of_text (text shows), files shows, Run.model_eq (reads shows), sidecar? shows]
  change Run.importsOf _ _ (Run.modelFrom "/p" "src/a.ts" source (some model)) = _
  decide +kernel

/-- Its result keeps none of its imports. -/
theorem keptImports : (visit t).run.keptImports "src/a.ts" = [] := by
  have unknown :
      (TagScan.extract source).arch.any (fun tag => !(Resolution.resolve {} tag.id).isOk) = true := by
    decide +kernel
  rw [Run.keptImports, Run.isUnresolved_of_text (text shows)]
  exact if_pos unknown

theorem listed : "src/a.ts" ∈ (visit t).run.paths := by
  rw [paths shows]
  exact List.mem_cons_self

end Visits

/-- The first visit, with nothing stored. -/
def first : Visit "/p" .stored := visit bare

/-- The next visit, with nothing changed in between. -/
def second : Visit "/p" .stored := visit first.run.treeAfter

theorem cachePath (t : FileTree) :
    (visit t).run.workspace.cachePath = "/p/.arch/cache/validation.json" := by
  change FileTree.join "/p" ".arch/cache/validation.json" = _
  decide

theorem bare_missing : first.run.tree.readText first.run.workspace.cachePath = .error .missing := by
  rw [first, cachePath]
  rfl

/-- What is wrong with the file. -/
def finding : Diagnostic where
  code := "S005"
  rule := "arch"
  value := .text "nope"
  severity := .error
  line := some 1
  message := "Cannot resolve @arch nope: Unknown architecture 'nope' (chain: )"
  fixHint := "Fix the registry or the @arch tag"

theorem first_result : first.run.result "src/a.ts" =
    { path := "src/a.ts", archId := some "nope", status := .fail, violations := [finding] } := by
  decide +kernel

/-- What the first visit stores for the file. -/
def kept : CachedResult :=
  .ofResult (first.run.result "src/a.ts") (first.run.loaded "src/a.ts").checksum "t"

theorem kept_storable : kept.Storable := by
  unfold kept
  rw [first_result]
  refine ⟨?_, List.forall_mem_nil _, Nat.two_pow_pos 64⟩
  intro d inside
  rw [List.mem_singleton.1 inside]
  exact ⟨trivial, by rintro _ ⟨⟩; decide, nofun⟩

theorem store_eq (text : String) :
    (ResultCache.store bare "/p/.arch/cache/validation.json" text).2 = withResults text := by rfl

/-- The first visit leaves a document behind, with the result of the file. -/
theorem first_leaves : ∃ c : CacheDocument,
    first.run.treeAfter = withResults (Json.writeIndented c.toDocument) ∧
      c.version = cacheVersion ∧ c.registryChecksum = first.run.workspace.registryChecksum ∧
      c.configChecksum = first.run.workspace.configChecksum ∧
      ∀ path, c.files.find? path = if "src/a.ts" = path then some kept else none := by
  have cacheable : Workspace.isCacheable (first.run.result "src/a.ts") = true := by
    rw [first_result]
    rfl
  obtain ⟨c, tree, rest⟩ := Run.treeAfter_of_one (r := first.run) (discovers bare_shows) rfl
    bare_missing rfl (text bare_shows) cacheable
  refine ⟨c, ?_, rest⟩
  rw [tree, show first.run.workspace.cachePath = _ from cachePath bare]
  exact store_eq _

theorem second_shows : Shows first.run.treeAfter := by
  obtain ⟨c, tree, -⟩ := first_leaves
  rw [tree]
  exact withResults_shows _

theorem checksum {t : FileTree} (shows : Shows t) :
    ((visit t).run.loaded "src/a.ts").checksum = Sha256.digest (inputBytes source (some model)) := by
  rw [Visit.checksum_of_text (text shows), sidecar? shows]

/-- At the second visit the file is answered for by what the first stored. -/
theorem second_stored : second.run.stored? "src/a.ts" = some kept := by
  obtain ⟨c, tree, version, registry, config, files⟩ := first_leaves
  have entry : (withResults (Json.writeIndented c.toDocument)).entry
      "/p/.arch/cache/validation.json" = .ok (.file (Json.writeIndented c.toDocument).toUTF8) := by
    rfl
  have read : second.tree.readText second.workspace.cachePath =
      .ok (Json.writeIndented c.toDocument) := by
    rw [show second.tree = _ from tree, show second.workspace.cachePath = _ from cachePath _]
    exact FileTree.readText_of_entry entry
  have here : (second.run.loaded "src/a.ts").checksum = _ := checksum second_shows
  have there : (first.run.loaded "src/a.ts").checksum = _ := checksum bare_shows
  have fits : kept.checksum = (second.run.loaded "src/a.ts").checksum := there.trans here.symm
  exact Visit.stored?_of_one read version registry config files kept_storable fits

theorem first_missed : first.run.stored? "src/a.ts" = none :=
  Run.stored?_of_missing bare_missing _

theorem unchanged {t u : FileTree} (before : Shows t) (after : Shows u) :
    (visit t).Unchanged (visit u) := by
  refine ⟨rfl, rfl, (paths before).trans (paths after).symm, fun path asked => ?_⟩
  rw [paths after] at asked
  rcases List.mem_cons.1 asked with rfl | asked
  · exact ⟨(text before).trans (text after).symm,
      (stored_model before).trans (stored_model after).symm⟩
  · cases List.mem_singleton.1 asked
    exact ⟨(other before).trans (other after).symm,
      (other_model before).trans (other_model after).symm⟩

theorem second_unchanged : ∀ w ∈ [first], w.Unchanged second := by
  intro w member
  cases List.mem_singleton.1 member
  exact unchanged bare_shows second_shows

theorem history : History "/p" .stored [first] second.tree := by
  refine History.visit first (.start ?_)
  rintro text ⟨bytes, ⟨key, found⟩, decoded⟩
  have inside : (key, FileEntry.file bytes) ∈ entries :=
    (Dict.find?_ofList_of_nodup (by decide)).1 found
  simp only [entries, List.mem_cons, Prod.mk.injEq, FileEntry.file.injEq, reduceCtorEq, and_false,
    false_or, List.not_mem_nil, or_false] at inside
  rcases inside with ⟨-, rfl⟩ | ⟨-, rfl⟩ | ⟨-, rfl⟩
  all_goals
    rw [FileTree.fromUTF8?_toUTF8] at decoded
    cases decoded
  · decide +kernel
  · decide +kernel
  · decide +kernel

private theorem first_importsOf : first.run.project.importsOf "src/a.ts" = ["src/b.ts"] := by
  rw [History.importsOf_eq second_unchanged history (List.mem_cons_of_mem _ List.mem_cons_self)
    (listed bare_shows), first_missed]
  exact foundImports bare_shows

private theorem second_importsOf : second.run.project.importsOf "src/a.ts" = [] := by
  rw [History.importsOf_eq second_unchanged history List.mem_cons_self (listed second_shows),
    second_stored, Option.isSome_some, if_pos rfl]
  exact keptImports second_shows

end Unlisted

open Unlisted in
/-- The file counts as importing the other at the first visit, and as importing nothing at the
second. -/
theorem imports_of_unlisted_file : (∃ report, first.run.outcome = .ok report ∧
      ∃ a ∈ report.results, a.path = "src/a.ts" ∧ a.imports = []) ∧
    first.run.project.importsOf "src/a.ts" = ["src/b.ts"] ∧
    second.run.project.importsOf "src/a.ts" = [] := by
  obtain ⟨results, -, graph, -⟩ := History.imports_of_unchanged_project second_unchanged history
    (List.mem_cons_of_mem _ List.mem_cons_self)
  obtain ⟨-, -, graphToo, -⟩ := History.imports_of_unchanged_project second_unchanged history
    List.mem_cons_self
  refine ⟨?_, ?_, ?_⟩
  · have asked : "src/a.ts" ∈ first.run.targets := List.mem_cons_self
    obtain ⟨report, done, inside⟩ := Run.reports (r := first.run) (discovers bare_shows) asked
    refine ⟨report, done, _, inside, Run.path_result _, ?_⟩
    rw [results report done _ inside, Run.path_result]
    exact keptImports bare_shows
  · rw [(graph "src/a.ts" (listed second_shows)).2, first_missed]
    exact foundImports bare_shows
  · rw [(graphToo "src/a.ts" (listed second_shows)).2, second_stored, Option.isSome_some, if_pos rfl]
    exact keptImports second_shows

open Unlisted in
/-- Results do not carry all imports that are found, and the import graph of a project that does not
change is not the same in every run. -/
theorem unlisted_file_loses_imports :
    (¬ ∀ (r : Run) (path content : String) (model : SourceModel), path ∈ r.targets →
      r.text path = .ok content → r.model path content = .ok model → r.stored? path = none →
      (r.result path).imports = r.foundImports path) ∧
    (¬ ∀ (root : String) (source : ModelSource) (earlier : List (Visit root source))
      (last : Visit root source), History root source earlier last.tree →
      (∀ w ∈ earlier, w.Unchanged last) → ∀ v ∈ earlier,
      v.run.project.imports = last.run.project.imports) := by
  refine ⟨?_, ?_⟩
  · intro faithful
    have found := foundImports bare_shows
    obtain ⟨m, parsed⟩ : ∃ m, first.run.model "src/a.ts" source = .ok m := by
      cases parsed : first.run.model "src/a.ts" source with
      | ok m => exact ⟨m, rfl⟩
      | error e =>
        rw [Run.foundImports_of_text (text bare_shows),
          show (visit bare).run.model _ _ = _ from parsed] at found
        cases found
    have same := faithful first.run "src/a.ts" source m List.mem_cons_self (text bare_shows) parsed
      first_missed
    rw [first_result, show first.run.foundImports _ = _ from found] at same
    cases same
  · intro faithful
    have same := faithful "/p" .stored [first] second history second_unchanged first
      List.mem_cons_self
    have lost : first.run.project.importsOf "src/a.ts" = second.run.project.importsOf "src/a.ts" := by
      rw [ProjectIndex.importsOf, ProjectIndex.importsOf, same]
    rw [first_importsOf, second_importsOf] at lost
    cases lost

end Conformance
