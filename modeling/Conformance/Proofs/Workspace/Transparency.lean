import Conformance.Proofs.Workspace.Dependence

/-! When stored results stand for fresh ones. A result is stored under the registry, the
configuration and the bytes of its file, but it depends on more: on the day, and on what the rules
of the file see of other files. Where that has not changed, a run with stored results reports what
it would report without them. -/
namespace Conformance

/-- Two results that say the same, wherever they come from. -/
structure FileResult.Agrees (a b : FileResult) : Prop where
  path : a.path = b.path
  archId : a.archId = b.archId
  status : a.status = b.status
  violations : a.violations = b.violations
  warnings : a.warnings = b.warnings
  imports : a.imports = b.imports
  overridesCount : a.overridesCount = b.overridesCount

theorem FileResult.Agrees.refl (a : FileResult) : a.Agrees a := ⟨rfl, rfl, rfl, rfl, rfl, rfl, rfl⟩

theorem FileResult.Agrees.symm {a b : FileResult} (agrees : a.Agrees b) : b.Agrees a :=
  ⟨agrees.path.symm, agrees.archId.symm, agrees.status.symm, agrees.violations.symm,
    agrees.warnings.symm, agrees.imports.symm, agrees.overridesCount.symm⟩

/-- What is stored of a result says the same. -/
theorem FileResult.stored_agrees {r : FileResult} {path : String} (named : r.path = path)
    (checksum now : String) : ((CachedResult.ofResult r checksum now).toResult path).Agrees r :=
  ⟨named.symm, rfl, rfl, rfl, rfl, rfl, rfl⟩

namespace History
variable {root : String} {source : ModelSource} {earlier : List (Visit root source)}
  {last : Visit root source} {path : String}

/-- The result of a file that is undisturbed, with stored results and without. -/
theorem result_agrees (history : History root source earlier last.tree)
    (free : CollisionFree (last :: earlier)) (asked : path ∈ last.targets)
    (calm : Visit.Undisturbed earlier last path) :
    (last.run.result path).Agrees (last.run.uncached.result path) := by
  have here : last ∈ last :: earlier := List.mem_cons_self
  cases readable : last.run.text path with
  | error e =>
    have unread : last.run.uncached.text path = .error e := readable
    rw [Run.result_of_unread readable, Run.result_of_unread unread]
    exact .refl _
  | ok content =>
    cases hit : last.run.stored? path with
    | none =>
      have graph (far : last.run.Looks path .imports) : last.run.project.imports = last.graph :=
        project_imports_eq_graph history free here (calm.imports far).1
      have same := (Visit.Alike.refl last path).checked_eq (.refl last path) graph
        (calm.sidecar last here) (calm.sidecar last here) readable readable
        (calm.plain last here content readable) (calm.plain last here content readable)
      rw [Run.result_of_missed readable hit, ← same]
      exact .refl _
    | some e =>
      obtain ⟨v, inside, key, stores⟩ :=
        history.origin free here (Visit.mem_paths asked) readable hit
      obtain ⟨text, read⟩ := stores.readable
      have member : v ∈ last :: earlier := List.mem_cons_of_mem _ inside
      have graph (far : last.run.Looks path .imports) : v.run.project.imports = last.graph := by
        obtain ⟨keeps, same⟩ := (calm.imports far).2 v inside key stores.target
        rw [project_imports_eq_graph history free member keeps, same]
      have same := (calm.alike v inside key stores.target).checked_eq key graph
        (calm.sidecar v member) (calm.sidecar last here) read readable
        (calm.plain v member text read) (calm.plain last here content readable)
      have result : v.run.result path = last.run.uncached.result path :=
        (Run.result_of_missed read stores.missed).trans same
      rw [Run.result_of_stored readable hit, stores.entry, ← result]
      exact FileResult.stored_agrees (Run.path_result path) _ _

/-- A result that is marked as stored is what an earlier visit found out under the same key. -/
private theorem result_provenance (history : History root source earlier last.tree)
    (free : CollisionFree (last :: earlier)) (asked : path ∈ last.targets)
    (marked : (last.run.result path).fromCache = true) :
    ∃ v ∈ earlier, v.SameKey last path ∧ ∃ report, v.run.outcome = .ok report ∧
      ∃ r ∈ report.results, r.fromCache = false ∧ r.Agrees (last.run.result path) := by
  cases readable : last.run.text path with
  | error e =>
    rw [Run.result_of_unread readable] at marked
    cases marked
  | ok content =>
    cases hit : last.run.stored? path with
    | none =>
      rw [Run.result_of_missed readable hit, Run.checked_fromCache] at marked
      cases marked
    | some e =>
      obtain ⟨v, inside, key, stores⟩ :=
        history.origin free List.mem_cons_self (Visit.mem_paths asked) readable hit
      obtain ⟨text, read⟩ := stores.readable
      obtain ⟨discovered, found⟩ := stores.found
      obtain ⟨report, done, reported⟩ := Run.reports found stores.target
      refine ⟨v, inside, key, report, done, v.run.result path, reported, ?_, ?_⟩
      · rw [Run.result_of_missed read stores.missed, Run.checked_fromCache]
      · rw [Run.result_of_stored readable hit, stores.entry]
        exact (FileResult.stored_agrees (Run.path_result path) _ _).symm

/-- A stored result was reported fresh before by the same rules from the same bytes, and all results of
undisturbed files are those of a run without stored results. -/
theorem stored_results_stand_for_fresh (history : History root source earlier last.tree)
    (free : CollisionFree (last :: earlier)) :
    match last.run.outcome, last.run.uncached.outcome with
    | .ok cached, .ok fresh =>
      cached.results.map (·.path) = fresh.results.map (·.path) ∧
      ∀ a ∈ cached.results, ∀ b ∈ fresh.results, a.path = b.path →
        (a.fromCache = true → ∃ v ∈ earlier, v.SameKey last a.path ∧
          ∃ report, v.run.outcome = .ok report ∧
            ∃ r ∈ report.results, r.fromCache = false ∧ r.Agrees a) ∧
        (Visit.Undisturbed earlier last a.path → a.Agrees b)
    | .error e, .error f => e = f
    | _, _ => False := by
  cases found : last.run.workspace.discover last.run.tree with
  | error e =>
    have off : last.run.uncached.workspace.discover last.run.uncached.tree = .error e := found
    rw [Run.outcome_of_undiscovered found, Run.outcome_of_undiscovered off]
  | ok discovered =>
    have off : last.run.uncached.workspace.discover last.run.uncached.tree = .ok discovered := found
    obtain ⟨_, _, _, -, done, -⟩ := Run.validatePaths_eq found
    obtain ⟨_, _, _, -, doneToo, -⟩ := Run.validatePaths_eq off
    rw [done, doneToo]
    simp only [Run.results_eq]
    have targets : last.run.uncached.targets = last.run.targets := rfl
    rw [targets]
    refine ⟨?_, ?_⟩
    · simp only [List.map_map]
      refine List.map_congr_left fun path _ => ?_
      exact (Run.path_result path).trans (Run.path_result path).symm
    · intro a memberA b memberB same
      obtain ⟨path, inside, rfl⟩ := List.mem_map.1 memberA
      obtain ⟨other, -, rfl⟩ := List.mem_map.1 memberB
      rw [Run.path_result, Run.path_result] at same
      subst same
      have asked : path ∈ last.targets := mem_sortedDistinct.1 inside
      rw [Run.path_result]
      exact ⟨fun marked => result_provenance history free asked marked,
        fun calm => result_agrees history free asked calm⟩

end History

namespace Expiring

/-- A file whose only override runs out on the fifth of January 1970. -/
def source : String :=
  "// @arch svc\n// @override forbid_import:fs\n// @reason r\n// @expires 1970-01-05\n"

def registry : Registry := { nodes := .ofList [("svc", { id := "svc" })] }

theorem named : registry.WellNamed := by
  refine ⟨?_, fun _ _ found => (by cases found), fun _ _ found => (by cases found)⟩
  intro id node found
  have inside : (id, node) ∈ [("svc", ({ id := "svc" } : ArchitectureNode))] :=
    (Dict.find?_ofList_of_nodup (by decide)).1 found
  cases List.mem_singleton.1 inside
  rfl

def entries : List (String × FileEntry) := [
  ("p", .folder), ("p/.arch", .folder), ("p/.arch/cache", .folder), ("p/.arch/models", .folder),
  ("p/.arch/models/a.ts.json", .file "\x7b\x7d".toUTF8), ("p/a.ts", .file source.toUTF8)]

/-- The tree with that file, its stored model and a folder for results. -/
def bare : FileTree := { entries := .ofList entries }

/-- The tree after results were stored. -/
def withResults (text : String) : FileTree :=
  { entries := bare.entries.insert "p/.arch/cache/validation.json" (.file text.toUTF8) }

def visit (day : Int) (tree : FileTree) : Visit "/p" .stored where
  config := {}
  registry
  named
  today := ⟨day⟩
  tree
  targets := ["a.ts"]
  now := "t"

/-- A tree with the file and its stored model. -/
structure Shows (t : FileTree) : Prop where
  root : t.entry "/p" = .ok .folder
  file : t.entry "/p/a.ts" = .ok (.file source.toUTF8)
  model : t.entry "/p/.arch/models/a.ts.json" = .ok (.file "\x7b\x7d".toUTF8)

theorem bare_shows : Shows bare := ⟨by rfl, by rfl, by rfl⟩

theorem withResults_shows (text : String) : Shows (withResults text) := ⟨by rfl, by rfl, by rfl⟩

section Visits

variable {day : Int} {t : FileTree} (shows : Shows t)
include shows

theorem discovers (day : Int) : ∃ found, (visit day t).run.workspace.discover t = .ok found := by
  change ∃ found, (Discovery.files t "/p" {}).mapError Workspace.fileFailure = .ok found
  rw [Discovery.files, shows.root]
  exact ⟨_, rfl⟩

/-- The run reports on the file, with stored results and without. -/
theorem reported (day : Int) : ∃ cached fresh, (visit day t).run.outcome = .ok cached ∧
    (visit day t).run.uncached.outcome = .ok fresh ∧
    (visit day t).run.result "a.ts" ∈ cached.results ∧
    (visit day t).run.uncached.result "a.ts" ∈ fresh.results := by
  obtain ⟨found, discovered⟩ := discovers shows day
  obtain ⟨cached, done, inside⟩ := Run.reports discovered List.mem_cons_self
  obtain ⟨fresh, doneToo, insideToo⟩ :=
    Run.reports (r := (visit day t).run.uncached) discovered List.mem_cons_self
  exact ⟨cached, fresh, done, doneToo, inside, insideToo⟩

theorem text : (visit day t).run.text "a.ts" = .ok source := by
  have joined : FileTree.join "/p" "a.ts" = "/p/a.ts" := by decide
  exact Run.text_of_entry joined shows.file

theorem stored_model :
    t.readText (ModelSource.modelPath "/p" "a.ts") = .ok "\x7b\x7d" := by
  have joined : ModelSource.modelPath "/p" "a.ts" = "/p/.arch/models/a.ts.json" := by decide
  rw [joined]
  exact FileTree.readText_of_entry shows.model

theorem sidecar? : (visit day t).run.sidecar? "a.ts" = some "\x7b\x7d" := by
  change (t.readText (ModelSource.modelPath "/p" "a.ts")).toOption = _
  rw [stored_model shows]
  rfl

theorem reads : (visit day t).run.ReadsSidecar "a.ts" := by
  intro _ _
  change ∃ text, t.readText (ModelSource.modelPath "/p" "a.ts") = .ok text
  exact ⟨_, stored_model shows⟩

private theorem model_imports {m : SourceModel}
    (parsed : (visit day t).run.model "a.ts" source = .ok m) :
    m.imports = [] := by
  rw [Run.model_eq (reads shows), sidecar? shows] at parsed
  have closed : (Run.modelFrom "/p" "a.ts" source (some "\x7b\x7d")).toOption.map
    (·.imports) = some [] := by decide +kernel
  have same : Run.modelFrom "/p" "a.ts" source (some "\x7b\x7d") = .ok m := parsed
  rw [same] at closed
  exact Option.some.inj closed

theorem looks (reach : Reach) : ¬ (visit day t).run.Looks "a.ts" reach := by
  rintro ⟨content, tag, a, readable, arch, resolved, c, member, -⟩
  cases (text shows).symm.trans readable
  have known : (TagScan.extract source).arch.map (·.id) = some "svc" := by decide +kernel
  rw [arch] at known
  have id : tag.id = "svc" := Option.some.inj known
  have empty : (Resolution.resolve registry "svc").toOption.map (·.constraints) = some [] := by
    decide +kernel
  have same : Resolution.resolve registry tag.id = .ok a := resolved
  rw [id] at same
  rw [same] at empty
  have none : a.constraints = [] := Option.some.inj empty
  rw [none] at member
  cases member

end Visits

/-- The first visit, before the override runs out. -/
def first : Visit "/p" .stored := visit 2 bare

/-- A visit on a later day, with nothing changed in between. -/
def again (day : Int) : Visit "/p" .stored := visit day first.run.treeAfter

private theorem first_paths : first.run.paths = ["a.ts"] := by decide +kernel

theorem cachePath (day : Int) (t : FileTree) :
    (visit day t).run.workspace.cachePath = "/p/.arch/cache/validation.json" := by
  change FileTree.join "/p" ".arch/cache/validation.json" = _
  decide

theorem bare_missing (day : Int) :
    (visit day bare).run.tree.readText (visit day bare).run.workspace.cachePath =
      .error .missing := by
  rw [cachePath]
  rfl

private theorem bare_missed (day : Int) : (visit day bare).run.stored? "a.ts" = none :=
  Run.stored?_of_missing (bare_missing day) "a.ts"

theorem first_result : first.run.result "a.ts" = { path := "a.ts", archId := some "svc" } := by
  decide +kernel

/-- What the first visit stores for the file. -/
def kept : CachedResult :=
  .ofResult { path := "a.ts", archId := some "svc" } (first.run.loaded "a.ts").checksum "t"

theorem kept_storable : kept.Storable :=
  ⟨List.forall_mem_nil _, List.forall_mem_nil _, Nat.two_pow_pos 64⟩

theorem store_eq (text : String) :
    (ResultCache.store bare "/p/.arch/cache/validation.json" text).2 = withResults text := by rfl

theorem registryChecksum (day : Int) (t : FileTree) :
    (visit day t).workspace.registryChecksum = registry.checksum := rfl

theorem configChecksum (day : Int) (t : FileTree) :
    (visit day t).workspace.configChecksum = Config.checksum {} := rfl

/-- The first visit leaves a document behind, with the result of the file. -/
theorem first_leaves : ∃ c : CacheDocument,
    first.run.treeAfter = withResults (Json.writeIndented c.toDocument) ∧
      c.version = cacheVersion ∧ c.registryChecksum = registry.checksum ∧
      c.configChecksum = Config.checksum {} ∧
      ∀ path, c.files.find? path = if "a.ts" = path then some kept else none := by
  obtain ⟨_, discovered⟩ := discovers bare_shows 2
  have cacheable : Workspace.isCacheable (first.run.result "a.ts") = true := by
    rw [first_result]
    rfl
  obtain ⟨c, tree, version, ours, our, files⟩ := Run.treeAfter_of_one (r := first.run) discovered
    rfl (bare_missing 2) rfl (text bare_shows) cacheable
  rw [first_result] at files
  refine ⟨c, ?_, version, ours.trans (registryChecksum 2 bare), our.trans (configChecksum 2 bare),
    files⟩
  rw [tree, show first.run.workspace.cachePath = _ from cachePath 2 bare]
  exact store_eq _

theorem checksum {day : Int} {t : FileTree} (shows : Shows t) :
    ((visit day t).run.loaded "a.ts").checksum =
      Sha256.digest (inputBytes source (some "\x7b\x7d")) := by
  rw [Visit.checksum_of_text (text shows), sidecar? shows]

theorem again_shows (day : Int) : Shows (again day).tree := by
  obtain ⟨c, tree, -⟩ := first_leaves
  have same : (again day).tree = withResults (Json.writeIndented c.toDocument) := tree
  rw [same]
  exact withResults_shows _

/-- On any later day the file is answered for by what the first visit stored. -/
private theorem again_stored (day : Int) : (again day).run.stored? "a.ts" = some kept := by
  obtain ⟨c, tree, version, registry, config, files⟩ := first_leaves
  have same : (again day).tree = withResults (Json.writeIndented c.toDocument) := tree
  have entry : (withResults (Json.writeIndented c.toDocument)).entry
      "/p/.arch/cache/validation.json" = .ok (.file (Json.writeIndented c.toDocument).toUTF8) := by
    rfl
  have read : (again day).tree.readText (again day).workspace.cachePath =
      .ok (Json.writeIndented c.toDocument) := by
    rw [same, show (again day).workspace.cachePath = _ from cachePath day _]
    exact FileTree.readText_of_entry entry
  have here : ((again day).run.loaded "a.ts").checksum = _ := checksum (again_shows day)
  have there : (first.run.loaded "a.ts").checksum = _ := checksum bare_shows
  have fits : kept.checksum = ((again day).run.loaded "a.ts").checksum := there.trans here.symm
  exact Visit.stored?_of_one read version registry config files kept_storable fits

theorem again_result (day : Int) : (again day).run.result "a.ts" =
    { path := "a.ts", archId := some "svc", fromCache := true } :=
  Run.result_of_stored (text (again_shows day)) (again_stored day)

section Alike

variable {day later : Int} {t u : FileTree} (after : Shows u)
include after

theorem sameKey (before : Shows t) : (visit day t).SameKey (visit later u) "a.ts" := by
  refine ⟨⟨⟨rfl, rfl, rfl⟩, rfl⟩, ?_⟩
  rw [Visit.input?_of_text (text before), Visit.input?_of_text (text after), sidecar? before,
    sidecar? after]

theorem alike (judged : ∀ tag ∈ (TagScan.extract source).overrides,
      OverridePolicy.check {} tag ⟨day⟩ = OverridePolicy.check {} tag ⟨later⟩) :
    (visit day t).Alike (visit later u) "a.ts" where
  judged content readable tag member := by
    cases (text after).symm.trans readable
    exact judged tag member
  modules content m readable parsed i member := by
    cases (text after).symm.trans readable
    rw [model_imports after parsed] at member
    cases member
  files far := absurd far (looks after _)
  texts far := absurd far (looks after _)

end Alike

/-- Without stored results only the day matters. -/
private theorem fresh_result {day : Int} {t : FileTree} (shows : Shows t) :
    (visit day t).run.uncached.result "a.ts" = (visit day bare).run.result "a.ts" := by
  have plain : '\x00' ∉ source.toList := by decide
  have alike : (visit day bare).Alike (visit day t) "a.ts" := alike shows fun _ _ => rfl
  have same := alike.checked_eq (sameKey shows bare_shows) (fun far => absurd far (looks shows _))
    (reads bare_shows) (reads shows) (text bare_shows) (text shows) plain plain
  rw [Run.result_of_missed (text bare_shows) (bare_missed day)]
  exact same.symm

theorem fails : ((visit 9 bare).run.result "a.ts").status = .fail := by decide +kernel

theorem history (day : Int) : History "/p" .stored [first] (again day).tree := by
  refine History.visit first (.start ?_)
  rintro text ⟨bytes, ⟨key, found⟩, decoded⟩
  have inside : (key, FileEntry.file bytes) ∈ entries :=
    (Dict.find?_ofList_of_nodup (by decide)).1 found
  simp only [entries, List.mem_cons, Prod.mk.injEq, FileEntry.file.injEq, reduceCtorEq, and_false,
    false_or, List.not_mem_nil, or_false] at inside
  rcases inside with ⟨-, rfl⟩ | ⟨-, rfl⟩
  all_goals
    rw [FileTree.fromUTF8?_toUTF8] at decoded
    cases decoded
  · decide +kernel
  · decide +kernel

theorem collisionFree (day : Int) : CollisionFree [again day, first] := by
  have kinds {v : Visit "/p" .stored} (member : v ∈ [again day, first]) :
      ∃ day t, Shows t ∧ v = visit day t := by
    rcases List.mem_cons.1 member with rfl | member
    · exact ⟨day, _, again_shows day, rfl⟩
    · cases List.mem_singleton.1 member
      exact ⟨2, _, bare_shows, rfl⟩
  refine ⟨?_, ?_, ?_⟩
  · intro v memberV w memberW _
    obtain ⟨_, _, -, rfl⟩ := kinds memberV
    obtain ⟨_, _, -, rfl⟩ := kinds memberW
    rfl
  · intro v memberV w memberW _
    obtain ⟨_, _, -, rfl⟩ := kinds memberV
    obtain ⟨_, _, -, rfl⟩ := kinds memberW
    rfl
  · intro v memberV w memberW path pathV pathW a b atV atW _
    have only {path : String} (inside : path ∈ first.run.paths) : path = "a.ts" := by
      rw [first_paths] at inside
      exact List.mem_singleton.1 inside
    have same : v.input? path = w.input? path := by
      rcases List.mem_cons.1 memberV with rfl | memberV <;>
        rcases List.mem_cons.1 memberW with rfl | memberW
      · rfl
      · cases List.mem_singleton.1 memberW
        cases only pathW
        exact (sameKey bare_shows (again_shows day)).input
      · cases List.mem_singleton.1 memberV
        cases only pathV
        exact (sameKey (again_shows day) bare_shows).input
      · cases List.mem_singleton.1 memberV
        cases List.mem_singleton.1 memberW
        rfl
    exact Option.some.inj (atV.symm.trans (same.trans atW))

theorem undisturbed : Visit.Undisturbed [first] (again 3) "a.ts" := by
  have shows := again_shows 3
  have plain : '\x00' ∉ source.toList := by decide
  have judged : ∀ tag ∈ (TagScan.extract source).overrides,
      OverridePolicy.check {} tag ⟨2⟩ = OverridePolicy.check {} tag ⟨3⟩ := by
    decide +kernel
  refine ⟨?_, ?_, ?_, fun far => absurd far (looks shows _)⟩
  · intro v member content readable
    rcases List.mem_cons.1 member with rfl | member
    · cases (text shows).symm.trans readable
      exact plain
    · cases List.mem_singleton.1 member
      cases (text bare_shows).symm.trans readable
      exact plain
  · intro v member
    rcases List.mem_cons.1 member with rfl | member
    · exact reads shows
    · cases List.mem_singleton.1 member
      exact reads bare_shows
  · intro v member _ _
    cases List.mem_singleton.1 member
    exact alike shows judged

end Expiring

open Expiring in
theorem stored_result_outlives_its_day : ¬ ∀ (root : String) (source : ModelSource)
    (earlier : List (Visit root source)) (last : Visit root source),
    History root source earlier last.tree → CollisionFree (last :: earlier) →
    ∀ cached fresh, last.run.outcome = .ok cached → last.run.uncached.outcome = .ok fresh →
    ∀ a ∈ cached.results, ∀ b ∈ fresh.results, a.path = b.path → a.Agrees b := by
  intro transparent
  have shows := again_shows 9
  obtain ⟨cached, fresh, done, doneToo, inside, insideToo⟩ := reported shows 9
  have agrees := transparent "/p" .stored [first] (again 9) (history 9) (collisionFree 9) cached
    fresh done doneToo _ inside _ insideToo ((Run.path_result _).trans (Run.path_result _).symm)
  have status := agrees.status
  rw [fresh_result shows, fails] at status
  have passed : ((again 9).run.result "a.ts").status = .pass := by rw [again_result]
  exact absurd (passed.symm.trans status) (by decide)

open Expiring in
theorem stored_result_before_its_day : Visit.Undisturbed [first] (again 3) "a.ts" ∧
    ∃ cached fresh, (again 3).run.outcome = .ok cached ∧ (again 3).run.uncached.outcome = .ok fresh ∧
      ∃ a ∈ cached.results, ∃ b ∈ fresh.results, a.fromCache = true ∧ a.Agrees b := by
  have shows := again_shows 3
  obtain ⟨cached, fresh, done, doneToo, inside, insideToo⟩ := reported shows 3
  have stands := History.stored_results_stand_for_fresh (history 3) (collisionFree 3)
  rw [show (again 3).run.outcome = .ok cached from done,
    show (again 3).run.uncached.outcome = .ok fresh from doneToo] at stands
  refine ⟨undisturbed, cached, fresh, done, doneToo, _, inside, _, insideToo, ?_, ?_⟩
  · have marked : ((again 3).run.result "a.ts").fromCache = true := by rw [again_result]
    exact marked
  · refine (stands.2 _ inside _ insideToo ?_).2 ?_
    · exact (Run.path_result _).trans (Run.path_result _).symm
    · rw [Run.path_result]
      exact undisturbed

end Conformance
