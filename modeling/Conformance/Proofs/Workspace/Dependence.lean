import Conformance.Proofs.Workspace.History
import Conformance.Proofs.Workspace.Input
import Conformance.Proofs.Workspace.Project

/-! What a result depends on besides the key it is stored under: the day, and what the rules of the
file see of other files. Where two visits are alike in that, a check at one finds what a check at
the other finds. -/
namespace Conformance

namespace Run

/-- A rule of the architecture of a file looks so far beyond the file. -/
def Looks (r : Run) (path : String) (reach : Reach) : Prop :=
  ∃ content tag a, r.text path = .ok content ∧ (TagScan.extract content).arch = some tag ∧
    r.workspace.resolve tag.id = .ok a ∧
    ∃ c ∈ a.constraints, ∃ rule, c.rule? = some rule ∧ rule.reach = reach

end Run

namespace Visit
variable {root : String} {source : ModelSource}

/-- The import graph as it is without stored results. -/
def graph (v : Visit root source) : Dict (List String) := v.run.uncached.project.imports

/-- What a result of a file depends on besides its key is the same at two visits, the import graph
aside. -/
structure Alike (v w : Visit root source) (path : String) : Prop where
  /-- The overrides of the file are judged alike on both days. -/
  judged : ∀ content, w.run.text path = .ok content →
    ∀ t ∈ (TagScan.extract content).overrides,
      w.config.overrides.check t v.today = w.config.overrides.check t w.today
  /-- Its imports name the same project files. -/
  modules : ∀ content model, w.run.text path = .ok content → w.run.model path content = .ok model →
    ∀ i ∈ model.imports, Path.resolveModule? v.run.files path i.moduleSpecifier =
      Path.resolveModule? w.run.files path i.moduleSpecifier
  files : w.run.Looks path .files → v.run.files = w.run.files
  texts : w.run.Looks path .texts → v.run.files = w.run.files ∧
    ∀ other ∈ w.run.paths, (v.run.text other).toOption = (w.run.text other).toOption

/-- Files that have not changed since they were checked import what they imported then, and those
without a known architecture import nothing. -/
structure KeepsImports (v : Visit root source) (earlier : List (Visit root source)) : Prop where
  same : ∀ w ∈ earlier, ∀ path ∈ w.targets, w.SameKey v path →
    w.graph.find? path = v.graph.find? path
  resolved : ∀ w ∈ earlier, ∀ path ∈ w.targets, w.SameKey v path → ∀ content tag e,
    w.run.text path = .ok content → (TagScan.extract content).arch = some tag →
    w.workspace.resolve tag.id = .error e → v.graph.find? path = some []

/-- Nothing that the result of a file depends on has changed behind its key since the visits that
may have stored it. -/
structure Undisturbed (earlier : List (Visit root source)) (last : Visit root source)
    (path : String) : Prop where
  /-- No text of the file runs on into its stored model. -/
  plain : ∀ v ∈ last :: earlier, ∀ content, v.run.text path = .ok content → '\x00' ∉ content.toList
  sidecar : ∀ v ∈ last :: earlier, v.run.ReadsSidecar path
  alike : ∀ v ∈ earlier, v.SameKey last path → path ∈ v.targets → v.Alike last path
  imports : last.run.Looks path .imports → last.KeepsImports earlier ∧
    ∀ v ∈ earlier, v.SameKey last path → path ∈ v.targets →
      v.KeepsImports earlier ∧ v.graph = last.graph

end Visit

namespace Run
variable {r : Run}

/-- A file without a model has no imports to keep, and one without a known architecture does not
keep those it has. -/
private theorem checkTagged_imports (w : Workspace) (project : ProjectIndex) {f : ParsedFile}
    (tag : ArchTag) (unparsed : ∀ e, f.model = .error e → f.imports = [])
    (flattened : Except ResolutionError FlattenedArchitecture) :
    (w.checkTagged project f tag flattened).imports =
      if !flattened.isOk then [] else f.imports := by
  unfold Workspace.checkTagged
  cases flattened with
  | error e => rfl
  | ok a =>
    cases model : f.model with
    | error e => exact (unparsed e model).symm
    | ok m => rfl

theorem checked_imports (w : Workspace) (project : ProjectIndex) (f : ParsedFile)
    (unparsed : ∀ e, f.model = .error e → f.imports = []) :
    (checked w project f).imports =
      if f.tags.arch.any fun tag => !(w.resolve tag.id).isOk then [] else f.imports := by
  unfold checked
  cases f.tags.arch with
  | none => rfl
  | some tag => exact checkTagged_imports w project tag unparsed (w.resolve tag.id)

/-- What is parsed without a model has no imports. -/
theorem parsed_imports {path : String} (content : String) (e : Failure)
    (failed : (r.parsed path content).model = .error e) : (r.parsed path content).imports = [] := by
  have model : r.model path content = .error e := failed
  change importsOf r.files path (r.model path content) = []
  rw [model]
  rfl

theorem checked_fromCache (w : Workspace) (project : ProjectIndex) (f : ParsedFile) :
    (checked w project f).fromCache = false := by
  unfold checked Workspace.checkTagged
  split
  · rfl
  · split <;> rfl

private theorem uncached_stored? (path : String) : r.uncached.stored? path = none := rfl

theorem uncached_seenImports? {path content : String} (readable : r.text path = .ok content) :
    r.uncached.seenImports? path = some (importsOf r.files path (r.model path content)) := by
  have same : r.uncached.text path = .ok content := readable
  exact seenImports?_missed same (uncached_stored? path)

end Run

namespace Visit
variable {root : String} {source : ModelSource} {v w : Visit root source} {path : String}

theorem graph_find? {targets : List String} : v.graph.find? path = some targets ↔
    path ∈ v.run.paths ∧ v.run.uncached.seenImports? path = some targets :=
  Run.project_imports (r := v.run.uncached)

/-- The imports that a visit stores for a file are its imports, unless its architecture is not
known. -/
theorem stored_imports {e : CachedResult} (stores : v.run.Stores path e) :
    v.graph.find? path = some e.imports ∨ ∃ content tag f, v.run.text path = .ok content ∧
      (TagScan.extract content).arch = some tag ∧ v.workspace.resolve tag.id = .error f ∧
      e.imports = [] := by
  obtain ⟨content, readable⟩ := stores.readable
  have result := Run.result_of_missed readable stores.missed
  have entry : e.imports = (v.run.result path).imports := by rw [stores.entry]; rfl
  rw [entry, result]
  have kept := Run.checked_imports v.workspace v.run.project (v.run.parsed path content)
    (Run.parsed_imports content)
  split at kept
  · rename_i unknown
    obtain ⟨tag, arch, failed⟩ := (Option.any_eq_true _ _).1 unknown
    cases resolved : v.workspace.resolve tag.id with
    | error f => exact .inr ⟨content, tag, f, readable, arch, resolved, kept⟩
    | ok a =>
      rw [resolved] at failed
      cases failed
  · refine .inl (graph_find?.2 ⟨mem_paths stores.target, ?_⟩)
    rw [Run.uncached_seenImports? readable]
    exact congrArg some kept.symm

end Visit

namespace History
variable {root : String} {source : ModelSource} {earlier : List (Visit root source)}
  {last v w : Visit root source} {path : String}

/-- The import graph that a run puts together from stored and parsed imports is the graph without
stored results. -/
theorem project_imports_eq_graph (history : History root source earlier last.tree)
    (free : CollisionFree (last :: earlier)) (member : v ∈ last :: earlier)
    (keeps : v.KeepsImports earlier) : v.run.project.imports = v.graph := by
  apply Dict.ext_find?
  intro path
  apply Option.ext
  intro targets
  rw [Run.project_imports, Visit.graph_find?]
  refine and_congr_right fun asked => ?_
  cases readable : v.run.text path with
  | error e =>
    have unread : v.run.uncached.text path = .error e := readable
    rw [Run.seenImports?_unread readable, Run.seenImports?_unread unread]
  | ok content =>
    cases hit : v.run.stored? path with
    | none =>
      rw [Run.uncached_seenImports? readable, Run.seenImports?_missed readable hit]
    | some e =>
      obtain ⟨w, inside, key, stores⟩ := history.origin free member asked readable hit
      have kept : v.graph.find? path = some e.imports := by
        rcases Visit.stored_imports stores with same | ⟨text, tag, f, read, arch, unknown, none⟩
        · rw [← keeps.same w inside path stores.target key, same]
        · rw [none]
          exact keeps.resolved w inside path stores.target key text tag f read arch unknown
      rw [(Visit.graph_find?.1 kept).2, Run.seenImports?_stored readable hit]

end History

namespace Visit
variable {root : String} {source : ModelSource} {v last : Visit root source} {path : String}

theorem SameRules.workspace (rules : v.SameRules last) :
    v.workspace.SameRules last.run.uncached.workspace := by
  have part {α : Type} (f : Config → α) : f v.config = f last.config := congrArg f rules.config
  exact ⟨rules.registry, rfl, part Config.files, part Config.validation, part Config.overrides,
    part Config.patterns⟩

/-- The same bytes are the same file. -/
theorem SameKey.text (key : v.SameKey last path) {content other : String}
    (readable : v.run.text path = .ok content) (readableToo : last.run.text path = .ok other)
    (plain : '\x00' ∉ content.toList) (plainToo : '\x00' ∉ other.toList) :
    content = other ∧ v.run.sidecar? path = last.run.sidecar? path := by
  have input := key.input
  rw [input?_of_text readable, input?_of_text readableToo] at input
  exact inputBytes_plain plain plainToo (Option.some.inj input)

theorem project_contents_congr (files : v.run.files = last.run.files)
    (texts : ∀ other ∈ last.run.paths,
      (v.run.text other).toOption = (last.run.text other).toOption) :
    v.run.project.contents = last.run.uncached.project.contents := by
  have ok {x : Except FileError String} {content : String} :
      x = .ok content ↔ x.toOption = some content := by
    cases x <;> simp [Except.toOption]
  apply Dict.ext_find?
  intro other
  apply Option.ext
  intro content
  refine Run.project_content?.trans (Iff.trans ?_ Run.project_content?.symm)
  have paths : other ∈ v.run.paths ↔ other ∈ last.run.paths := by
    rw [← Run.contains_files, files, Run.contains_files]
  rw [paths]
  refine and_congr_right fun asked => ?_
  rw [ok, texts other asked, ← ok]
  rfl

/-- Rules that look beyond the file see the same at two visits that are alike. -/
theorem Alike.sameView (alike : v.Alike last path) (rules : v.SameRules last)
    (graph : last.run.Looks path .imports → v.run.project.imports = last.graph)
    {content : String} (readable : last.run.text path = .ok content) {tag : ArchTag}
    (arch : (TagScan.extract content).arch = some tag) {a : FlattenedArchitecture}
    (resolved : v.workspace.resolve tag.id = .ok a) {model : SourceModel}
    (parsed : last.run.model path content = .ok model) :
    Workspace.SameView a path model v.run.project last.run.uncached.project := by
  intro c member rule known
  have looks {reach : Reach} (far : rule.reach = reach) : last.run.Looks path reach :=
    ⟨content, tag, a, readable, arch, (rules.workspace.resolve tag.id).symm.trans resolved, c,
      member, rule, known, far⟩
  cases far : rule.reach with
  | nothing => trivial
  | modules =>
    intro i inside
    have same := alike.modules content model readable parsed i inside
    simp only [ProjectIndex.resolveModule?, Run.project_files]
    exact same
  | files =>
    change v.run.project.files = last.run.uncached.project.files
    rw [Run.project_files, Run.project_files]
    exact alike.files (looks far)
  | texts =>
    obtain ⟨files, texts⟩ := alike.texts (looks far)
    refine ⟨?_, project_contents_congr files texts⟩
    rw [Run.project_files, Run.project_files]
    exact files
  | imports =>
    have same : v.run.project.imports = last.run.uncached.project.imports := graph (looks far)
    exact ⟨same, Run.project_importers_congr same⟩

/-- A fresh result at a visit is what the last one reports without stored results, if they are
alike. -/
theorem Alike.checked_eq (alike : v.Alike last path) (key : v.SameKey last path)
    (graph : last.run.Looks path .imports → v.run.project.imports = last.graph)
    (sidecar : v.run.ReadsSidecar path) (sidecarToo : last.run.ReadsSidecar path)
    {content other : String} (readable : v.run.text path = .ok content)
    (readableToo : last.run.text path = .ok other) (plain : '\x00' ∉ content.toList)
    (plainToo : '\x00' ∉ other.toList) :
    Run.checked v.workspace v.run.project (v.run.parsed path content) =
      last.run.uncached.result path := by
  obtain ⟨rfl, sidecars⟩ := key.text readable readableToo plain plainToo
  have model : v.run.model path content = last.run.model path content := by
    rw [Run.model_eq sidecar, Run.model_eq sidecarToo, sidecars]
    rfl
  have imports : Run.importsOf v.run.files path (v.run.model path content) =
      Run.importsOf last.run.files path (last.run.model path content) := by
    rw [model]
    cases parsed : last.run.model path content with
    | error e => simp only [Run.importsOf]
    | ok m =>
      have same := alike.modules content m readableToo parsed
      simp only [Run.importsOf]
      rw [List.filterMap_congr same]
  rw [Run.result_of_missed (r := last.run.uncached) readableToo rfl]
  have file : Workspace.SameFile (v.run.parsed path content)
      (last.run.uncached.parsed path content) := ⟨rfl, rfl, rfl, model, imports⟩
  refine Workspace.checked_congr key.workspace rfl file ?_ ?_
  · intro t inside
    have judged := alike.judged content readableToo t inside
    rw [← key.config] at judged
    exact judged
  · intro tag a m arch resolved parsed
    exact alike.sameView key.toSameRules graph readableToo arch resolved (model.symm.trans parsed)

theorem Alike.refl (v : Visit root source) (path : String) : v.Alike v path :=
  ⟨fun _ _ _ _ => rfl, fun _ _ _ _ _ _ => rfl, fun _ => rfl, fun _ => ⟨rfl, fun _ _ => rfl⟩⟩

theorem SameKey.refl (v : Visit root source) (path : String) : v.SameKey v path :=
  ⟨⟨⟨rfl, rfl, rfl⟩, rfl⟩, rfl⟩

end Visit

end Conformance
