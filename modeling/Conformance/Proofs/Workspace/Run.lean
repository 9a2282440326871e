import Conformance.Proofs.Dict
import Conformance.Proofs.ResultCache
import Conformance.Proofs.Session
import Conformance.Workspace.Run
import Mathlib.Data.List.Sort

/-! What a run computes, free of the order of its steps and of what it remembers on the way: each
file is read, looked up, parsed and checked on its own, against one view of the project. -/
namespace Conformance

namespace Workspace

/-- Steps that keep an invariant of the state, and under it give what a function gives, map the
items by that function. -/
theorem inTurn_eq_map {α β σ : Type} {step : σ → α → β × σ} (valid : σ → Prop) (f : α → β)
    {items : List α}
    (each : ∀ s, valid s → ∀ a ∈ items, (step s a).1 = f a ∧ valid (step s a).2)
    {s : σ} (start : valid s) :
    (inTurn step items s).1 = items.map f ∧ valid (inTurn step items s).2 := by
  induction items generalizing s with
  | nil => exact ⟨rfl, start⟩
  | cons a rest ih =>
    obtain ⟨here, kept⟩ := each s start a List.mem_cons_self
    obtain ⟨there, valid⟩ :=
      ih (fun s valid b inside => each s valid b (List.mem_cons_of_mem _ inside)) kept
    refine ⟨?_, valid⟩
    simp only [inTurn, List.map_cons, here, there]

/-- The same as one equation for the items and the last state. -/
theorem exists_inTurn_eq {α β σ : Type} (step : σ → α → β × σ) (valid : σ → Prop) (f : α → β)
    {items : List α}
    (each : ∀ s, valid s → ∀ a ∈ items, (step s a).1 = f a ∧ valid (step s a).2)
    {s : σ} (start : valid s) : ∃ last, inTurn step items s = (items.map f, last) ∧ valid last := by
  obtain ⟨values, kept⟩ := inTurn_eq_map valid f each start
  exact ⟨_, Prod.ext values rfl, kept⟩

end Workspace

/-- One run: the opened project, the tree it looks at, the files asked for and the time. -/
structure Run where
  workspace : Workspace
  tree : FileTree
  targets : List String
  now : String

namespace Run
open Workspace

def outcome (r : Run) : Except Failure RunReport :=
  (r.workspace.validatePaths r.tree r.targets r.now).1

/-- The tree that the run leaves behind. -/
def treeAfter (r : Run) : FileTree := (r.workspace.validatePaths r.tree r.targets r.now).2

/-- The same run without stored results. -/
def uncached (r : Run) : Run := { r with workspace := r.workspace.withCache false }

def paths (r : Run) : List String :=
  runPaths ((r.workspace.discover r.tree).toOption.getD []) r.targets

def files (r : Run) : Dict Unit := .ofList (r.paths.map fun p => (p, ()))

def text (r : Run) (path : String) : Except FileError String :=
  r.tree.readText (FileTree.join r.workspace.root path)

/-- The stored model that goes with a file. -/
def sidecar? (r : Run) (path : String) : Option String :=
  r.workspace.modelSource.input? r.tree r.workspace.root path

def loaded (r : Run) (path : String) : LoadedFile where
  path
  target := r.targets.contains path
  content := r.text path
  checksum := match r.text path with
    | .ok text => inputChecksum text (r.sidecar? path)
    | .error _ => ""

/-- The results of earlier runs as this one finds them. -/
def cache? (r : Run) : Option ResultCache :=
  if r.workspace.config.cache.enabled then some (r.workspace.loadCache r.tree r.now) else none

/-- The stored result that stands for a file. -/
def stored? (r : Run) (path : String) : Option CachedResult :=
  r.cache?.bind fun c => c.peek? path (r.loaded path).checksum

def model (r : Run) (path content : String) : Except Failure SourceModel :=
  r.workspace.modelSource.parse r.tree r.workspace.root path content

/-- The project files that the imports of a model name. -/
def importsOf (files : Dict Unit) (path : String) : Except Failure SourceModel → List String
  | .ok m => sortedDistinct
      (m.imports.filterMap fun i => Path.resolveModule? files path i.moduleSpecifier)
  | .error _ => []

def parsed (r : Run) (path content : String) : ParsedFile where
  path
  content
  checksum := (r.loaded path).checksum
  target := r.targets.contains path
  tags := TagScan.extract content
  model := r.model path content
  imports := importsOf r.files path (r.model path content)

end Run

namespace Run
open Workspace
variable {r : Run}

theorem path_loaded (r : Run) (path : String) : (r.loaded path).path = path := rfl

theorem text_of_entry {path place content : String}
    (joined : FileTree.join r.workspace.root path = place)
    (entry : r.tree.entry place = .ok (.file content.toUTF8)) : r.text path = .ok content := by
  rw [← joined] at entry
  exact FileTree.readText_of_entry entry

/-- What is remembered during a run is what its tree and its registry say. -/
structure Remembers (r : Run) (s : Session) : Prop where
  contents : s.contents.Sound fun path content => r.text path = .ok content
  tags : s.tags.Sound fun path tags =>
    ∃ content, r.text path = .ok content ∧ tags = TagScan.extract content
  models : s.models.Sound fun path m =>
    ∃ content, r.text path = .ok content ∧ r.model path content = .ok m
  modules : s.modules.Sound fun key target =>
    target = Path.resolveModule? r.files key.1 key.2
  architectures : s.architectures.Sound fun id a => a = r.workspace.resolve id

private theorem remembers_empty : Remembers r {} :=
  ⟨Memo.sound_empty, Memo.sound_empty, Memo.sound_empty, Memo.sound_empty, Memo.sound_empty⟩

theorem loadFile_eq {s : Session} (remembers : Remembers r s) (path : String) :
    (r.workspace.loadFile r.tree r.targets s path).1 = r.loaded path ∧
      Remembers r (r.workspace.loadFile r.tree r.targets s path).2 := by
  obtain ⟨read, sound⟩ :=
    remembers.contents.getOrTryInsert path (fun _ => r.text path) (fun _ => Iff.rfl)
  refine ⟨?_, { remembers with contents := sound }⟩
  unfold loadFile loaded
  simp only [text] at read
  simp only [read]
  rfl

theorem resolveImport_eq {s : Session} (remembers : Remembers r s) (path : String)
    (i : ImportDecl) :
    (resolveImport r.files path s i).1 = Path.resolveModule? r.files path i.moduleSpecifier ∧
      Remembers r (resolveImport r.files path s i).2 := by
  obtain ⟨target, sound⟩ := remembers.modules.getOrInsert (path, i.moduleSpecifier)
    (fun _ => Path.resolveModule? r.files path i.moduleSpecifier) (Eq.refl _)
  unfold resolveImport
  exact ⟨target, { remembers with modules := sound }⟩

theorem parseFile_eq {s : Session} (remembers : Remembers r s) {path content : String}
    (readable : r.text path = .ok content) :
    (r.workspace.parseFile r.tree r.files s (r.loaded path, content)).1 = r.parsed path content ∧
      Remembers r (r.workspace.parseFile r.tree r.files s (r.loaded path, content)).2 := by
  obtain ⟨⟨content', readable', tags⟩, tagged⟩ := remembers.tags.getOrInsert path
    (fun _ => TagScan.extract content) ⟨content, readable, rfl⟩
  cases readable.symm.trans readable'
  obtain ⟨read, modelled⟩ := remembers.models.getOrTryInsert path
    (fun _ => r.model path content) (fun m => ⟨
      fun ⟨content', readable', given⟩ => by cases readable.symm.trans readable'; exact given,
      fun given => ⟨content, readable, given⟩⟩)
  have known : Remembers r { s with
      tags := (s.tags.getOrInsert path fun _ => TagScan.extract content).2
      models := (s.models.getOrTryInsert path fun _ => r.model path content).2 } :=
    { remembers with tags := tagged, models := modelled }
  unfold parseFile parsed
  simp only [model] at read known ⊢
  simp only [tags, read, loaded]
  generalize (s.models.getOrTryInsert path _).2 = models at known ⊢
  cases r.workspace.modelSource.parse r.tree r.workspace.root path content with
  | error e =>
    refine ⟨?_, known⟩
    rfl
  | ok m =>
    have each := inTurn_eq_map (Remembers r)
      (fun i : ImportDecl => Path.resolveModule? r.files path i.moduleSpecifier)
      (fun s valid i (_ : i ∈ m.imports) => resolveImport_eq valid path i) known
    refine ⟨?_, each.2⟩
    simp only [each.1, importsOf, List.filterMap_map, Function.id_comp]

/-- Check a file, with its architecture resolved anew. -/
def checked (w : Workspace) (project : ProjectIndex) (f : ParsedFile) : FileResult :=
  match f.tags.arch with
  | none => w.checkUntagged f
  | some tag => w.checkTagged project f tag (w.resolve tag.id)

theorem checkFile_eq {s : Session} (remembers : Remembers r s) (project : ProjectIndex)
    (f : ParsedFile) :
    (r.workspace.checkFile project s f).1 = checked r.workspace project f ∧
      Remembers r (r.workspace.checkFile project s f).2 := by
  unfold checkFile checked
  cases f.tags.arch with
  | none => exact ⟨rfl, remembers⟩
  | some tag =>
    obtain ⟨flattened, sound⟩ := remembers.architectures.getOrInsert tag.id
      (fun _ => r.workspace.resolve tag.id) rfl
    refine ⟨?_, { remembers with architectures := sound }⟩
    simp only [flattened]

/-- What the look-up of a file comes to. -/
def consulted (r : Run) (path : String) : Consulted :=
  match r.text path with
  | .error e => .unreadable (readFailure path e) (r.targets.contains path)
  | .ok content =>
    match r.stored? path with
    | some e => .stored (e.toResult path) (r.targets.contains path)
    | none => .missed (r.loaded path) content

/-- The cache in the course of the look-ups. -/
def Consults (r : Run) (c : Option ResultCache) : Prop :=
  match r.cache?, c with
  | none, none => True
  | some before, some after =>
    ResultCache.Trims (fun path => (r.loaded path).checksum) before after
  | _, _ => False

theorem lookupStored_eq {c : Option ResultCache} (consults : r.Consults c) (path : String) :
    (lookupStored c (r.loaded path)).1 = r.stored? path ∧
      r.Consults (lookupStored c (r.loaded path)).2 := by
  unfold Consults at consults
  unfold lookupStored stored?
  split at consults
  · rename_i off
    rw [off]
    exact ⟨rfl, by simp [Consults, off]⟩
  · rename_i before after on
    rw [on, Option.bind_some]
    simp only
    split
    · refine ⟨?_, ?_⟩
      · exact (after.get?_eq_peek? path _).trans (consults.peek path)
      · simp only [Consults, on]
        exact consults.trans (after.get?_trims path)
    · refine ⟨consults.peek path, ?_⟩
      simpa only [Consults, on] using consults
  · cases consults

theorem consult_eq {c : Option ResultCache} (consults : r.Consults c) (path : String) :
    (consult c (r.loaded path)).1 = r.consulted path ∧
      r.Consults (consult c (r.loaded path)).2 := by
  obtain ⟨found, consults'⟩ := lookupStored_eq consults path
  have content : (r.loaded path).content = r.text path := rfl
  unfold consult consulted
  rw [content]
  cases r.text path with
  | error e => exact ⟨rfl, consults⟩
  | ok content =>
    rw [← found]
    generalize lookupStored c (r.loaded path) = looked at consults' ⊢
    obtain ⟨_ | e, c'⟩ := looked
    · exact ⟨rfl, consults'⟩
    · exact ⟨rfl, consults'⟩

/-- A file that has to be parsed, because nothing is stored for it. -/
def missed? (r : Run) (path : String) : Option ParsedFile :=
  match r.text path, r.stored? path with
  | .ok content, none => some (r.parsed path content)
  | _, _ => none

theorem missed?_of_missed {path content : String} (readable : r.text path = .ok content)
    (missed : r.stored? path = none) : r.missed? path = some (r.parsed path content) := by
  unfold missed?
  rw [readable, missed]

/-- The project as the checks of the run see it. -/
def project (r : Run) : ProjectIndex :=
  projectOf (r.paths.map r.loaded)
    (r.paths.filterMap (fun path => (r.consulted path).imports?) ++
      (r.paths.filterMap r.missed?).map fun f => (f.path, f.imports))

/-- The files that are checked anew. -/
def wanted (r : Run) : List ParsedFile := (r.paths.filterMap r.missed?).filter (·.target)

private theorem mem_missed {file : LoadedFile × String}
    (member : file ∈ (r.paths.map r.consulted).filterMap (·.missed?)) :
    file = (r.loaded file.1.path, file.2) ∧ r.text file.1.path = .ok file.2 := by
  obtain ⟨c, inside, missed⟩ := List.mem_filterMap.1 member
  obtain ⟨path, -, rfl⟩ := List.mem_map.1 inside
  unfold consulted at missed
  split at missed
  · cases missed
  · rename_i content readable
    split at missed
    · cases missed
    · cases missed
      exact ⟨rfl, readable⟩

theorem missed_eq :
    ((r.paths.map r.consulted).filterMap (·.missed?)).map
      (fun file => r.parsed file.1.path file.2) = r.paths.filterMap r.missed? := by
  rw [List.filterMap_map, List.map_filterMap]
  congr 1
  funext path
  unfold consulted missed?
  simp only [Function.comp_apply]
  cases r.text path with
  | error e => rfl
  | ok content => cases r.stored? path <;> rfl

/-- The results in path order. -/
def results (r : Run) : List FileResult :=
  (r.paths.filterMap (fun path => (r.consulted path).result?) ++
    r.wanted.map (checked r.workspace r.project)).mergeSort fun a b => decide (a.path ≤ b.path)

theorem load_all : ∃ s, inTurn (r.workspace.loadFile r.tree r.targets) r.paths {} =
    (r.paths.map r.loaded, s) ∧ Remembers r s :=
  exists_inTurn_eq (r.workspace.loadFile r.tree r.targets) (Remembers r) r.loaded
    (fun _ remembers path _ => loadFile_eq remembers path) remembers_empty

theorem consult_all : ∃ c, inTurn consult (r.paths.map r.loaded) r.cache? =
    (r.paths.map r.consulted, c) ∧ r.Consults c := by
  have start : r.Consults r.cache? := by
    unfold Consults
    cases r.cache? with
    | none => trivial
    | some c => exact ResultCache.Trims.refl c
  have each (c : Option ResultCache) (consults : r.Consults c) : ∀ f ∈ r.paths.map r.loaded,
      (consult c f).1 = r.consulted f.path ∧ r.Consults (consult c f).2 := by
    intro f member
    obtain ⟨path, -, rfl⟩ := List.mem_map.1 member
    rw [path_loaded]
    exact consult_eq consults path
  have own : (fun f => r.consulted f.path) ∘ r.loaded = r.consulted := rfl
  obtain ⟨c, all, consults⟩ := exists_inTurn_eq consult r.Consults _ each start
  rw [List.map_map, own] at all
  exact ⟨c, all, consults⟩

theorem parse_all {s : Session} (remembers : Remembers r s) :
    ∃ s', inTurn (r.workspace.parseFile r.tree r.files)
      ((r.paths.map r.consulted).filterMap (·.missed?)) s = (r.paths.filterMap r.missed?, s') ∧
        Remembers r s' := by
  have each (s : Session) (remembers : Remembers r s) :
      ∀ file ∈ (r.paths.map r.consulted).filterMap (·.missed?),
        (r.workspace.parseFile r.tree r.files s file).1 = r.parsed file.1.path file.2 ∧
          Remembers r (r.workspace.parseFile r.tree r.files s file).2 := by
    intro file member
    obtain ⟨same, readable⟩ := mem_missed member
    rw [same, path_loaded]
    exact parseFile_eq remembers readable
  obtain ⟨s', all, remembers⟩ :=
    exists_inTurn_eq (r.workspace.parseFile r.tree r.files) (Remembers r) _ each remembers
  rw [missed_eq] at all
  exact ⟨s', all, remembers⟩

theorem check_all {s : Session} (remembers : Remembers r s) :
    ∃ s', inTurn (r.workspace.checkFile r.project) r.wanted s =
      (r.wanted.map (checked r.workspace r.project), s') := by
  obtain ⟨s', all, -⟩ := exists_inTurn_eq (r.workspace.checkFile r.project) (Remembers r)
    (checked r.workspace r.project) (fun _ remembers f _ => checkFile_eq remembers r.project f)
    remembers
  exact ⟨s', all⟩

/-- The results of earlier runs after all files were looked up. -/
def looked? (r : Run) : Option ResultCache := (inTurn consult (r.paths.map r.loaded) r.cache?).2

/-- The files that are checked anew, with their results. -/
def fresh (r : Run) : List (ParsedFile × FileResult) :=
  r.wanted.map fun f => (f, checked r.workspace r.project f)

private theorem looked?_consults : r.Consults r.looked? := by
  obtain ⟨c, looks, consults⟩ := consult_all (r := r)
  rwa [looked?, looks]

/-- A run over the discovered files, each step replaced by what it gives. -/
theorem validatePaths_parts {discovered : List String}
    (found : r.workspace.discover r.tree = .ok discovered) :
    ∃ session,
      r.outcome = .ok {
        results := r.results, summary := .tally r.results
        cache := r.looked?.map fun c => (storeResults c r.tree r.files r.fresh r.now).1, session } ∧
      r.treeAfter = match r.looked? with
        | some c => (storeResults c r.tree r.files r.fresh r.now).2
        | none => r.tree := by
  obtain ⟨s, loads, remembers⟩ := load_all (r := r)
  have consults : inTurn consult (r.paths.map r.loaded) r.cache? =
      (r.paths.map r.consulted, r.looked?) := by
    obtain ⟨c, looks, -⟩ := consult_all (r := r)
    rw [looked?, looks]
  obtain ⟨s, parses, remembers⟩ := parse_all remembers
  obtain ⟨s, checks⟩ := check_all remembers
  have paths : runPaths discovered r.targets = r.paths := by
    rw [Run.paths, found]
    rfl
  have files : Dict.ofList (r.paths.map fun path => (path, ())) = r.files := rfl
  have cached : (if r.workspace.config.cache.enabled then some (r.workspace.loadCache r.tree r.now)
      else none) = r.cache? := rfl
  have imports : (r.paths.map r.consulted).filterMap (·.imports?) =
      r.paths.filterMap fun path => (r.consulted path).imports? := by
    rw [List.filterMap_map]
    rfl
  have present : (r.paths.map r.consulted).filterMap (·.result?) =
      r.paths.filterMap fun path => (r.consulted path).result? := by
    rw [List.filterMap_map]
    rfl
  have zipped : r.wanted.zip (r.wanted.map (checked r.workspace r.project)) = r.fresh := by
    have both := List.zip_map' (l := r.wanted) (f := id) (g := checked r.workspace r.project)
    rwa [List.map_id] at both
  have project : projectOf (r.paths.map r.loaded)
      (r.paths.filterMap (fun path => (r.consulted path).imports?) ++
        (r.paths.filterMap r.missed?).map fun f => (f.path, f.imports)) = r.project := rfl
  have wanted : (r.paths.filterMap r.missed?).filter (·.target) = r.wanted := rfl
  have results : ((r.paths.filterMap fun path => (r.consulted path).result?) ++
      r.wanted.map (checked r.workspace r.project)).mergeSort (fun a b => decide (a.path ≤ b.path)) =
        r.results := rfl
  unfold outcome treeAfter validatePaths
  simp only [found, paths, files, cached, loads, consults, parses, imports, present, project,
    wanted, checks, zipped, results]
  cases r.looked? with
  | none =>
    dsimp only
    exact ⟨s, rfl, rfl⟩
  | some c =>
    dsimp only [Option.map_some]
    exact ⟨s, rfl, rfl⟩

/-- The same where of the cache no more is wanted than what it gives. -/
theorem validatePaths_eq {discovered : List String}
    (found : r.workspace.discover r.tree = .ok discovered) :
    ∃ c session stats, r.Consults c ∧
      r.outcome = .ok { results := r.results, summary := .tally r.results, cache := stats, session } ∧
      r.treeAfter = match c with
        | some c => (storeResults c r.tree r.files
            (r.wanted.map fun f => (f, checked r.workspace r.project f)) r.now).2
        | none => r.tree := by
  obtain ⟨session, done, tree⟩ := validatePaths_parts found
  exact ⟨r.looked?, session, _, looked?_consults, done, tree⟩

/-- The result of one file: why it cannot be read, what is stored for it, or what a check
finds. -/
def result (r : Run) (path : String) : FileResult :=
  match r.text path with
  | .error e => readFailure path e
  | .ok content =>
    match r.stored? path with
    | some e => e.toResult path
    | none => checked r.workspace r.project (r.parsed path content)

theorem result_of_unread {path : String} {e : FileError} (unread : r.text path = .error e) :
    r.result path = readFailure path e := by
  unfold result
  rw [unread]

theorem result_of_missed {path content : String} (readable : r.text path = .ok content)
    (missed : r.stored? path = none) :
    r.result path = checked r.workspace r.project (r.parsed path content) := by
  unfold result
  rw [readable]
  dsimp only
  rw [missed]

theorem result_of_stored {path content : String} {e : CachedResult}
    (readable : r.text path = .ok content) (hit : r.stored? path = some e) :
    r.result path = e.toResult path := by
  unfold result
  rw [readable]
  dsimp only
  rw [hit]

private theorem path_checked (w : Workspace) (project : ProjectIndex) (f : ParsedFile) :
    (checked w project f).path = f.path := by
  unfold checked checkTagged
  split
  · rfl
  · split <;> rfl

theorem path_result (path : String) : (r.result path).path = path := by
  unfold result
  split
  · rfl
  · split
    · rfl
    · exact path_checked _ _ _

/-- A file that is asked for has its result either at once or by a check; one that is not has
none. -/
private theorem consulted_cases (path : String) :
    (r.targets.contains path = false ∧ (r.consulted path).result? = none ∧
      (r.missed? path).filter (·.target) = none) ∨
    (r.targets.contains path = true ∧ (r.consulted path).result? = some (r.result path) ∧
      (r.missed? path).filter (·.target) = none) ∨
    (r.targets.contains path = true ∧ (r.consulted path).result? = none ∧
      ∃ f, (r.missed? path).filter (·.target) = some f ∧
        checked r.workspace r.project f = r.result path) := by
  unfold consulted missed? result
  have asked (content : String) : (r.parsed path content).target = r.targets.contains path := rfl
  cases target : r.targets.contains path with
  | false =>
    refine .inl ⟨rfl, ?_⟩
    cases r.text path with
    | error e => exact ⟨rfl, rfl⟩
    | ok content =>
      cases r.stored? path with
      | none => exact ⟨rfl, by simp only [Option.filter, asked, target, Bool.false_eq_true, if_false]⟩
      | some e => exact ⟨rfl, rfl⟩
  | true =>
    refine .inr ?_
    cases r.text path with
    | error e => exact .inl ⟨rfl, rfl, rfl⟩
    | ok content =>
      cases r.stored? path with
      | none => exact .inr ⟨rfl, rfl, _, by simp only [Option.filter, asked, target, if_true], rfl⟩
      | some e => exact .inl ⟨rfl, rfl, rfl⟩

/-- The results found at once and those of the files checked, taken together. -/
private theorem results_perm (paths : List String) :
    List.Perm (paths.filterMap (fun path => (r.consulted path).result?) ++
        ((paths.filterMap r.missed?).filter (·.target)).map (checked r.workspace r.project))
      ((paths.filter r.targets.contains).map r.result) := by
  rw [List.filter_filterMap]
  induction paths with
  | nil => exact .refl _
  | cons path rest ih =>
    rw [List.filterMap_cons, List.filterMap_cons, List.filter_cons]
    rcases consulted_cases (r := r) path with ⟨other, none, skipped⟩ | ⟨target, atOnce, skipped⟩ |
      ⟨target, none, f, missed, same⟩
    · simpa only [other, none, skipped, Bool.false_eq_true, if_false] using ih
    · simp only [target, atOnce, skipped, if_true, List.map_cons, List.cons_append]
      exact ih.cons _
    · simp only [target, none, missed, if_true, List.map_cons, same]
      exact List.perm_middle.trans (ih.cons _)

theorem targets_of_paths : r.paths.filter r.targets.contains = sortedDistinct r.targets := by
  have sorted : (r.paths.filter r.targets.contains).Pairwise (· < ·) :=
    (sortedDistinct_increasing _).filter _
  refine sorted.eq_of_mem_iff (sortedDistinct_increasing _) fun path => ?_
  simp only [paths, runPaths, List.mem_filter, mem_sortedDistinct, List.mem_append,
    List.contains_iff_mem]
  exact ⟨And.right, fun asked => ⟨.inr asked, asked⟩⟩

/-- The results of a run are those of the files asked for, each once, in path order. -/
theorem results_eq : r.results = (sortedDistinct r.targets).map r.result := by
  have sorted : ((sortedDistinct r.targets).map r.result).Pairwise
      fun a b => decide (a.path ≤ b.path) = true := by
    rw [List.pairwise_map]
    refine (sortedDistinct_increasing _).imp fun less => ?_
    simp only [path_result, decide_eq_true_eq]
    exact String.not_lt.1 (String.lt_asymm less)
  unfold results wanted
  have perm := (List.mergeSort_perm _ fun a b => decide (a.path ≤ b.path)).trans
    (results_perm (r := r) r.paths)
  rw [targets_of_paths] at perm
  refine List.Perm.eq_of_pairwise ?_ (List.pairwise_mergeSort ?_ ?_ _) sorted perm
  · intro a b memberA memberB le ge
    obtain ⟨pathA, -, rfl⟩ := List.mem_map.1 (perm.subset memberA)
    obtain ⟨pathB, -, rfl⟩ := List.mem_map.1 memberB
    simp only [path_result, decide_eq_true_eq] at le ge
    rw [String.le_antisymm le ge]
  · intro a b c
    simp only [decide_eq_true_eq]
    exact String.le_trans
  · intro a b
    simp only [Bool.or_eq_true, decide_eq_true_eq]
    exact String.le_total _ _

theorem outcome_of_undiscovered {e : Failure} (missing : r.workspace.discover r.tree = .error e) :
    r.outcome = .error e := by
  unfold outcome validatePaths
  rw [missing]

/-- A run that finds its project reports on every file asked for. -/
theorem reports {discovered : List String} (found : r.workspace.discover r.tree = .ok discovered)
    {path : String} (asked : path ∈ r.targets) :
    ∃ report, r.outcome = .ok report ∧ r.result path ∈ report.results := by
  obtain ⟨_, _, _, -, done, -⟩ := validatePaths_eq found
  refine ⟨_, done, ?_⟩
  rw [results_eq]
  exact List.mem_map_of_mem (mem_sortedDistinct.2 asked)

end Run

end Conformance
