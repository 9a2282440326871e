import Conformance.Proofs.Workspace.Run

/-! The view of the project that the checks of a run share: its files, their texts, and the import
graph put together from parsed files and stored results. -/
namespace Conformance

namespace Workspace

/-- Adding loaded files adds their paths and the texts of those that can be read. -/
private theorem foldl_addFile (loaded : List LoadedFile) (p : ProjectIndex) :
    loaded.foldl (fun p f =>
      let p := p.addFile f.path
      match f.content with
      | .ok content => p.setContent f.path content
      | .error _ => p) p =
    { p with
      files := (loaded.map fun f => (f.path, ())).foldl (fun d e => d.insert e.1 e.2) p.files
      contents := (loaded.filterMap fun f => f.content.toOption.map fun c => (f.path, c)).foldl
        (fun d e => d.insert e.1 e.2) p.contents } := by
  induction loaded generalizing p with
  | nil => rfl
  | cons f rest ih =>
    rw [List.foldl_cons, ih, List.map_cons, List.foldl_cons, List.filterMap_cons]
    cases f.content <;> rfl

private theorem foldl_setImports (imports : List (String × List String)) (p : ProjectIndex) :
    imports.foldl (fun p (entry : String × List String) => p.setImports entry.1 entry.2) p =
      { p with imports := imports.foldl (fun d e => d.insert e.1 e.2) p.imports } := by
  induction imports generalizing p with
  | nil => rfl
  | cons entry rest ih =>
    rw [List.foldl_cons, ih]
    rfl

theorem projectOf_eq (loaded : List LoadedFile) (imports : List (String × List String)) :
    projectOf loaded imports = ({
      files := .ofList (loaded.map fun f => (f.path, ()))
      imports := .ofList imports
      contents := .ofList (loaded.filterMap fun f =>
        f.content.toOption.map fun content => (f.path, content)) } : ProjectIndex).link := by
  have added := foldl_addFile loaded {}
  have imported := foldl_setImports imports { ({} : ProjectIndex) with
    files := .ofList (loaded.map fun f => (f.path, ()))
    contents := .ofList (loaded.filterMap fun f =>
      f.content.toOption.map fun content => (f.path, content)) }
  unfold projectOf
  exact congrArg ProjectIndex.link ((congrArg (List.foldl _ · imports) added).trans imported)

end Workspace

namespace Run
open Workspace
variable {r : Run}

/-- The imports of a file as the run takes them: those stored for it, or else those found by
parsing. -/
def seenImports? (r : Run) (path : String) : Option (List String) :=
  match r.text path with
  | .error _ => none
  | .ok content => some (match r.stored? path with
    | some e => e.imports
    | none => importsOf r.files path (r.model path content))

section Seen

variable {path content : String}

theorem seenImports?_unread {e : FileError} (unread : r.text path = .error e) :
    r.seenImports? path = none := by
  unfold seenImports?
  rw [unread]

theorem seenImports?_stored {e : CachedResult} (readable : r.text path = .ok content)
    (hit : r.stored? path = some e) : r.seenImports? path = some e.imports := by
  unfold seenImports?
  rw [readable, hit]

theorem seenImports?_missed (readable : r.text path = .ok content)
    (missed : r.stored? path = none) :
    r.seenImports? path = some (importsOf r.files path (r.model path content)) := by
  unfold seenImports?
  rw [readable, missed]

end Seen

theorem project_eq : r.project = ({
    files := r.files
    imports := .ofList (r.paths.filterMap (fun path => (r.consulted path).imports?) ++
      (r.paths.filterMap r.missed?).map fun f => (f.path, f.imports))
    contents := .ofList (r.paths.filterMap fun path =>
      (r.text path).toOption.map fun content => (path, content)) } : ProjectIndex).link := by
  rw [project, projectOf_eq, List.map_map, List.filterMap_map]
  rfl

theorem project_files : r.project.files = r.files := by
  rw [project_eq]
  rfl

theorem contains_files {path : String} : r.files.contains path = true ↔ path ∈ r.paths := by
  simp [Dict.contains_iff, files, Dict.mem_keys_ofList]

/-- The text of a file of the run. -/
theorem project_content? {path content : String} :
    r.project.content? path = some content ↔ path ∈ r.paths ∧ r.text path = .ok content := by
  have entry (key value : String) :
      (key, value) ∈ r.paths.filterMap (fun path =>
        (r.text path).toOption.map fun content => (path, content)) ↔
      key ∈ r.paths ∧ r.text key = .ok value := by
    simp only [List.mem_filterMap, Option.map_eq_some_iff, Prod.mk.injEq]
    constructor
    · rintro ⟨p, member, c, readable, rfl, rfl⟩
      refine ⟨member, ?_⟩
      cases given : r.text p with
      | error e => simp [given, Except.toOption] at readable
      | ok c => simpa [given, Except.toOption] using readable
    · rintro ⟨member, readable⟩
      exact ⟨key, member, value, by rw [readable]; rfl, rfl, rfl⟩
  rw [project_eq]
  refine (Dict.find?_ofList_of_unique fun key a b atA atB => ?_).trans (entry path content)
  have textA := ((entry key a).1 atA).2
  have textB := ((entry key b).1 atB).2
  exact Except.ok.inj (textA.symm.trans textB)

theorem mem_imports {path : String} {targets : List String} :
    (path, targets) ∈ r.paths.filterMap (fun path => (r.consulted path).imports?) ++
      (r.paths.filterMap r.missed?).map (fun f => (f.path, f.imports)) ↔
    path ∈ r.paths ∧ r.seenImports? path = some targets := by
  have stored (p : String) : (r.consulted p).imports? = some (path, targets) ↔
      ∃ content e, r.text p = .ok content ∧ r.stored? p = some e ∧ p = path ∧
        e.imports = targets := by
    unfold consulted
    cases r.text p with
    | error e => simp [Consulted.imports?]
    | ok content =>
      cases r.stored? p <;> simp [Consulted.imports?, CachedResult.toResult]
  have found (p : String) (f : ParsedFile) : r.missed? p = some f ↔
      ∃ content, r.text p = .ok content ∧ r.stored? p = none ∧ r.parsed p content = f := by
    unfold missed?
    cases r.text p with
    | error e => simp
    | ok content => cases r.stored? p <;> simp
  simp only [List.mem_append, List.mem_filterMap, List.mem_map, stored, found, Prod.mk.injEq]
  constructor
  · rintro (⟨p, member, content, e, readable, hit, rfl, rfl⟩ |
      ⟨f, ⟨p, member, content, readable, missed, rfl⟩, rfl, rfl⟩)
    · exact ⟨member, seenImports?_stored readable hit⟩
    · exact ⟨member, seenImports?_missed readable missed⟩
  · rintro ⟨member, seen⟩
    cases readable : r.text path with
    | error e =>
      rw [seenImports?_unread readable] at seen
      cases seen
    | ok content =>
      cases hit : r.stored? path with
      | some e =>
        rw [seenImports?_stored readable hit] at seen
        exact .inl ⟨path, member, content, e, readable, hit, rfl, Option.some.inj seen⟩
      | none =>
        rw [seenImports?_missed readable hit] at seen
        exact .inr ⟨_, ⟨path, member, content, readable, hit, rfl⟩, rfl, Option.some.inj seen⟩

/-- The imports of a file of the run. -/
theorem project_imports {path : String} {targets : List String} :
    r.project.imports.find? path = some targets ↔
      path ∈ r.paths ∧ r.seenImports? path = some targets := by
  rw [project_eq]
  refine (Dict.find?_ofList_of_unique fun key a b atA atB => ?_).trans mem_imports
  have seenA := (mem_imports.1 atA).2
  have seenB := (mem_imports.1 atB).2
  exact Option.some.inj (seenA.symm.trans seenB)

/-- Who imports a file follows from what the files import. -/
theorem project_importers_congr {r' : Run} (same : r.project.imports = r'.project.imports) :
    r.project.importers = r'.project.importers := by
  rw [project_eq, project_eq] at same ⊢
  simp only [ProjectIndex.link, ProjectIndex.edges] at same ⊢
  rw [same]

end Run

end Conformance
