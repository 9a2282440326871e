import Conformance.Proofs.Registry
import Conformance.Proofs.ResultCache.Persistence
import Conformance.Proofs.Workspace.Dependence

/-! What the checksum of a registry stands for. It tells the definitions and nothing else: not the
files that they come from, nor how these are written. So results are thrown away as a whole when a
definition changes, and kept when only the writing does. -/
namespace Conformance

namespace Registry

/-- The registry that files, given by path and text, are merged into in their order. -/
def ofFiles? (files : List (String × String)) : Option Registry :=
  files.foldlM (fun r file => r.mergeText? file.1 file.2) {}

/-- What the texts of files are read as. -/
def tables (files : List (String × String)) : List (Option RegistryFile) :=
  files.map fun file => RegistryFile.read? file.2

section Merging

variable {r s : Registry}

theorem SameDefinitions.refl (r : Registry) : r.SameDefinitions r := ⟨rfl, rfl, rfl⟩

/-- What is merged does not depend on the name of the file. -/
theorem SameDefinitions.merge (same : r.SameDefinitions s) (path path' : String)
    (file : RegistryFile) : (r.merge path file).SameDefinitions (s.merge path' file) := by
  obtain ⟨nodes, mixins, intents⟩ := same
  constructor
  · simp [Registry.merge, nodes]
  · simp [Registry.merge, mixins]
  · simp [Registry.merge, intents]

theorem wellNamed_of_foldlM {files : List (String × String)} {start : Registry}
    (named : start.WellNamed)
    (built : files.foldlM (fun r file => r.mergeText? file.1 file.2) start = some r) :
    r.WellNamed := by
  induction files generalizing start with
  | nil =>
    cases built
    exact named
  | cons file rest ih =>
    rw [List.foldlM_cons] at built
    obtain ⟨next, merged, built⟩ := Option.bind_eq_some_iff.1 built
    obtain ⟨parts, -, rfl⟩ := Option.map_eq_some_iff.1 merged
    exact ih (named.merge file.1 parts) built

theorem wellNamed_of_files {files : List (String × String)} (built : ofFiles? files = some r) :
    r.WellNamed :=
  wellNamed_of_foldlM wellNamed_empty built

private theorem sameDefinitions_of_foldlM {files files' : List (String × String)}
    {start start' : Registry}
    (same : start.SameDefinitions start') (alike : tables files = tables files')
    (built : files.foldlM (fun r file => r.mergeText? file.1 file.2) start = some r)
    (builtToo : files'.foldlM (fun r file => r.mergeText? file.1 file.2) start' = some s) :
    r.SameDefinitions s := by
  induction files generalizing start start' files' with
  | nil =>
    cases files' with
    | cons => cases alike
    | nil =>
      cases built
      cases builtToo
      exact same
  | cons file rest ih =>
    cases files' with
    | nil => cases alike
    | cons file' rest' =>
      obtain ⟨read, others⟩ := List.cons.inj alike
      rw [List.foldlM_cons] at built builtToo
      obtain ⟨next, merged, built⟩ := Option.bind_eq_some_iff.1 built
      obtain ⟨next', mergedToo, builtToo⟩ := Option.bind_eq_some_iff.1 builtToo
      obtain ⟨parts, found, rfl⟩ := Option.map_eq_some_iff.1 merged
      obtain ⟨parts', foundToo, rfl⟩ := Option.map_eq_some_iff.1 mergedToo
      have parsed : parts = parts' := Option.some.inj (found.symm.trans (read.trans foundToo))
      subst parsed
      exact ih (same.merge file.1 file'.1 parts) others built builtToo

/-- Files with the same tables, under whatever names and in whatever writing, define the same. -/
private theorem sameDefinitions_of_tables {files files' : List (String × String)}
    (alike : tables files = tables files') (built : ofFiles? files = some r)
    (builtToo : ofFiles? files' = some s) : r.SameDefinitions s :=
  sameDefinitions_of_foldlM (.refl {}) alike built builtToo

theorem canonicalText_congr (same : r.SameDefinitions s) : r.canonicalText = s.canonicalText := by
  rw [canonicalText, canonicalText, toDocument, toDocument, same.nodes, same.mixins, same.intents]

theorem canonicalText_eq_iff (named : r.WellNamed) (namedToo : s.WellNamed) :
    r.canonicalText = s.canonicalText ↔ r.SameDefinitions s := by
  constructor
  · intro same
    obtain ⟨nodes, mixins, intents⟩ := eq_of_canonicalText named namedToo same
    exact ⟨nodes, mixins, intents⟩
  · exact canonicalText_congr

end Merging

end Registry

/-- A registry that is loaded from a tree is merged from the files found there. -/
theorem Workspace.ofFiles_of_loadRegistry {t : FileTree} {root : String} {r : Registry}
    (loaded : loadRegistry t root = .ok r) :
    ∃ files, Registry.ofFiles? files = some r ∧ files.map (·.1) = registryFiles t root := by
  unfold loadRegistry at loaded
  unfold Registry.ofFiles?
  generalize registryFiles t root = paths at loaded ⊢
  generalize ({} : Registry) = start at loaded ⊢
  induction paths generalizing start with
  | nil =>
    cases loaded
    exact ⟨[], rfl, rfl⟩
  | cons path rest ih =>
    rw [List.foldlM_cons] at loaded
    obtain ⟨next, first, loaded⟩ := bind_eq_ok loaded
    obtain ⟨text, -, first⟩ := bind_eq_ok first
    obtain ⟨files, built, names⟩ := ih next loaded
    refine ⟨(path, text) :: files, ?_, by rw [List.map_cons, names]⟩
    split at first
    · rename_i merged read
      cases first
      rw [List.foldlM_cons, read]
      exact built
    · cases first

open Workspace in
/-- Registries merged from files have one canonical text exactly if they define the same. So a change of
any definition throws away what is stored, and files read as the same tables never do. -/
theorem checksum_separates_registries {files files' : List (String × String)} {r s : Registry}
    (built : Registry.ofFiles? files = some r) (builtToo : Registry.ofFiles? files' = some s) :
    (r.canonicalText = s.canonicalText ↔
      r.nodes = s.nodes ∧ r.mixins = s.mixins ∧ r.intents = s.intents) ∧
    (r.canonicalText = s.canonicalText →
      ∀ id options, Resolution.resolve r id options = Resolution.resolve s id options) ∧
    ((r.checksum = s.checksum → r.canonicalText = s.canonicalText) →
      ¬ (r.nodes = s.nodes ∧ r.mixins = s.mixins ∧ r.intents = s.intents) →
      ∀ root config today t now c,
        ResultCache.stored t (ofParts root config s today).cachePath = .readable c →
        c.registryChecksum = r.checksum →
        let cache := (ofParts root config s today).loadCache t now
        cache.stats = { invalidated := c.files.size, fullInvalidation := true } ∧
          cache.document.files = ∅ ∧ cache.dirty = true) ∧
    (Registry.tables files = Registry.tables files' → r.checksum = s.checksum ∧
      ∀ root config today t now c,
        ResultCache.stored t (ofParts root config s today).cachePath = .readable c →
        ResultCache.isCurrent c r.checksum config.checksum = true →
        let cache := (ofParts root config s today).loadCache t now
        cache.stats = {} ∧ cache.document = c ∧ cache.dirty = false) := by
  have told := Registry.canonicalText_eq_iff (Registry.wellNamed_of_files built)
    (Registry.wellNamed_of_files builtToo)
  have fields : r.SameDefinitions s ↔
      r.nodes = s.nodes ∧ r.mixins = s.mixins ∧ r.intents = s.intents :=
    ⟨fun same => ⟨same.nodes, same.mixins, same.intents⟩, fun ⟨n, m, i⟩ => ⟨n, m, i⟩⟩
  refine ⟨told.trans fields, ?_, ?_, ?_⟩
  · intro same id options
    exact Resolution.resolve_congr (told.1 same) id options
  · intro free changed root config today t now c found stored
    apply ResultCache.load_of_other_registry found
    intro same
    exact changed (fields.1 (told.1 (free (stored.symm.trans same))))
  · intro alike
    have checksum : r.checksum = s.checksum := congrArg Sha256.ofText
      (Registry.canonicalText_congr (Registry.sameDefinitions_of_tables alike built builtToo))
    refine ⟨checksum, fun root config today t now c found current => ?_⟩
    rw [checksum] at current
    have loaded : (ofParts root config s today).loadCache t now =
        { path := (ofParts root config s today).cachePath, document := c } :=
      ResultCache.load_of_current found current now
    rw [loaded]
    exact ⟨rfl, rfl, rfl⟩

namespace Hinted

/-- A mixin, with its table written in two ways, and the same mixin with a hint. -/
def plain : List (String × String) := [("a.toml", "[mixins.m]\n")]

def rewritten : List (String × String) := [("b.toml", "# no hint\nmixins.m = \x7b\x7d\n")]

def hinted : List (String × String) := [("a.toml", "[mixins.m]\nhints = ['x']\n")]

/-- The tables that hold a mixin with some hints. -/
def tablesOf (hints : List String) : RegistryFile := { mixins := .ofList [("m", { hints })] }

def registry (path : String) (hints : List String) : Registry :=
  ({} : Registry).merge path (tablesOf hints)

theorem read?_of_parts {text : String} {hints : List String}
    (parts : (RegistryFile.read? text).map (fun f => (f.architectures, f.mixins, f.intents)) =
      some (∅, .ofList [("m", { hints })], ∅)) :
    RegistryFile.read? text = some (tablesOf hints) := by
  obtain ⟨⟨architectures, mixins, intents⟩, found, same⟩ := Option.map_eq_some_iff.1 parts
  simp only [Prod.mk.injEq] at same
  obtain ⟨rfl, rfl, rfl⟩ := same
  exact found

theorem plain_read : RegistryFile.read? "[mixins.m]\n" = some (tablesOf []) :=
  read?_of_parts (by decide +kernel)

theorem rewritten_read :
    RegistryFile.read? "# no hint\nmixins.m = \x7b\x7d\n" = some (tablesOf []) :=
  read?_of_parts (by decide +kernel)

theorem hinted_read : RegistryFile.read? "[mixins.m]\nhints = ['x']\n" = some (tablesOf ["x"]) :=
  read?_of_parts (by decide +kernel)

theorem built (path : String) {text : String} {hints : List String}
    (read : RegistryFile.read? text = some (tablesOf hints)) :
    Registry.ofFiles? [(path, text)] = some (registry path hints) := by
  simp only [Registry.ofFiles?, List.foldlM_cons, List.foldlM_nil, Registry.mergeText?, read]
  rfl

private theorem plain_differs :
    (registry "a.toml" []).checksum ≠ (registry "a.toml" ["x"]).checksum := by
  decide +kernel

/-- What was stored for the registry of the plain mixin. -/
def document : CacheDocument where
  registryChecksum := (registry "a.toml" []).checksum
  configChecksum := Config.checksum {}
  createdAt := "t"
  updatedAt := "t"
  files := .ofList [("a.ts", .ofResult { path := "a.ts" } "sum" "t")]

def tree : FileTree := { entries := .ofList [
  ("p", .folder), ("p/.arch", .folder), ("p/.arch/cache", .folder),
  ("p/.arch/cache/validation.json", .file (Json.writeIndented document.toDocument).toUTF8)] }

theorem stored_document (r : Registry) :
    ResultCache.stored tree (Workspace.ofParts "/p" {} r ⟨0⟩).cachePath = .readable document := by
  have path : (Workspace.ofParts "/p" {} r ⟨0⟩).cachePath = "/p/.arch/cache/validation.json" := by
    change FileTree.join "/p" ".arch/cache/validation.json" = _
    decide
  have entry : tree.entry "/p/.arch/cache/validation.json" =
      .ok (.file (Json.writeIndented document.toDocument).toUTF8) := by
    rfl
  rw [path]
  refine ResultCache.stored_of_read (FileTree.readText_of_entry entry)
    (CacheDocument.read?_of_storable (by decide) fun file e found => ?_)
  have inside : (file, e) ∈ [("a.ts", CachedResult.ofResult { path := "a.ts" } "sum" "t")] :=
    (Dict.find?_ofList_of_nodup (by decide)).1 found
  cases List.mem_singleton.1 inside
  exact ⟨List.forall_mem_nil _, List.forall_mem_nil _, Nat.two_pow_pos 64⟩

end Hinted

open Hinted in
/-- A hint is reason to throw away what is stored, and another writing is not. -/
theorem hint_outdates_stored_results :
    Registry.ofFiles? plain = some (registry "a.toml" []) ∧
    Registry.ofFiles? hinted = some (registry "a.toml" ["x"]) ∧
    Registry.ofFiles? rewritten = some (registry "b.toml" []) ∧
    ((Workspace.ofParts "/p" {} (registry "a.toml" ["x"]) ⟨0⟩).loadCache tree "t").stats =
      { invalidated := 1, fullInvalidation := true } ∧
    ((Workspace.ofParts "/p" {} (registry "b.toml" []) ⟨0⟩).loadCache tree "t").document =
      document := by
  have first := built "a.toml" plain_read
  have second := built "a.toml" hinted_read
  have third := built "b.toml" rewritten_read
  obtain ⟨-, -, outdates, -⟩ := checksum_separates_registries first second
  obtain ⟨-, -, -, keeps⟩ := checksum_separates_registries first third
  have changed : ¬ ((registry "a.toml" []).nodes = (registry "a.toml" ["x"]).nodes ∧
      (registry "a.toml" []).mixins = (registry "a.toml" ["x"]).mixins ∧
      (registry "a.toml" []).intents = (registry "a.toml" ["x"]).intents) := by
    decide
  have alike : Registry.tables plain = Registry.tables rewritten := by
    simp only [Registry.tables, plain, rewritten, List.map_cons, List.map_nil, plain_read,
      rewritten_read]
  have current : ResultCache.isCurrent document (registry "a.toml" []).checksum
      (Config.checksum {}) = true := by
    simp [ResultCache.isCurrent, document]
  refine ⟨first, second, third, ?_, ?_⟩
  · exact (outdates (fun same => absurd same plain_differs) changed "/p" {} ⟨0⟩ tree "t" document
      (stored_document _) rfl).1
  · exact ((keeps alike).2 "/p" {} ⟨0⟩ tree "t" document (stored_document _) current).2.1

end Conformance
