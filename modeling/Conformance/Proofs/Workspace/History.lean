import Conformance.Proofs.Canonical
import Conformance.Proofs.Document.Storable
import Conformance.Proofs.Workspace.Check
import Conformance.Proofs.Workspace.Stored

/-! Runs with stored results, one after the other, with any edits of the tree, the registry and the
configuration in between and on any days. Every stored result that a run comes upon was made by
an earlier run, by the same rules and from the same bytes. -/
namespace Conformance

/-- One run of a history: the project at a root, opened with stored results, and what the run is
asked for. -/
structure Visit (root : String) (source : ModelSource) where
  config : Config
  registry : Registry
  named : registry.WellNamed
  today : Date
  tree : FileTree
  targets : List String
  now : String

namespace Visit
variable {root : String} {source : ModelSource}

def workspace (v : Visit root source) : Workspace :=
  { Workspace.ofParts root v.config v.registry v.today with modelSource := source }.withCache true

def run (v : Visit root source) : Run where
  workspace := v.workspace
  tree := v.tree
  targets := v.targets
  now := v.now

theorem cache?_eq (v : Visit root source) :
    v.run.cache? = some (v.workspace.loadCache v.tree v.now) := if_pos rfl

/-- What stands in the document for this registry and configuration is what is stored. -/
private theorem stored?_of_document {v : Visit root source} {c : CacheDocument} {text : String}
    (read : v.tree.readText v.workspace.cachePath = .ok text)
    (decoded : CacheDocument.read? text = some c) (version : c.version = cacheVersion)
    (registry : c.registryChecksum = v.workspace.registryChecksum)
    (config : c.configChecksum = v.workspace.configChecksum) (path : String) :
    v.run.stored? path =
      (c.files.find? path).filter fun e => e.checksum = (v.run.loaded path).checksum := by
  have current : ResultCache.isCurrent c v.workspace.registryChecksum
      v.workspace.configChecksum = true := by
    simp [ResultCache.isCurrent, version, registry, config]
  rw [Run.stored?, cache?_eq, Option.bind_some, Workspace.loadCache,
    ResultCache.load_of_read read decoded current]
  rfl

/-- A document with one entry answers for its file with that entry, as long as the entry fits. -/
theorem stored?_of_one {v : Visit root source} {c : CacheDocument} {path : String}
    {e : CachedResult}
    (read : v.tree.readText v.workspace.cachePath = .ok (Json.writeIndented c.toDocument))
    (version : c.version = cacheVersion)
    (registry : c.registryChecksum = v.workspace.registryChecksum)
    (config : c.configChecksum = v.workspace.configChecksum)
    (files : ∀ file, c.files.find? file = if path = file then some e else none)
    (storable : e.Storable) (fits : e.checksum = (v.run.loaded path).checksum) :
    v.run.stored? path = some e := by
  have decoded : CacheDocument.read? (Json.writeIndented c.toDocument) = some c := by
    refine CacheDocument.read?_of_storable (by rw [version]; decide) fun file stored found => ?_
    rw [files] at found
    split at found
    · cases found
      exact storable
    · cases found
  rw [stored?_of_document read decoded version registry config, files, if_pos rfl,
    Option.filter_some, if_pos (decide_eq_true fits)]

/-- The bytes that a file is looked up by. -/
def input? (v : Visit root source) (path : String) : Option ByteArray :=
  (v.run.text path).toOption.map fun content => inputBytes content (v.run.sidecar? path)

/-- Two visits with the same definitions and the same configuration. -/
structure SameRules (v w : Visit root source) : Prop where
  registry : v.registry.SameDefinitions w.registry
  config : v.config = w.config

/-- Two visits that look a file up by the same rules and the same bytes. -/
structure SameKey (v w : Visit root source) (path : String) : Prop extends SameRules v w where
  input : v.input? path = w.input? path

end Visit

/-- The visits so far and the tree they left. An edit may change anything, but brings in no document
of stored results that was not there. -/
inductive History (root : String) (source : ModelSource) :
    List (Visit root source) → FileTree → Prop where
  | start {tree : FileTree} (bare : ∀ text, tree.Holds text → CacheDocument.read? text = none) :
    History root source [] tree
  | edit {visits : List (Visit root source)} {tree edited : FileTree}
    (before : History root source visits tree)
    (honest : ∀ text, edited.Holds text → (CacheDocument.read? text).isSome → tree.Holds text) :
    History root source visits edited
  | visit {visits : List (Visit root source)} (v : Visit root source)
    (before : History root source visits v.tree) :
    History root source (visits ++ [v]) v.run.treeAfter

/-- No two of the texts that some visits take a digest of share it. -/
structure CollisionFree {root : String} {source : ModelSource}
    (visits : List (Visit root source)) : Prop where
  registry : ∀ v ∈ visits, ∀ w ∈ visits, v.registry.checksum = w.registry.checksum →
    v.registry.canonicalText = w.registry.canonicalText
  config : ∀ v ∈ visits, ∀ w ∈ visits, v.config.checksum = w.config.checksum →
    Json.write v.config.toDocument = Json.write w.config.toDocument
  input : ∀ v ∈ visits, ∀ w ∈ visits, ∀ path ∈ v.run.paths, path ∈ w.run.paths →
    ∀ a b, v.input? path = some a → w.input? path = some b → Sha256.digest a = Sha256.digest b →
      a = b

namespace History
variable {root : String} {source : ModelSource} {visits : List (Visit root source)}
  {tree : FileTree}

/-- A stored entry that a visit made, in a document for its registry and configuration. -/
def Made (visits : List (Visit root source)) (registry config file : String) (e : CachedResult) :
    Prop :=
  ∃ v ∈ visits, v.registry.checksum = registry ∧ v.config.checksum = config ∧ v.run.Stores file e

theorem Made.mono {visits more : List (Visit root source)} {registry config file : String}
    {e : CachedResult} (made : Made visits registry config file e) (kept : visits ⊆ more) :
    Made more registry config file e := by
  obtain ⟨v, member, facts⟩ := made
  exact ⟨v, kept member, facts⟩

/-- Every document in the tree consists of entries that earlier visits made. -/
def Sound (visits : List (Visit root source)) (tree : FileTree) : Prop :=
  ∀ text c, tree.Holds text → CacheDocument.read? text = some c →
    ∀ file e, c.files.find? file = some e →
      Made visits c.registryChecksum c.configChecksum file e

theorem made_of_loaded (v : Visit root source) (sound : Sound visits v.tree) {file : String}
    {e : CachedResult}
    (found : (v.workspace.loadCache v.tree v.now).document.files.find? file = some e) :
    Made visits v.registry.checksum v.config.checksum file e := by
  obtain ⟨text, held, read⟩ := ResultCache.load_files found
  obtain ⟨-, registry, config⟩ := Workspace.loadCache_current v.workspace v.tree v.now
  have made := sound text _ held read file e found
  rw [Workspace.loadCache] at registry config
  rw [registry, config] at made
  exact made

/-- A visit keeps the documents sound. -/
theorem sound_visit (v : Visit root source) (sound : Sound visits v.tree) :
    Sound (visits ++ [v]) v.run.treeAfter := by
  intro text c held read file e found
  rcases Run.treeAfter_holds held with old | ⟨d, rfl, registry, config, entries⟩
  · exact (sound text c old read file e found).mono (List.subset_append_left _ _)
  · obtain rfl := CacheDocument.eq_of_read? read
    rw [registry, config]
    rcases entries file e found with stores | loaded
    · exact ⟨v, List.mem_append_right _ List.mem_cons_self, rfl, rfl, stores⟩
    · exact (made_of_loaded v sound loaded).mono (List.subset_append_left _ _)

theorem sound (history : History root source visits tree) : Sound visits tree := by
  induction history with
  | start bare =>
    intro text c held read
    rw [bare text held] at read
    cases read
  | edit before honest ih =>
    intro text c held read
    exact ih text c (honest text held (by rw [read]; rfl)) read
  | visit v before ih => exact sound_visit v ih

theorem made_of_stored (v : Visit root source) (sound : Sound visits v.tree) {file : String}
    {e : CachedResult} (hit : v.run.stored? file = some e) :
    Made visits v.registry.checksum v.config.checksum file e ∧
      e.checksum = (v.run.loaded file).checksum := by
  rw [Run.stored?, v.cache?_eq, Option.bind_some] at hit
  obtain ⟨found, same⟩ := ResultCache.peek?_eq_some.1 hit
  exact ⟨made_of_loaded v sound found, same⟩

/-- What the visits of a history come upon was made by visits of it. -/
theorem made_of_visit (history : History root source visits tree) {v : Visit root source}
    (member : v ∈ visits) {file : String} {e : CachedResult}
    (hit : v.run.stored? file = some e) :
    Made visits v.registry.checksum v.config.checksum file e ∧
      e.checksum = (v.run.loaded file).checksum := by
  induction history with
  | start bare => cases member
  | edit before honest ih => exact ih member
  | visit w before ih =>
    rcases List.mem_append.1 member with old | new
    · obtain ⟨made, same⟩ := ih old
      exact ⟨made.mono (List.subset_append_left _ _), same⟩
    · cases List.mem_singleton.1 new
      obtain ⟨made, same⟩ := made_of_stored v before.sound hit
      exact ⟨made.mono (List.subset_append_left _ _), same⟩

end History

namespace Visit
variable {root : String} {source : ModelSource} {visits : List (Visit root source)}
  {v w : Visit root source} {path : String}

theorem mem_paths (asked : path ∈ v.targets) : path ∈ v.run.paths := by
  rw [Run.paths, Workspace.runPaths, mem_sortedDistinct]
  exact List.mem_append_right _ asked

theorem input?_of_text {content : String} (readable : v.run.text path = .ok content) :
    v.input? path = some (inputBytes content (v.run.sidecar? path)) := by
  rw [input?, readable]
  rfl

theorem checksum_of_text {content : String} (readable : v.run.text path = .ok content) :
    (v.run.loaded path).checksum =
      Sha256.digest (inputBytes content (v.run.sidecar? path)) := by
  rw [Run.loaded, readable]
  rfl

/-- Without collisions, equal checksums are equal rules and equal bytes. -/
theorem sameKey (free : CollisionFree visits) (memberV : v ∈ visits) (memberW : w ∈ visits)
    (registry : v.registry.checksum = w.registry.checksum)
    (config : v.config.checksum = w.config.checksum) (askedV : path ∈ v.run.paths)
    (askedW : path ∈ w.run.paths) {content other : String}
    (readableV : v.run.text path = .ok content) (readableW : w.run.text path = .ok other)
    (input : (v.run.loaded path).checksum = (w.run.loaded path).checksum) :
    v.SameKey w path where
  registry := by
    obtain ⟨nodes, mixins, intents⟩ := Registry.eq_of_canonicalText v.named w.named
      (free.registry v memberV w memberW registry)
    exact ⟨nodes, mixins, intents⟩
  config := by
    have texts := free.config v memberV w memberW config
    exact Config.canonical.injective _ _ (Json.write_injective (Config.canonical.readable _)
      (Config.canonical.readable _) texts)
  input := by
    rw [checksum_of_text readableV, checksum_of_text readableW] at input
    rw [input?_of_text readableV, input?_of_text readableW]
    exact congrArg some (free.input v memberV w memberW path askedV askedW _ _
      (input?_of_text readableV) (input?_of_text readableW) input)

end Visit

namespace History
variable {root : String} {source : ModelSource} {earlier : List (Visit root source)}
  {last : Visit root source}

/-- A stored result that a run comes upon, be it the last or one before, was made earlier under
the same key. -/
theorem origin (history : History root source earlier last.tree)
    (free : CollisionFree (last :: earlier)) {v : Visit root source}
    (member : v ∈ last :: earlier) {path content : String} (asked : path ∈ v.run.paths)
    (readable : v.run.text path = .ok content) {e : CachedResult}
    (hit : v.run.stored? path = some e) :
    ∃ w ∈ earlier, w.SameKey v path ∧ w.run.Stores path e := by
  have made : Made earlier v.registry.checksum v.config.checksum path e ∧
      e.checksum = (v.run.loaded path).checksum := by
    rcases List.mem_cons.1 member with rfl | before
    · exact made_of_stored v history.sound hit
    · exact made_of_visit history before hit
  obtain ⟨⟨w, inside, registry, config, stores⟩, same⟩ := made
  obtain ⟨text, read⟩ := stores.readable
  have checksum : (w.run.loaded path).checksum = (v.run.loaded path).checksum := by
    rw [← same, stores.entry]
    rfl
  exact ⟨w, inside, Visit.sameKey free (List.mem_cons_of_mem _ inside) member registry config
    (Visit.mem_paths stores.target) asked read readable checksum, stores⟩

end History

end Conformance
