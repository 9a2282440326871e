import Conformance.Proofs.Workspace.Project

/-! What a run leaves behind: no texts but those that were there and one document, whose entries
were there before or are fresh results of the run. -/
namespace Conformance

namespace Workspace

/-- Put fresh results into a cache, those that may be stored. -/
def putFresh (c : ResultCache) (fresh : List (ParsedFile × FileResult)) (now : String) :
    ResultCache :=
  fresh.foldl (fun c (f, r) =>
    if isCacheable r then c.put f.path (.ofResult r f.checksum now) else c) c

theorem storeResults_tree (c : ResultCache) (t : FileTree) (all : Dict Unit)
    (fresh : List (ParsedFile × FileResult)) (now : String) :
    (storeResults c t all fresh now).2 =
      (((putFresh c fresh now).retain all.contains).flush t now).2.2 := by
  unfold storeResults putFresh
  rfl

/-- Putting results leaves the head of the document alone. -/
private theorem putFresh_head (c : ResultCache) (fresh : List (ParsedFile × FileResult))
    (now : String) :
    (putFresh c fresh now).document.version = c.document.version ∧
    (putFresh c fresh now).document.registryChecksum = c.document.registryChecksum ∧
    (putFresh c fresh now).document.configChecksum = c.document.configChecksum := by
  unfold putFresh
  induction fresh generalizing c with
  | nil => exact ⟨rfl, rfl, rfl⟩
  | cons entry rest ih =>
    obtain ⟨f, r⟩ := entry
    rw [List.foldl_cons]
    dsimp only
    split
    · exact ih (c.put _ _)
    · exact ih c

theorem putFresh_stats (c : ResultCache) (fresh : List (ParsedFile × FileResult)) (now : String) :
    (putFresh c fresh now).stats = c.stats ∧ (putFresh c fresh now).path = c.path := by
  unfold putFresh
  induction fresh generalizing c with
  | nil => exact ⟨rfl, rfl⟩
  | cons entry rest ih =>
    rw [List.foldl_cons]
    dsimp only
    split
    · exact ih (c.put _ _)
    · exact ih c

private theorem putFresh_dirty {c : ResultCache} (dirty : c.dirty = true)
    (fresh : List (ParsedFile × FileResult)) (now : String) :
    (putFresh c fresh now).dirty = true := by
  unfold putFresh
  induction fresh generalizing c with
  | nil => exact dirty
  | cons entry rest ih =>
    rw [List.foldl_cons]
    dsimp only
    split
    · exact ih rfl
    · exact ih dirty

/-- Either a result was put, or the cache is as it was. -/
theorem putFresh_cases (c : ResultCache) (fresh : List (ParsedFile × FileResult)) (now : String) :
    (putFresh c fresh now).dirty = true ∨ putFresh c fresh now = c := by
  induction fresh with
  | nil => exact .inr rfl
  | cons entry rest ih =>
    by_cases cacheable : isCacheable entry.2 = true
    · have put : putFresh c (entry :: rest) now =
          putFresh (c.put entry.1.path (.ofResult entry.2 entry.1.checksum now)) rest now :=
        congrArg (putFresh · rest now) (if_pos cacheable)
      rw [put]
      exact .inl (putFresh_dirty rfl rest now)
    · have skipped : putFresh c (entry :: rest) now = putFresh c rest now :=
        congrArg (putFresh · rest now) (if_neg cacheable)
      rw [skipped]
      exact ih

/-- An entry after putting results was there before, or is one of the results. -/
private theorem putFresh_files {c : ResultCache} {fresh : List (ParsedFile × FileResult)}
    {now file : String}
    {e : CachedResult} (found : (putFresh c fresh now).document.files.find? file = some e) :
    c.document.files.find? file = some e ∨
      ∃ entry ∈ fresh, entry.1.path = file ∧ isCacheable entry.2 = true ∧
        e = .ofResult entry.2 entry.1.checksum now := by
  unfold putFresh at found
  induction fresh generalizing c with
  | nil => exact .inl found
  | cons entry rest ih =>
    obtain ⟨f, r⟩ := entry
    rw [List.foldl_cons] at found
    rcases ih found with old | ⟨later, inside, facts⟩
    · dsimp only at old
      split at old
      · rename_i cacheable
        have put : (c.document.files.insert f.path (.ofResult r f.checksum now)).find? file =
          some e := old
        rw [Dict.find?_insert] at put
        split at put
        · rename_i same
          cases put
          exact .inr ⟨(f, r), List.mem_cons_self, same, cacheable, rfl⟩
        · exact .inl put
      · exact .inl old
    · exact .inr ⟨later, List.mem_cons_of_mem _ inside, facts⟩

/-- Storing results brings in one document: that of the cache it starts from, with results put
and others dropped. -/
private theorem storeResults_holds {c : ResultCache} {t : FileTree} {all : Dict Unit}
    {fresh : List (ParsedFile × FileResult)} {now text : String}
    (holds : (storeResults c t all fresh now).2.Holds text) :
    t.Holds text ∨ ∃ d : CacheDocument, text = Json.writeIndented d.toDocument ∧
      d.registryChecksum = c.document.registryChecksum ∧
      d.configChecksum = c.document.configChecksum ∧
      ∀ file e, d.files.find? file = some e → c.document.files.find? file = some e ∨
        ∃ entry ∈ fresh, entry.1.path = file ∧ isCacheable entry.2 = true ∧
          e = .ofResult entry.2 entry.1.checksum now := by
  rw [storeResults_tree] at holds
  obtain ⟨-, registry, config⟩ := putFresh_head c fresh now
  rcases ResultCache.flush_holds holds with old | written
  · exact .inl old
  · refine .inr ⟨{ ((putFresh c fresh now).retain all.contains).document with updatedAt := now },
      written, registry, config, fun file e kept => ?_⟩
    have retained : ((putFresh c fresh now).document.files.filter
        fun file _ => all.contains file).find? file = some e := kept
    rw [Dict.find?_filter] at retained
    exact putFresh_files (Option.eq_some_of_filter_eq_some retained)

theorem loadCache_current (w : Workspace) (t : FileTree) (now : String) :
    (w.loadCache t now).document.version = cacheVersion ∧
    (w.loadCache t now).document.registryChecksum = w.registryChecksum ∧
    (w.loadCache t now).document.configChecksum = w.configChecksum :=
  ResultCache.load_current

end Workspace

namespace Run
open Workspace
variable {r : Run}

/-- A fresh result of the run that was stored for a file. -/
structure Stores (r : Run) (file : String) (e : CachedResult) : Prop where
  found : ∃ discovered, r.workspace.discover r.tree = .ok discovered
  target : file ∈ r.targets
  readable : ∃ content, r.text file = .ok content
  missed : r.stored? file = none
  cacheable : isCacheable (r.result file) = true
  entry : e = .ofResult (r.result file) (r.loaded file).checksum r.now

private theorem stores_of_wanted {discovered : List String}
    (found : r.workspace.discover r.tree = .ok discovered) {f : ParsedFile} (member : f ∈ r.wanted)
    (cacheable : isCacheable (checked r.workspace r.project f) = true) :
    r.Stores f.path (.ofResult (checked r.workspace r.project f) f.checksum r.now) := by
  obtain ⟨inside, target⟩ := List.mem_filter.1 member
  obtain ⟨path, -, missed⟩ := List.mem_filterMap.1 inside
  unfold missed? at missed
  split at missed
  · rename_i content readable none
    cases missed
    have result := result_of_missed readable none
    have asked : r.targets.contains path = true := target
    refine ⟨⟨discovered, found⟩, List.contains_iff_mem.1 asked, ⟨content, readable⟩, none, ?_, ?_⟩
    · rwa [show (r.parsed path content).path = path from rfl, result]
    · rw [show (r.parsed path content).path = path from rfl, result]
      rfl
  · cases missed

/-- Texts that stand in the tree after a run stood there before, or are the document that the
run wrote: for its registry and configuration, with entries that it found or made. -/
theorem treeAfter_holds {text : String} (holds : r.treeAfter.Holds text) :
    r.tree.Holds text ∨ ∃ c : CacheDocument, text = Json.writeIndented c.toDocument ∧
      c.registryChecksum = r.workspace.registryChecksum ∧
      c.configChecksum = r.workspace.configChecksum ∧
      ∀ file e, c.files.find? file = some e → r.Stores file e ∨
        (r.workspace.loadCache r.tree r.now).document.files.find? file = some e := by
  cases found : r.workspace.discover r.tree with
  | error e =>
    have same : r.treeAfter = r.tree := by
      unfold treeAfter validatePaths
      rw [found]
    rw [same] at holds
    exact .inl holds
  | ok discovered =>
    obtain ⟨after, session, stats, consults, -, tree⟩ := validatePaths_eq found
    rw [tree] at holds
    unfold Consults at consults
    split at consults
    · exact .inl holds
    · rename_i before after' on
      have loaded : before = r.workspace.loadCache r.tree r.now := by
        unfold cache? at on
        split at on
        · exact (Option.some.inj on).symm
        · cases on
      subst loaded
      obtain ⟨-, registry, config⟩ := loadCache_current r.workspace r.tree r.now
      rcases storeResults_holds holds with old | ⟨d, written, ours, our, kept⟩
      · exact .inl old
      · refine .inr ⟨d, written, ?_, ?_, ?_⟩
        · rw [ours, consults.registry, registry]
        · rw [our, consults.config, config]
        · intro file e present
          rcases kept file e present with old | ⟨entry, fresh, rfl, cacheable, rfl⟩
          · exact .inr (consults.files file e old)
          · obtain ⟨f, member, rfl⟩ := List.mem_map.1 fresh
            exact .inl (stores_of_wanted found member cacheable)
    · cases consults

theorem stored?_of_missing (missing : r.tree.readText r.workspace.cachePath = .error .missing)
    (path : String) : r.stored? path = none := by
  refine Option.eq_none_iff_forall_ne_some.2 fun e hit => ?_
  unfold stored? cache? at hit
  split at hit
  · have found := (ResultCache.peek?_eq_some.1 hit).1
    rw [loadCache, ResultCache.load_of_missing missing] at found
    cases found
  · cases hit

/-- Of one file that is asked for and not stored, one file is checked. -/
private theorem wanted_of_one {file content : String} (asked : r.targets = [file])
    (readable : r.text file = .ok content) (missed : r.stored? file = none) :
    r.wanted = [r.parsed file content] := by
  have chosen (path : String) : (r.missed? path).filter (·.target) =
      if r.targets.contains path then r.missed? path else none := by
    unfold missed?
    split
    · exact Option.filter_some
    · split <;> rfl
  unfold wanted
  rw [List.filter_filterMap]
  simp only [chosen]
  rw [← List.filterMap_filter, targets_of_paths, asked]
  change [file].filterMap r.missed? = _
  rw [List.filterMap_cons, missed?_of_missed readable missed]
  rfl

/-- A run that finds nothing stored and checks one file leaves a document with its result
alone. -/
theorem treeAfter_of_one {discovered : List String}
    (found : r.workspace.discover r.tree = .ok discovered)
    (on : r.workspace.config.cache.enabled = true)
    (missing : r.tree.readText r.workspace.cachePath = .error .missing) {file content : String}
    (asked : r.targets = [file]) (readable : r.text file = .ok content)
    (cacheable : isCacheable (r.result file) = true) :
    ∃ c : CacheDocument,
      r.treeAfter =
        (ResultCache.store r.tree r.workspace.cachePath (Json.writeIndented c.toDocument)).2 ∧
      c.version = cacheVersion ∧ c.registryChecksum = r.workspace.registryChecksum ∧
      c.configChecksum = r.workspace.configChecksum ∧
      ∀ path, c.files.find? path = if file = path then
        some (.ofResult (r.result file) (r.loaded file).checksum r.now) else none := by
  have missed := stored?_of_missing missing file
  obtain ⟨c, _, _, consults, -, tree⟩ := validatePaths_eq found
  unfold Consults at consults
  rw [cache?, on, if_pos rfl] at consults
  cases c with
  | none => cases consults
  | some c =>
    have empty (path : String) : c.document.files.find? path = none := by
      refine Option.eq_none_iff_forall_ne_some.2 fun e at? => ?_
      have old := consults.files path e at?
      rw [loadCache, ResultCache.load_of_missing missing] at old
      cases old
    obtain ⟨version, registry, config⟩ := loadCache_current r.workspace r.tree r.now
    have put : putFresh c [(r.parsed file content, r.result file)] r.now =
        c.put file (.ofResult (r.result file) (r.loaded file).checksum r.now) :=
      if_pos cacheable
    dsimp only at tree
    rw [storeResults_tree, wanted_of_one asked readable missed, List.map_singleton,
      ← result_of_missed readable missed, put] at tree
    generalize CachedResult.ofResult (r.result file) (r.loaded file).checksum r.now = e at tree
    have path : ((c.put file e).retain r.files.contains).path = r.workspace.cachePath :=
      consults.path.trans ResultCache.load_path
    have dirty : ((c.put file e).retain r.files.contains).dirty = true := rfl
    rw [ResultCache.flush_tree dirty, path] at tree
    refine ⟨_, tree, consults.version.trans version, consults.registry.trans registry,
      consults.config.trans config, fun path => ?_⟩
    change ((c.document.files.insert file e).filter
      fun path _ => r.files.contains path).find? path = _
    rw [Dict.find?_filter, Dict.find?_insert, empty]
    split
    · rename_i same
      have listed : file ∈ r.paths := by
        rw [paths, runPaths, mem_sortedDistinct, asked]
        exact List.mem_append_right _ List.mem_cons_self
      rw [← same, Option.filter_some, contains_files.2 listed, if_pos rfl]
    · rfl

end Run

end Conformance
