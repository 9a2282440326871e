import Conformance.Proofs.ResultCache.Log
import Conformance.Proofs.Validator.Verdicts
import Conformance.Proofs.Workspace.Dependence
import Conformance.Proofs.Workspace.Isolation
import Mathlib.Algebra.GroupWithZero.Nat
import Mathlib.Data.List.Dedup

/-! Every file asked for is accounted for once: among the results, in the summary, in the counters
of the cache, and in the document that the run writes. -/
namespace Conformance

namespace RunSummary

/-- What a tally adds to the counts it starts from. -/
theorem foldl_add (results : List FileResult) (s : RunSummary) :
    results.foldl add s = {
      files := s.files + results.length
      passed := s.passed + results.countP (·.status = .pass)
      warned := s.warned + results.countP (·.status = .warn)
      failed := s.failed + results.countP (·.status = .fail)
      errors := s.errors + (results.map (·.violations.length)).sum
      warnings := s.warnings + (results.map (·.warnings.length)).sum
      overridden := s.overridden + (results.map (·.overridesCount)).sum
      cached := s.cached + results.countP (·.fromCache) } := by
  induction results generalizing s with
  | nil => rfl
  | cons r rest ih =>
    rw [List.foldl_cons, ih]
    simp only [add, List.countP_cons, List.length_cons, List.map_cons, List.sum_cons,
      decide_eq_true_eq]
    congr 1 <;> omega

theorem tally_eq (results : List FileResult) :
    tally results = {
      files := results.length
      passed := results.countP (·.status = .pass)
      warned := results.countP (·.status = .warn)
      failed := results.countP (·.status = .fail)
      errors := (results.map (·.violations.length)).sum
      warnings := (results.map (·.warnings.length)).sum
      overridden := (results.map (·.overridesCount)).sum
      cached := results.countP (·.fromCache) } := by
  simp [tally, foldl_add]

/-- All counts are numbers of 64 bits. -/
structure Fits (s : RunSummary) : Prop where
  files : s.files < 2 ^ 64
  passed : s.passed < 2 ^ 64
  warned : s.warned < 2 ^ 64
  failed : s.failed < 2 ^ 64
  errors : s.errors < 2 ^ 64
  warnings : s.warnings < 2 ^ 64
  overridden : s.overridden < 2 ^ 64
  cached : s.cached < 2 ^ 64

/-- Add a result in 64 bits; nothing when a count gets too large. -/
def add? (s : RunSummary) (r : FileResult) : Option RunSummary := do
  let files ← Count.add? s.files 1
  let passed ← Count.add? s.passed (if r.status = .pass then 1 else 0)
  let warned ← Count.add? s.warned (if r.status = .warn then 1 else 0)
  let failed ← Count.add? s.failed (if r.status = .fail then 1 else 0)
  let errors ← Count.add? s.errors r.violations.length
  let warnings ← Count.add? s.warnings r.warnings.length
  let overridden ← Count.add? s.overridden r.overridesCount
  let cached ← Count.add? s.cached (if r.fromCache then 1 else 0)
  return { files, passed, warned, failed, errors, warnings, overridden, cached }

def tally? (results : List FileResult) : Option RunSummary := results.foldlM add? {}

theorem add?_eq_some_iff {s t : RunSummary} {r : FileResult} :
    s.add? r = some t ↔ t.Fits ∧ s.add r = t := by
  simp only [add?, Option.bind_eq_bind, Option.bind_eq_some_iff, Count.add?_eq_some_iff,
    Option.pure_def, Option.some.injEq]
  constructor
  · rintro ⟨_, ⟨files, rfl⟩, _, ⟨passed, rfl⟩, _, ⟨warned, rfl⟩, _, ⟨failed, rfl⟩, _,
      ⟨errors, rfl⟩, _, ⟨warnings, rfl⟩, _, ⟨overridden, rfl⟩, _, ⟨cached, rfl⟩, rfl⟩
    exact ⟨⟨files, passed, warned, failed, errors, warnings, overridden, cached⟩, rfl⟩
  · rintro ⟨fits, rfl⟩
    exact ⟨_, ⟨fits.files, rfl⟩, _, ⟨fits.passed, rfl⟩, _, ⟨fits.warned, rfl⟩, _,
      ⟨fits.failed, rfl⟩, _, ⟨fits.errors, rfl⟩, _, ⟨fits.warnings, rfl⟩, _,
      ⟨fits.overridden, rfl⟩, _, ⟨fits.cached, rfl⟩, rfl⟩

/-- Counts only grow. -/
theorem Fits.of_foldl {results : List FileResult} {s : RunSummary}
    (fits : (results.foldl add s).Fits) : s.Fits := by
  rw [foldl_add] at fits
  constructor
  · exact (Nat.le_add_right ..).trans_lt fits.files
  · exact (Nat.le_add_right ..).trans_lt fits.passed
  · exact (Nat.le_add_right ..).trans_lt fits.warned
  · exact (Nat.le_add_right ..).trans_lt fits.failed
  · exact (Nat.le_add_right ..).trans_lt fits.errors
  · exact (Nat.le_add_right ..).trans_lt fits.warnings
  · exact (Nat.le_add_right ..).trans_lt fits.overridden
  · exact (Nat.le_add_right ..).trans_lt fits.cached

theorem foldlM_add?_eq_some_iff {results : List FileResult} {s t : RunSummary} (start : s.Fits) :
    results.foldlM add? s = some t ↔ t.Fits ∧ results.foldl add s = t := by
  induction results generalizing s with
  | nil =>
    rw [List.foldlM_nil, Option.pure_def, Option.some.injEq, List.foldl_nil]
    constructor
    · intro same
      exact ⟨same ▸ start, same⟩
    · exact And.right
  | cons r rest ih =>
    rw [List.foldlM_cons, List.foldl_cons, Option.bind_eq_bind, Option.bind_eq_some_iff]
    constructor
    · intro ⟨next, added, summed⟩
      obtain ⟨fits, rfl⟩ := add?_eq_some_iff.1 added
      exact (ih fits).1 summed
    · intro ⟨fits, same⟩
      have small : (s.add r).Fits := (same.symm ▸ fits : (rest.foldl add (s.add r)).Fits).of_foldl
      exact ⟨s.add r, add?_eq_some_iff.2 ⟨small, rfl⟩, (ih small).2 ⟨fits, same⟩⟩

/-- Added up in 64 bits the counts are the same, unless one of them gets too large. -/
theorem tally?_eq_some_iff {results : List FileResult} {s : RunSummary} :
    tally? results = some s ↔ s.Fits ∧ tally results = s := by
  apply foldlM_add?_eq_some_iff
  constructor <;> decide

private theorem countP_status (results : List FileResult) :
    results.countP (·.status = .pass) + results.countP (·.status = .warn) +
      results.countP (·.status = .fail) = results.length := by
  induction results with
  | nil => rfl
  | cons r rest ih =>
    rw [List.countP_cons, List.countP_cons, List.countP_cons, List.length_cons, ← ih]
    cases r.status <;> simp <;> omega

end RunSummary

namespace Workspace

private theorem storeResults_stats (c : ResultCache) (t : FileTree) (all : Dict Unit)
    (fresh : List (ParsedFile × FileResult)) (now : String) :
    (storeResults c t all fresh now).1 = ((putFresh c fresh now).retain all.contains).stats := by
  rw [← ResultCache.flush_stats (c := (putFresh c fresh now).retain all.contains)]
  unfold storeResults putFresh
  rfl

end Workspace

namespace Run
open Workspace
variable {r : Run}

/-- Whether a stored result stands for a file that can be read. -/
def isHit (r : Run) (path : String) : Bool := (r.text path).isOk && (r.stored? path).isSome

/-- Whether a file can be read, and nothing is stored for it. -/
def isMiss (r : Run) (path : String) : Bool := (r.text path).isOk && (r.stored? path).isNone

private theorem fromCache_result (path : String) : (r.result path).fromCache = r.isHit path := by
  unfold result isHit
  cases r.text path with
  | error e => rfl
  | ok content =>
    cases r.stored? path with
    | none => exact checked_fromCache _ _ _
    | some e => rfl

/-- A cache in which some files were looked up: those asked for are counted, and whenever nothing
is marked for writing, the tree holds its entries. -/
structure Counted (r : Run) (past : List String) (c : ResultCache) : Prop where
  consults : r.Consults (some c)
  sound : c.Sound r.tree
  hits : c.stats.hits = (past.filter r.targets.contains).countP r.isHit
  misses : c.stats.misses = (past.filter r.targets.contains).countP r.isMiss

theorem countP_filter_concat (past : List String) (path : String) (asked counts : String → Bool) :
    ((past ++ [path]).filter asked).countP counts =
      (past.filter asked).countP counts + (asked path && counts path).toNat := by
  rw [List.filter_append, List.countP_append, List.filter_singleton]
  cases asked path <;> cases counted : counts path <;> simp [counted]

theorem Counted.next {past : List String} {c : ResultCache} (counted : r.Counted past c)
    (path : String) :
    ∃ c', (consult (some c) (r.loaded path)).2 = some c' ∧ r.Counted (past ++ [path]) c' := by
  obtain ⟨found, -⟩ := lookupStored_eq counted.consults path
  obtain ⟨-, consults⟩ := consult_eq counted.consults path
  have asked : (r.loaded path).target = r.targets.contains path := rfl
  have step : (consult (some c) (r.loaded path)).2 =
      if (r.text path).isOk then (lookupStored (some c) (r.loaded path)).2 else some c := by
    unfold consult
    have content : (r.loaded path).content = r.text path := rfl
    rw [content]
    cases r.text path with
    | error e => rfl
    | ok content =>
      dsimp only
      split <;> rename_i same <;> rw [same] <;> rfl
  rw [step] at consults ⊢
  cases readable : (r.text path).isOk with
  | false =>
    rw [readable] at consults
    refine ⟨c, rfl, consults, counted.sound, ?_, ?_⟩
    · rw [countP_filter_concat, counted.hits, isHit, readable]
      simp
    · rw [countP_filter_concat, counted.misses, isMiss, readable]
      simp
  | true =>
    rw [readable, if_pos rfl] at consults
    rw [if_pos rfl]
    unfold lookupStored at consults found ⊢
    dsimp only at consults found ⊢
    rw [asked] at consults found ⊢
    cases target : r.targets.contains path with
    | false =>
      rw [target] at consults
      refine ⟨c, rfl, consults, counted.sound, ?_, ?_⟩
      · rw [countP_filter_concat, counted.hits, target]
        rfl
      · rw [countP_filter_concat, counted.misses, target]
        rfl
    | true =>
      rw [target] at consults found
      have stats := c.get?_stats path (r.loaded path).checksum
      have given : (c.get? path (r.loaded path).checksum).1 = r.stored? path := found
      rw [given] at stats
      refine ⟨(c.get? path (r.loaded path).checksum).2, rfl, consults,
        counted.sound.get path (r.loaded path).checksum, ?_, ?_⟩
      · rw [countP_filter_concat, ← counted.hits, target, isHit, readable, stats]
        rfl
      · rw [countP_filter_concat, ← counted.misses, target, isMiss, readable, stats]
        rfl

/-- After all look-ups every file is counted. -/
theorem Counted.all {past : List String} {c : ResultCache} (counted : r.Counted past c)
    (paths : List String) :
    ∃ c', (inTurn consult (paths.map r.loaded) (some c)).2 = some c' ∧
      r.Counted (past ++ paths) c' := by
  induction paths generalizing past c with
  | nil =>
    refine ⟨c, rfl, ?_⟩
    rwa [List.append_nil]
  | cons path rest ih =>
    obtain ⟨c', step, next⟩ := counted.next path
    obtain ⟨c'', steps, all⟩ := ih next
    refine ⟨c'', ?_, by rwa [List.append_assoc] at all⟩
    simp only [List.map_cons, inTurn, step]
    exact steps

private theorem looked?_counted (enabled : r.workspace.config.cache.enabled = true) :
    ∃ c, r.looked? = some c ∧ r.Counted r.paths c := by
  have on : r.cache? = some (r.workspace.loadCache r.tree r.now) := if_pos enabled
  have start : r.Counted [] (r.workspace.loadCache r.tree r.now) := by
    refine ⟨?_, ResultCache.sound_load _ _ _ _ _, ?_, ?_⟩
    · unfold Consults
      rw [on]
      exact ResultCache.Trims.refl _
    · rw [loadCache, ResultCache.load_stats]
      rfl
    · rw [loadCache, ResultCache.load_stats]
      rfl
  rw [looked?, on]
  exact start.all r.paths

/-- Put fresh results into a cache, and keep those of files of the run only. -/
def keep (r : Run) (c : ResultCache) : ResultCache :=
  (putFresh c r.fresh r.now).retain r.files.contains

/-- The cache that the run writes. -/
def kept? (r : Run) : Option ResultCache := r.looked?.map r.keep

theorem keep_stats (c : ResultCache) : (r.keep c).stats = c.stats := by
  rw [keep, ResultCache.retain_stats, (putFresh_stats c r.fresh r.now).1]

private theorem keep_path (c : ResultCache) : (r.keep c).path = c.path := by
  rw [keep, ResultCache.retain_path, (putFresh_stats c r.fresh r.now).2]

theorem Counted.settled {past : List String} {c : ResultCache} (counted : r.Counted past c)
    (clean : (r.keep c).dirty = false) : (r.keep c).Persisted r.tree := by
  have change := putFresh_cases c r.fresh r.now
  unfold keep at clean ⊢
  generalize putFresh c r.fresh r.now = changed at clean change ⊢
  exact counted.sound.retain_settled change r.files.contains clean

theorem mem_paths {discovered : List String} (found : r.workspace.discover r.tree = .ok discovered)
    {path : String} : path ∈ r.paths ↔ path ∈ discovered ∨ path ∈ r.targets := by
  rw [paths, found, runPaths, mem_sortedDistinct]
  exact List.mem_append

private theorem mem_keep {discovered : List String}
    (found : r.workspace.discover r.tree = .ok discovered)
    {c : ResultCache} {path : String} (member : path ∈ (r.keep c).document.files.keys) :
    path ∈ discovered ∨ path ∈ r.targets := by
  rw [Dict.mem_keys, keep, ResultCache.retain_files] at member
  split at member
  · rename_i listed
    exact (mem_paths found).1 (contains_files.1 listed)
  · cases member

theorem written {discovered : List String} (found : r.workspace.discover r.tree = .ok discovered)
    {c : ResultCache} (kept : r.kept? = some c) {report : RunReport} (done : r.outcome = .ok report) :
    report.cache = some c.stats ∧ r.treeAfter = (c.flush r.tree r.now).2.2 := by
  obtain ⟨session, outcome, tree⟩ := validatePaths_parts found
  obtain ⟨looked, at?, rfl⟩ := Option.map_eq_some_iff.1 kept
  have reported := Except.ok.inj (done.symm.trans outcome)
  rw [at?] at tree reported
  constructor
  · rw [reported, keep, Option.map_some, storeResults_stats]
  · rw [tree, keep]
    exact storeResults_tree looked r.tree r.files r.fresh r.now

-- From here on only these facts about the cache are wanted. Left open, it would be computed file by
-- file wherever two caches are compared.
attribute [irreducible] keep

private theorem countP_readable (paths : List String) :
    paths.countP r.isHit + paths.countP r.isMiss = paths.countP fun path => (r.text path).isOk := by
  induction paths with
  | nil => rfl
  | cons path rest ih =>
    rw [List.countP_cons, List.countP_cons, List.countP_cons, ← ih, isHit, isMiss]
    cases (r.text path).isOk <;> cases r.stored? path <;> simp <;> omega

theorem sortedDistinct_perm (paths : List String) :
    (sortedDistinct paths).Perm paths.dedup := by
  refine (List.perm_ext_iff_of_nodup (nodup_sortedDistinct paths) paths.nodup_dedup).2 ?_
  intro path
  rw [mem_sortedDistinct, List.mem_dedup]

/-- What the cache of a run has counted, and what it holds when it is written. -/
theorem kept?_counted (enabled : r.workspace.config.cache.enabled = true) :
    ∃ c, r.kept? = some (r.keep c) ∧ (r.keep c).path = r.workspace.cachePath ∧
      (r.keep c).stats.hits = r.targets.dedup.countP r.isHit ∧
      (r.keep c).stats.hits + (r.keep c).stats.misses =
        (r.targets.dedup.countP fun path => (r.text path).isOk) ∧
      ((r.keep c).dirty = false → (r.keep c).Persisted r.tree) := by
  obtain ⟨c, looked, counted⟩ := looked?_counted enabled
  have hits := counted.hits
  have misses := counted.misses
  rw [targets_of_paths, (sortedDistinct_perm r.targets).countP_eq] at hits misses
  have origin := counted.consults
  unfold Consults at origin
  rw [cache?, if_pos enabled] at origin
  refine ⟨c, ?_, ?_, ?_, ?_, counted.settled⟩
  · rw [kept?, looked, Option.map_some]
  · rw [keep_path]
    exact origin.path.trans ResultCache.load_path
  · rw [keep_stats, hits]
  · rw [keep_stats, hits, misses, countP_readable]

/-- Every file asked for has one result, in path order. The summary, in 64 bits if its counts fit, the
counters of the cache and the files that are stored when it is written agree with that. -/
theorem one_result_for_each_target {report : RunReport} (done : r.outcome = .ok report) :
    (report.results.map (·.path)).Pairwise (· < ·) ∧
      (∀ path, path ∈ report.results.map (·.path) ↔ path ∈ r.targets) ∧
      (report.summary.files = report.results.length ∧
        report.summary.passed + report.summary.warned + report.summary.failed =
          report.results.length ∧
        report.summary.errors = (report.results.map (·.violations.length)).sum ∧
        report.summary.warnings = (report.results.map (·.warnings.length)).sum ∧
        report.summary.overridden = (report.results.map (·.overridesCount)).sum ∧
        ∀ s, RunSummary.tally? report.results = some s ↔ s.Fits ∧ report.summary = s) ∧
      (r.workspace.config.cache.enabled = true →
        ∃ stats discovered c, report.cache = some stats ∧
          stats.hits + stats.misses = (r.targets.dedup.countP fun path => (r.text path).isOk) ∧
          report.summary.cached = stats.hits ∧
          r.workspace.discover r.tree = .ok discovered ∧
          r.kept? = some c ∧ r.treeAfter = (c.flush r.tree r.now).2.2 ∧
          ((c.flush r.tree r.now).1 = .ok () → ∀ d,
            ResultCache.stored r.treeAfter r.workspace.cachePath = .readable d →
            d.files = c.document.files ∧
              ∀ path ∈ d.files.keys, path ∈ discovered ∨ path ∈ r.targets)) := by
  obtain ⟨discovered, found⟩ : ∃ discovered, r.workspace.discover r.tree = .ok discovered := by
    cases found : r.workspace.discover r.tree with
    | ok discovered => exact ⟨discovered, rfl⟩
    | error e =>
      rw [outcome_of_undiscovered found] at done
      cases done
  obtain ⟨session, outcome, -⟩ := validatePaths_parts found
  have reported : report.results = (sortedDistinct r.targets).map r.result ∧
      report.summary = .tally report.results := by
    cases outcome.symm.trans done
    exact ⟨results_eq, rfl⟩
  obtain ⟨results, summary⟩ := reported
  have sums : ∀ s, RunSummary.tally? report.results = some s ↔ s.Fits ∧ report.summary = s := by
    intro s
    rw [summary]
    exact RunSummary.tally?_eq_some_iff
  rw [RunSummary.tally_eq] at summary
  have paths : report.results.map (·.path) = sortedDistinct r.targets := by
    rw [results, List.map_map]
    exact (List.map_congr_left fun path _ => path_result path).trans (List.map_id _)
  refine ⟨?_, ?_, ⟨?_, ?_, ?_, ?_, ?_, ?_⟩, ?_⟩
  · rw [paths]
    exact sortedDistinct_increasing r.targets
  · intro path
    rw [paths, mem_sortedDistinct]
  · rw [summary]
  · rw [summary]
    exact RunSummary.countP_status report.results
  · rw [summary]
  · rw [summary]
  · rw [summary]
  · exact sums
  · intro enabled
    obtain ⟨c, kept, path, hits, total, settled⟩ := kept?_counted enabled
    obtain ⟨stats, tree⟩ := written found kept done
    refine ⟨(r.keep c).stats, discovered, r.keep c, stats, total, ?_, found, kept, tree, ?_⟩
    · have marked : (fun f : FileResult => f.fromCache) ∘ r.result = r.isHit :=
        funext fromCache_result
      have cached := congrArg RunSummary.cached summary
      dsimp only at cached
      rw [cached, hits, results, List.countP_map, marked, (sortedDistinct_perm r.targets).countP_eq]
    · intro flushed d stands
      rw [tree, ← path] at stands
      have same := ResultCache.files_of_flush settled flushed stands
      refine ⟨same, ?_⟩
      intro file member
      rw [same] at member
      exact mem_keep found member

end Run

namespace Neighbours

/-- A run that stores results, asked for one file that can be read and twice for one that cannot. -/
def asked : Run where
  workspace := (run broken).workspace.withCache true
  tree := tree broken
  targets := ["b.ts", "a.ts", "b.ts"]
  now := "t"

private theorem asked_discovers : asked.workspace.discover asked.tree = .ok ["a.ts", "b.ts"] :=
  discovers (.inr rfl)

end Neighbours

open Neighbours in
theorem file_asked_for_twice_is_reported_once :
    ∃ report, asked.outcome = .ok report ∧ "b.ts" ∈ report.results.map (·.path) ∧
      (report.results.map (·.path)).Nodup ∧ report.summary.files = report.results.length ∧
      ∃ stats, report.cache = some stats ∧ stats.hits + stats.misses = 1 := by
  obtain ⟨report, done, -⟩ := Run.reports (r := asked) asked_discovers List.mem_cons_self
  obtain ⟨sorted, targets, ⟨files, -⟩, cached⟩ := Run.one_result_for_each_target done
  obtain ⟨stats, _, _, counted, total, -⟩ := cached rfl
  refine ⟨report, done, (targets "b.ts").2 List.mem_cons_self, ?_, files, stats, counted, ?_⟩
  · exact sorted.imp fun less same => absurd (same ▸ less) (String.lt_irrefl _)
  · rw [total]
    decide +kernel

end Conformance
