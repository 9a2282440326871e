import Conformance.Proofs.FileTree
import Conformance.Proofs.Glob
import Conformance.Proofs.Project.Path
import Conformance.Schedule

/-! Which files a project has. They are found on a walk down from the root that does not enter the folders
that an exclude pattern names by their path and a slash, while a file by itself is judged by its own path
alone. The two differ only for patterns that can stop at that slash. -/
namespace Conformance.Discovery

variable {t : FileTree} {root path : String} {c : FilesConfig} {folder : List String}

/-- The folders that a walk comes to, by the names on the way from the root. -/
inductive Entered (c : FilesConfig) : List String → Prop where
  | root : Entered c []
  | step {folder : List String} {name : String} (outer : Entered c folder)
    (kept : isPruned c (folder ++ [name]) = false) : Entered c (folder ++ [name])

/-- A file below the root that belongs to the project by itself: its path is included, and no folder of
version control holds it. -/
structure Belongs (t : FileTree) (root : String) (c : FilesConfig) (path : String) : Prop where
  isFile : ∃ bytes, (path, .file bytes) ∈ t.below root
  included : c.isIncluded (projectPath path) = true
  unversioned : ".git" ∉ Path.directory path

/-- An exclude pattern names a folder that holds the path. -/
def IsCutOff (c : FilesConfig) (path : String) : Prop :=
  ∃ folder, folder ≠ [] ∧ folder <+: Path.directory path ∧
    c.isExcluded (projectPath (Text.join "/" folder) ++ "/") = true

section Walking

/-- A walk comes to a folder if it prunes none on the way. -/
theorem entered_iff : Entered c folder ↔
    ∀ outer, outer ≠ [] → outer <+: folder → isPruned c outer = false := by
  constructor
  · intro entered
    induction entered with
    | root => exact fun outer nonempty inside => absurd (List.prefix_nil.1 inside) nonempty
    | step _ kept ih =>
      intro outer nonempty inside
      rcases List.prefix_concat_iff.1 inside with rfl | before
      · exact kept
      · exact ih outer nonempty before
  · intro kept
    induction folder using List.reverseRecOn with
    | nil => exact .root
    | append_singleton folder name ih =>
      refine .step (ih fun outer nonempty inside => ?_) (kept _ (by simp) List.prefix_rfl)
      exact kept outer nonempty (inside.trans (List.prefix_append folder [name]))

private theorem mem_foldersAround : folder ∈ foldersAround path ↔
    folder ≠ [] ∧ folder <+: Path.directory path := by
  obtain ⟨name, whole⟩ := Path.exists_directory_concat path
  have positions : (List.range (Path.segments path).length).drop 1 =
      (List.range (Path.directory path).length).map Nat.succ := by
    rw [whole, List.length_append, List.length_singleton, List.range_succ_eq_map, List.drop_one,
      List.tail_cons]
  simp only [foldersAround, positions, List.mem_map, List.mem_range, exists_exists_and_eq_and]
  constructor
  · rintro ⟨i, inside, rfl⟩
    rw [whole, List.take_append_of_le_length inside]
    refine ⟨fun empty => ?_, List.take_prefix _ _⟩
    rcases List.take_eq_nil_iff.1 empty with zero | none
    · cases zero
    · simp [none] at inside
  · rintro ⟨nonempty, inside⟩
    have positive := List.length_pos_iff.2 nonempty
    have short := inside.length_le
    refine ⟨folder.length - 1, by omega, ?_⟩
    rw [Nat.succ_eq_add_one, Nat.sub_add_cancel positive, whole, List.take_append_of_le_length short]
    exact (List.prefix_iff_eq_take.1 inside).symm

/-- The files found are those that the walk comes to and that are included. -/
theorem isFound_iff : isFound c path = true ↔
    Entered c (Path.directory path) ∧ c.isIncluded (projectPath path) = true := by
  rw [isFound, Bool.and_eq_true, Bool.not_eq_true', ← Bool.not_eq_true, List.any_eq_true, entered_iff]
  simp [mem_foldersAround]

private theorem mem_iff_prefix_getLast? {name : String} :
    name ∈ folder ↔ ∃ outer, outer <+: folder ∧ outer.getLast? = some name := by
  constructor
  · intro member
    obtain ⟨before, after, rfl⟩ := List.append_of_mem member
    exact ⟨before ++ [name], ⟨after, by simp⟩, by simp⟩
  · rintro ⟨outer, inside, last⟩
    exact inside.subset (List.mem_of_getLast? last)

theorem entered_directory_iff : Entered c (Path.directory path) ↔
    ".git" ∉ Path.directory path ∧ ¬IsCutOff c path := by
  rw [entered_iff, mem_iff_prefix_getLast?, IsCutOff]
  simp only [isPruned, Bool.or_eq_false_iff, not_exists, not_and, decide_eq_false_iff_not,
    Bool.not_eq_true]
  constructor
  · intro kept
    refine ⟨fun outer inside last => ?_, fun outer nonempty inside => (kept outer nonempty inside).2⟩
    have nonempty : outer ≠ [] := by
      rintro rfl
      cases last
    exact (kept outer nonempty inside).1 last
  · rintro ⟨unversioned, whole⟩ outer nonempty inside
    exact ⟨unversioned outer inside, whole outer nonempty inside⟩

end Walking

theorem of_taken {entry : String × FileEntry} {file : String}
    (taken : (match entry.2 with
      | .file _ => if isFound c entry.1 then some (projectPath entry.1) else none
      | .folder => none) = some file) :
    (∃ bytes, entry.2 = .file bytes) ∧ isFound c entry.1 = true ∧ projectPath entry.1 = file := by
  obtain ⟨path, entry⟩ := entry
  cases entry with
  | folder => cases taken
  | file bytes =>
    obtain ⟨found, same⟩ := Option.ite_none_right_eq_some.1 taken
    exact ⟨⟨bytes, rfl⟩, found, Option.some.inj same⟩

theorem mem_found {file : String} : file ∈ found t root c ↔
    ∃ path, projectPath path = file ∧ Belongs t root c path ∧ ¬IsCutOff c path := by
  rw [found, List.mem_filterMap]
  constructor
  · rintro ⟨⟨path, entry⟩, below, taken⟩
    obtain ⟨⟨bytes, rfl⟩, found, rfl⟩ := @of_taken c (path, entry) file taken
    obtain ⟨entered, included⟩ := isFound_iff.1 found
    obtain ⟨unversioned, whole⟩ := entered_directory_iff.1 entered
    exact ⟨path, rfl, ⟨⟨bytes, below⟩, included, unversioned⟩, whole⟩
  · rintro ⟨path, rfl, ⟨⟨bytes, below⟩, included, unversioned⟩, whole⟩
    refine ⟨(path, .file bytes), below, if_pos (isFound_iff.2 ⟨?_, included⟩)⟩
    exact entered_directory_iff.2 ⟨unversioned, whole⟩

section Separators

theorem toList_projectPath (path : String) :
    (projectPath path).toList = path.toList.map fun c => if c = '\\' then '/' else c := by
  have replaced (s : List Char) : Chars.replaceFrom ['\\'] ['/'] 0 s =
      s.map fun c => if c = '\\' then '/' else c := by
    induction s with
    | nil => rfl
    | cons c s ih =>
      rw [Chars.replaceFrom, List.map_cons]
      by_cases same : c = '\\'
      · subst same
        simpa using ih
      · simpa [List.isPrefixOf, same, Ne.symm same] using ih
  rw [projectPath, Text.replaceAll, String.toList_ofList]
  exact replaced path.toList

theorem projectPath_append (a b : String) : projectPath (a ++ b) = projectPath a ++ projectPath b := by
  rw [← String.toList_inj, String.toList_append]
  simp only [toList_projectPath, String.toList_append, List.map_append]

theorem projectPath_of_free (free : '\\' ∉ path.toList) : projectPath path = path := by
  have kept : path.toList.map (fun c => if c = '\\' then '/' else c) = path.toList.map id := by
    refine List.map_congr_left fun c member => if_neg ?_
    rintro rfl
    exact free member
  rw [← String.toList_inj, toList_projectPath, kept, List.map_id]

/-- A folder around a path is a front part of it, up to a slash. -/
private theorem exists_projectPath_below (nonempty : folder ≠ [])
    (inside : folder <+: Path.directory path) :
    ∃ rest, projectPath path = projectPath (Text.join "/" folder) ++ "/" ++ rest := by
  obtain ⟨between, around⟩ := inside
  obtain ⟨name, whole⟩ := Path.exists_directory_concat path
  rw [← around, List.append_assoc] at whole
  have inner : between ++ [name] ≠ [] := by simp
  have written := Path.join_append nonempty inner
  rw [← whole, Path.join_segments] at written
  refine ⟨projectPath (Text.join "/" (between ++ [name])), ?_⟩
  rw [written, projectPath_append, projectPath_append]
  rfl

/-- Only a pattern that can stop at the slash cuts off a file that is included. -/
theorem IsCutOff.exists_pattern (cut : IsCutOff c path)
    (included : c.isIncluded (projectPath path) = true) :
    ∃ pattern ∈ c.exclude, Glob.EndsAt '/' pattern.toList := by
  obtain ⟨folder, nonempty, inside, excluded⟩ := cut
  obtain ⟨pattern, listed, matched⟩ := List.any_eq_true.1 excluded
  refine ⟨pattern, listed, ?_⟩
  by_contra beyond
  obtain ⟨rest, below⟩ := exists_projectPath_below nonempty inside
  have excludedToo : c.isExcluded (projectPath path) = true :=
    List.any_eq_true.2 ⟨pattern, listed, below ▸ Glob.matchPath_below matched beyond rest⟩
  simp [FilesConfig.isIncluded, excludedToo] at included

end Separators

section Order

theorem strip?_eq_some {lead s rest : String} (stripped : Text.strip? lead s = some rest) :
    s = lead ++ rest := by
  obtain ⟨cs, found, rfl⟩ := Option.map_eq_some_iff.1 stripped
  rw [← String.toList_inj, String.toList_append, String.toList_ofList, Chars.strip?_eq_some found]

/-- No path stands for two entries. -/
private theorem pairwise_below (t : FileTree) (root : String) :
    (t.below root).Pairwise fun a b => a.1 ≠ b.1 := by
  have keys := t.entries.nodup_keys
  rw [Dict.keys, List.Nodup, List.pairwise_map] at keys
  refine List.pairwise_filterMap.2 (keys.imp fun different a strippedA b strippedB same => different ?_)
  obtain ⟨pathA, foundA, rfl⟩ := Option.map_eq_some_iff.1 strippedA
  obtain ⟨pathB, foundB, rfl⟩ := Option.map_eq_some_iff.1 strippedB
  rw [strip?_eq_some foundA, strip?_eq_some foundB, show pathA = pathB from same]

theorem nodup_found (free : ∀ entry ∈ t.below root, '\\' ∉ entry.1.toList) :
    (found t root c).Nodup := by
  refine List.pairwise_filterMap.2 ((pairwise_below t root).imp_of_mem ?_)
  intro a b belowA belowB different fileA takenA fileB takenB same
  obtain ⟨-, -, rfl⟩ := @of_taken c a fileA takenA
  obtain ⟨-, -, rfl⟩ := @of_taken c b fileB takenB
  rw [projectPath_of_free (free a belowA), projectPath_of_free (free b belowB)] at same
  exact different same

theorem files_eq (folder : t.entry root = .ok .folder) : files t root c =
    .ok ((found t root c).mergeSort fun a b => decide (a ≤ b)) := by
  rw [files, folder]
  rfl

theorem sorted_files : ((found t root c).mergeSort fun a b => decide (a ≤ b)).Pairwise (· ≤ ·) := by
  have sorted : ((found t root c).mergeSort fun a b => decide (a ≤ b)).Pairwise
      fun a b => decide (a ≤ b) = true := by
    refine List.pairwise_mergeSort (fun a b c before after => ?_) (fun a b => ?_) _
    · rw [decide_eq_true_eq] at *
      exact String.le_trans before after
    · rw [Bool.or_eq_true, decide_eq_true_eq, decide_eq_true_eq]
      exact String.le_total a b
  exact sorted.imp of_decide_eq_true

end Order

/-- The files of a project in order: those that belong to it by themselves, less those that an exclude
pattern cuts off with a folder around them. Without backslashes in names, which are read as slashes, no file
comes twice. Without exclude patterns that can stop at the slash after a folder, none is cut off. -/
theorem files_outside_excluded_folders (t : FileTree) (root : String) (c : FilesConfig)
    (folder : t.entry root = .ok .folder) :
    ∃ paths, files t root c = .ok paths ∧ paths.Pairwise (· ≤ ·) ∧
      (∀ file, file ∈ paths ↔
        ∃ path, projectPath path = file ∧ Belongs t root c path ∧ ¬IsCutOff c path) ∧
      ((∀ entry ∈ t.below root, '\\' ∉ entry.1.toList) →
        paths.Pairwise (· < ·) ∧ ∀ path, path ∈ paths ↔ Belongs t root c path ∧ ¬IsCutOff c path) ∧
      ((∀ pattern ∈ c.exclude, ¬Glob.EndsAt '/' pattern.toList) →
        ∀ file, file ∈ paths ↔ ∃ path, projectPath path = file ∧ Belongs t root c path) := by
  have members (file : String) : file ∈ (found t root c).mergeSort (fun a b => decide (a ≤ b)) ↔
      ∃ path, projectPath path = file ∧ Belongs t root c path ∧ ¬IsCutOff c path := by
    rw [List.mem_mergeSort, mem_found]
  refine ⟨_, files_eq folder, sorted_files, members, fun free => ⟨?_, fun path => ?_⟩,
    fun beyond file => (members file).trans ?_⟩
  · have perm := (found t root c).mergeSort_perm fun a b => decide (a ≤ b)
    have distinct := perm.nodup_iff.2 (nodup_found free)
    refine (sorted_files.and distinct).imp fun {a b} ⟨before, other⟩ => ?_
    exact String.not_le.1 fun after => other (String.le_antisymm before after)
  · have plain {path : String} (belongs : Belongs t root c path) : projectPath path = path := by
      obtain ⟨bytes, below⟩ := belongs.isFile
      exact projectPath_of_free (free _ below)
    rw [members path]
    constructor
    · rintro ⟨path, rfl, belongs, whole⟩
      rw [plain belongs]
      exact ⟨belongs, whole⟩
    · exact fun ⟨belongs, whole⟩ => ⟨path, plain belongs, belongs, whole⟩
  · refine exists_congr fun path => and_congr_right fun _ => and_iff_left_of_imp fun belongs cut => ?_
    obtain ⟨pattern, listed, stops⟩ := cut.exists_pattern belongs.included
    exact beyond pattern listed stops

example : ∀ pattern ∈ ({} : FilesConfig).exclude, ¬Glob.EndsAt '/' pattern.toList := by decide +kernel

/-- With the patterns of the defaults. -/
theorem source_beside_installed_modules : ∃ t : FileTree, t.entry "/p" = .ok .folder ∧
    ∃ paths, files t "/p" {} = .ok paths ∧ "a.ts" ∈ paths ∧ "node_modules/x.ts" ∉ paths := by
  let t : FileTree := ⟨.ofList [("p", .folder), ("p/a.ts", .file .empty), ("p/node_modules", .folder),
    ("p/node_modules/x.ts", .file .empty)]⟩
  have folder : t.entry "/p" = .ok .folder := by decide +kernel
  refine ⟨t, folder, ?_⟩
  obtain ⟨paths, done, -, -, -, members⟩ := files_outside_excluded_folders t "/p" {} folder
  have members := members (by decide +kernel)
  refine ⟨paths, done, (members _).2 ⟨"a.ts", by decide +kernel, ⟨.empty, by decide +kernel⟩,
    by decide +kernel, by decide +kernel⟩, fun member => ?_⟩
  obtain ⟨path, same, belongs⟩ := (members _).1 member
  have included := same ▸ belongs.included
  exact absurd included (by decide +kernel)

/-- One star can stand for nothing, so the star that excludes the files of a folder cuts off all that is
below the folder, although those files are included and a change of one is a change of the project. -/
theorem file_below_starred_folder_is_lost : ∃ (t : FileTree) (c : FilesConfig),
    t.entry "/p" = .ok .folder ∧ Belongs t "/p" c "src/deep/b.ts" ∧
      classifyChange c.isIncluded "src/deep/b.ts" = .source "src/deep/b.ts" ∧ files t "/p" c = .ok [] := by
  let t : FileTree := ⟨.ofList [("p", .folder), ("p/src", .folder), ("p/src/deep", .folder),
    ("p/src/deep/b.ts", .file .empty)]⟩
  let c : FilesConfig := ⟨["src/**"], ["src/*"]⟩
  have folder : t.entry "/p" = .ok .folder := by decide +kernel
  refine ⟨t, c, folder, ⟨⟨.empty, by decide +kernel⟩, by decide +kernel, by decide +kernel⟩,
    by decide +kernel, ?_⟩
  exact files_of_found folder (by decide +kernel) .nil

end Conformance.Discovery
