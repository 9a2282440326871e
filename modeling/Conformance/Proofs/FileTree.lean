import Conformance.Project.Discovery
import Conformance.Proofs.Dict

/-! Which contents a tree of files holds, wherever they stand. Operations on the tree bring in no
contents but those they are given, and what is written under a path is read under it. -/
namespace Conformance

theorem bind_eq_ok {α β ε : Type} {x : Except ε α} {f : α → Except ε β} {b : β}
    (done : (x >>= f) = .ok b) : ∃ a, x = .ok a ∧ f a = .ok b := by
  cases x with
  | error e => cases done
  | ok a => exact ⟨a, rfl, done⟩

namespace FileTree
variable {t t' : FileTree} {path : String}

/-- Some file of the tree has these bytes. -/
def HoldsBytes (t : FileTree) (bytes : ByteArray) : Prop :=
  ∃ key, t.entries.find? key = some (.file bytes)

/-- Some file of the tree has this text. -/
def Holds (t : FileTree) (text : String) : Prop :=
  ∃ bytes, t.HoldsBytes bytes ∧ String.fromUTF8? bytes = some text

theorem fromUTF8?_toUTF8 (text : String) : String.fromUTF8? text.toUTF8 = some text := by
  have valid : text.toUTF8.IsValidUTF8 := text.isValidUTF8
  exact dif_pos valid

theorem readBytes_holds {bytes : ByteArray} (read : t.readBytes path = .ok bytes) :
    t.HoldsBytes bytes := by
  obtain ⟨found, entry, file⟩ := bind_eq_ok read
  obtain ⟨l, -, stands⟩ := bind_eq_ok entry
  cases at? : t.entryAt? l with
  | none => simp [at?] at stands
  | some e =>
    cases e with
    | folder =>
      simp only [at?] at stands
      cases stands
      cases file
    | file content =>
      simp only [at?] at stands
      split at stands
      · cases stands
      · cases stands
        cases file
        unfold entryAt? at at?
        split at at?
        · cases at?
        · exact ⟨_, at?⟩

theorem readText_of_entry {text : String} (entry : t.entry path = .ok (.file text.toUTF8)) :
    t.readText path = .ok text := by
  simp only [readText, readBytes, entry, bind, Except.bind, fromUTF8?_toUTF8]

theorem readText_holds {text : String} (read : t.readText path = .ok text) : t.Holds text := by
  obtain ⟨bytes, found, decoded⟩ := bind_eq_ok read
  refine ⟨bytes, readBytes_holds found, ?_⟩
  split at decoded
  · rename_i text' same
    cases decoded
    exact same
  · cases decoded

private theorem extend_holds {stack segments : List String} {bytes : ByteArray}
    (done : t.extend stack segments = .ok t') (holds : t'.HoldsBytes bytes) :
    t.HoldsBytes bytes := by
  induction segments generalizing t stack with
  | nil =>
    cases done
    exact holds
  | cons segment rest ih =>
    unfold extend at done
    split at done
    · exact ih done
    · split at done
      · cases done
      · split at done
        · exact ih done
        · cases done
        · obtain ⟨key, found⟩ := ih done
          rw [Dict.find?_insert] at found
          split at found
          · cases found
          · exact ⟨key, found⟩

theorem createFolders_holds {bytes : ByteArray} (done : t.createFolders path = .ok t')
    (holds : t'.HoldsBytes bytes) : t.HoldsBytes bytes := by
  unfold createFolders at done
  split at done
  · cases done
  · split at done
    · cases done
    · exact extend_holds done holds

theorem write_holds {written bytes : ByteArray} (done : t.write path written = .ok t')
    (holds : t'.HoldsBytes bytes) : t.HoldsBytes bytes ∨ bytes = written := by
  obtain ⟨l, -, done⟩ := bind_eq_ok done
  split at done
  · cases done
  · cases done
  · split at done
    · cases done
    · cases done
      obtain ⟨key, found⟩ := holds
      rw [Dict.find?_insert] at found
      split at found
      · cases found
        exact .inr rfl
      · exact .inl ⟨key, found⟩

private theorem remove_holds {bytes : ByteArray} (done : t.remove path = .ok t')
    (holds : t'.HoldsBytes bytes) : t.HoldsBytes bytes := by
  obtain ⟨l, -, done⟩ := bind_eq_ok done
  split at done
  · cases done
  · cases done
  · cases done
  · split at done
    · cases done
    · cases done
      obtain ⟨key, found⟩ := holds
      rw [Dict.find?_erase] at found
      split at found
      · cases found
      · exact ⟨key, found⟩

theorem rename_holds {target : String} {bytes : ByteArray}
    (done : t.rename path target = .ok t') (holds : t'.HoldsBytes bytes) :
    t.HoldsBytes bytes := by
  obtain ⟨moved, read, done⟩ := bind_eq_ok done
  obtain ⟨l, -, done⟩ := bind_eq_ok done
  split at done
  · cases done
  · cases done
  · split at done
    · cases done
    · obtain ⟨removed, gone, done⟩ := bind_eq_ok done
      cases done
      obtain ⟨key, found⟩ := holds
      rw [Dict.find?_insert] at found
      split at found
      · cases found
        exact readBytes_holds read
      · exact remove_holds gone ⟨key, found⟩

/-- Every folder of a tree is a folder of another. -/
def KeepsFolders (t t' : FileTree) : Prop :=
  ∀ key, t.entries.find? key = some .folder → t'.entries.find? key = some .folder

theorem KeepsFolders.follow (keeps : t.KeepsFolders t') {stack segments : List String}
    {l : Location} (reached : t.follow stack segments = .ok l) :
    t'.follow stack segments = .ok l := by
  induction segments generalizing stack with
  | nil => exact reached
  | cons segment rest ih =>
    unfold FileTree.follow at reached ⊢
    by_cases dot : segment = "" ∨ segment = "."
    · rw [if_pos dot] at reached ⊢
      exact ih reached
    rw [if_neg dot] at reached ⊢
    by_cases up : segment = ".."
    · rw [if_pos up] at reached ⊢
      exact ih reached
    rw [if_neg up] at reached ⊢
    by_cases long : segment.utf8ByteSize > maxName
    · rw [if_pos long] at reached
      cases reached
    rw [if_neg long] at reached ⊢
    by_cases last : rest.all (· = "") = true
    · rw [if_pos last] at reached ⊢
      exact reached
    rw [if_neg last] at reached ⊢
    split at reached
    · rename_i folder
      rw [keeps _ folder]
      exact ih reached
    · cases reached
    · cases reached

/-- A path leads to the same place as long as no folder goes. -/
theorem KeepsFolders.locate (keeps : t.KeepsFolders t') {l : Location}
    (reached : t.locate path = .ok l) : t'.locate path = .ok l := by
  unfold FileTree.locate at reached ⊢
  split at reached
  · cases reached
  · rename_i named
    rw [if_neg named]
    split at reached
    · cases reached
    · rename_i short
      rw [if_neg short]
      exact keeps.follow reached

private theorem keepsFolders_insert {key : String} (free : t.entries.find? key ≠ some .folder)
    (bytes : ByteArray) :
    t.KeepsFolders { t with entries := t.entries.insert key (.file bytes) } := by
  intro other folder
  rw [Dict.find?_insert]
  split
  · rename_i same
    subst same
    exact absurd folder free
  · exact folder

private theorem keepsFolders_erase {key : String} (free : t.entries.find? key ≠ some .folder) :
    t.KeepsFolders { t with entries := t.entries.erase key } := by
  intro other folder
  rw [Dict.find?_erase]
  split
  · rename_i same
    subst same
    exact absurd folder free
  · exact folder

/-- A file that is put where a path leads is read under that path. -/
theorem readBytes_insert {l : Location} {name : String} (reached : t.locate path = .ok l)
    (named : l.name? = some name) (plain : l.slash = false)
    (free : t.entries.find? (key (name :: l.folder)) ≠ some .folder) (bytes : ByteArray) :
    ({ t with entries := t.entries.insert (key (name :: l.folder)) (.file bytes) } :
      FileTree).readBytes path = .ok bytes := by
  have reached' := (keepsFolders_insert free bytes).locate reached
  simp only [readBytes, entry, reached', entryAt?, named, Dict.find?_insert, if_true, plain, bind,
    Except.bind, Bool.false_eq_true, if_false]

theorem write_eq_ok {bytes : ByteArray} (done : t.write path bytes = .ok t') :
    ∃ l name, t.locate path = .ok l ∧ l.name? = some name ∧ l.slash = false ∧
      t.entries.find? (key (name :: l.folder)) ≠ some .folder ∧
      t' = { t with entries := t.entries.insert (key (name :: l.folder)) (.file bytes) } := by
  obtain ⟨l, reached, done⟩ := bind_eq_ok done
  split at done
  · cases done
  · cases done
  · rename_i name named free
    split at done
    · cases done
    · rename_i plain
      cases done
      refine ⟨l, name, reached, named, by simpa using plain, ?_, rfl⟩
      simpa [entryAt?, named] using free

theorem readBytes_write {bytes : ByteArray} (done : t.write path bytes = .ok t') :
    t'.readBytes path = .ok bytes := by
  obtain ⟨l, name, reached, named, plain, free, rfl⟩ := write_eq_ok done
  exact readBytes_insert reached named plain free bytes

theorem remove_eq_ok (done : t.remove path = .ok t') :
    ∃ key bytes, t.entries.find? key = some (.file bytes) ∧
      t' = { t with entries := t.entries.erase key } := by
  obtain ⟨l, -, done⟩ := bind_eq_ok done
  split at done
  · cases done
  · cases done
  · cases done
  · rename_i name bytes named held
    split at done
    · cases done
    · cases done
      refine ⟨_, bytes, ?_, rfl⟩
      simpa [entryAt?, named] using held

/-- A renamed file is read under its new path. -/
theorem readBytes_rename {target : String} {bytes : ByteArray}
    (done : t.rename path target = .ok t') (read : t.readBytes path = .ok bytes) :
    t'.readBytes target = .ok bytes := by
  obtain ⟨moved, held, done⟩ := bind_eq_ok done
  cases held.symm.trans read
  obtain ⟨l, reached, done⟩ := bind_eq_ok done
  split at done
  · cases done
  · cases done
  · rename_i name named free
    split at done
    · cases done
    · rename_i plain
      obtain ⟨removed, gone, done⟩ := bind_eq_ok done
      cases done
      obtain ⟨draft, old, file, rfl⟩ := remove_eq_ok gone
      have noFolder : t.entries.find? draft ≠ some .folder := by simp [file]
      have reached' := (keepsFolders_erase noFolder).locate reached
      refine readBytes_insert reached' named (by simpa using plain) ?_ bytes
      rw [Dict.find?_erase]
      split
      · nofun
      · simpa [entryAt?, named] using free

theorem readText_of_readBytes {text : String} (read : t.readBytes path = .ok text.toUTF8) :
    t.readText path = .ok text := by
  simp only [readText, read, bind, Except.bind, fromUTF8?_toUTF8]

private theorem follow_error {stack segments : List String} {e : FileError}
    (refused : t.follow stack segments = .error e) : e ≠ .isFolder ∧ e ≠ .notText := by
  induction segments generalizing stack with
  | nil => cases refused
  | cons segment rest ih =>
    unfold follow at refused
    split at refused
    · exact ih refused
    · split at refused
      · exact ih refused
      · split at refused
        · cases refused
          exact ⟨nofun, nofun⟩
        · split at refused
          · cases refused
          · split at refused
            · exact ih refused
            · cases refused
              exact ⟨nofun, nofun⟩
            · cases refused
              exact ⟨nofun, nofun⟩

/-- Looking for an entry fails for other reasons than reading what stands there. -/
private theorem entry_error {e : FileError} (refused : t.entry path = .error e) :
    e ≠ .isFolder ∧ e ≠ .notText := by
  unfold entry at refused
  cases located : t.locate path with
  | error e' =>
    rw [located] at refused
    cases refused
    unfold locate at located
    split at located
    · cases located
      exact ⟨nofun, nofun⟩
    · split at located
      · cases located
        exact ⟨nofun, nofun⟩
      · exact follow_error located
  | ok l =>
    simp only [located, bind, Except.bind] at refused
    split at refused
    · cases refused
      exact ⟨nofun, nofun⟩
    · split at refused
      · cases refused
        exact ⟨nofun, nofun⟩
      · cases refused
    · cases refused

/-- Something is there if it can be read, or is refused as what it is. -/
theorem isPresent_eq : t.isPresent path = match t.readText path with
    | .ok _ | .error .isFolder | .error .notText => true
    | .error _ => false := by
  unfold isPresent readText readBytes
  cases found : t.entry path with
  | error e =>
    obtain ⟨noFolder, noText⟩ := entry_error found
    cases e with
    | isFolder => exact absurd rfl noFolder
    | notText => exact absurd rfl noText
    | _ => rfl
  | ok entry =>
    cases entry with
    | folder => rfl
    | file bytes =>
      simp only [bind, Except.bind]
      cases String.fromUTF8? bytes <;> rfl

end FileTree

namespace Discovery

/-- The project files below a root as they come. -/
def found (t : FileTree) (root : String) (c : FilesConfig) : List String :=
  (t.below root).filterMap fun (path, entry) =>
    match entry with
    | .file _ => if isFound c path then some (projectPath path) else none
    | .folder => none

theorem files_of_found {t : FileTree} {root : String} {c : FilesConfig} {paths : List String}
    (folder : t.entry root = .ok .folder) (same : found t root c = paths)
    (sorted : paths.Pairwise fun a b => decide (a ≤ b) = true) : files t root c = .ok paths := by
  rw [files, folder]
  change Except.ok ((found t root c).mergeSort fun a b => decide (a ≤ b)) = _
  rw [same, List.mergeSort_of_pairwise sorted]

end Discovery

end Conformance
