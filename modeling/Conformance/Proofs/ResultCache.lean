import Conformance.Proofs.Document.Codecs
import Conformance.Proofs.FileTree
import Conformance.ResultCache.Basic

/-! Consulting, changing and writing the stored results: which entries are given, where the entries
come from that are kept, and what a tree holds after they are written. -/
namespace Conformance.ResultCache

/-- What is left of a cache while files are looked up in it, each under its own checksum: it gives
the same entries, and holds no others than before. -/
structure Trims (checksum : String → String) (before after : ResultCache) : Prop where
  peek : ∀ file, after.peek? file (checksum file) = before.peek? file (checksum file)
  files : ∀ file e, after.document.files.find? file = some e →
    before.document.files.find? file = some e
  path : after.path = before.path
  version : after.document.version = before.document.version
  registry : after.document.registryChecksum = before.document.registryChecksum
  config : after.document.configChecksum = before.document.configChecksum

variable {checksum : String → String}

theorem Trims.refl (c : ResultCache) : Trims checksum c c :=
  ⟨fun _ => rfl, fun _ _ found => found, rfl, rfl, rfl, rfl⟩

theorem get?_eq_peek? (c : ResultCache) (file checksum : String) :
    (c.get? file checksum).1 = c.peek? file checksum := by
  unfold get? peek?
  cases c.document.files.find? file with
  | none => rfl
  | some e =>
    by_cases same : e.checksum = checksum <;> simp [same, Option.filter]

/-- A look-up drops at most an entry that its checksum does not fit. -/
theorem get?_trims (c : ResultCache) (file : String) :
    Trims checksum c (c.get? file (checksum file)).2 := by
  unfold get?
  split
  · exact ⟨fun _ => rfl, fun _ _ found => found, rfl, rfl, rfl, rfl⟩
  · rename_i e present
    split
    · exact ⟨fun _ => rfl, fun _ _ found => found, rfl, rfl, rfl, rfl⟩
    · rename_i stale
      refine ⟨?_, ?_, rfl, rfl, rfl, rfl⟩
      · intro other
        by_cases same : other = file
        · subst same
          simp [peek?, present, stale, Option.filter]
        · simp [peek?, same]
      · intro other entry found
        simp only [Dict.find?_erase] at found
        split at found
        · cases found
        · exact found

theorem Trims.trans {a b c : ResultCache} (first : Trims checksum a b)
    (second : Trims checksum b c) : Trims checksum a c where
  peek file := (second.peek file).trans (first.peek file)
  files file e found := first.files file e (second.files file e found)
  path := second.path.trans first.path
  version := second.version.trans first.version
  registry := second.registry.trans first.registry
  config := second.config.trans first.config

theorem peek?_eq_some {c : ResultCache} {file checksum : String} {e : CachedResult} :
    c.peek? file checksum = some e ↔
      c.document.files.find? file = some e ∧ e.checksum = checksum := by
  simp [peek?, Option.filter_eq_some_iff]

/-- Writing brings in the text alone, whether it succeeds or not. -/
private theorem store_holds {t : FileTree} {path text other : String}
    (holds : (store t path text).2.Holds other) : t.Holds other ∨ other = text := by
  obtain ⟨bytes, held, decoded⟩ := holds
  have wanted (tree : FileTree) (at? : tree.HoldsBytes bytes ∨ bytes = text.toUTF8) :
      tree.Holds other ∨ other = text := by
    rcases at? with old | rfl
    · exact .inl ⟨bytes, old, decoded⟩
    · rw [FileTree.fromUTF8?_toUTF8] at decoded
      exact .inr (Option.some.inj decoded.symm)
  apply wanted
  unfold store at held
  split at held
  · exact .inl held
  · rename_i folders created
    have written {tree : FileTree} (done : folders.write (draftPath path) text.toUTF8 = .ok tree)
        (held : tree.HoldsBytes bytes) : t.HoldsBytes bytes ∨ bytes = text.toUTF8 :=
      (FileTree.write_holds done held).imp (FileTree.createFolders_holds created) id
    split at held
    · exact .inl (FileTree.createFolders_holds created held)
    · rename_i draft wrote
      split at held
      · exact written wrote held
      · rename_i renamed
        exact written wrote (FileTree.rename_holds renamed held)

/-- The text that a cache is written as. -/
def writtenText (c : ResultCache) (now : String) : String :=
  Json.writeIndented { c.document with updatedAt := now }.toDocument

theorem flush_tree {c : ResultCache} (dirty : c.dirty = true) (t : FileTree) (now : String) :
    (c.flush t now).2.2 = (store t c.path (c.writtenText now)).2 := by
  unfold flush writtenText
  rw [if_pos dirty]
  dsimp only
  generalize store t c.path _ = out
  obtain ⟨_ | _, tree⟩ := out
  · rfl
  · rfl

theorem flush_holds {c : ResultCache} {t : FileTree} {now text : String}
    (holds : (c.flush t now).2.2.Holds text) : t.Holds text ∨ text = c.writtenText now := by
  cases dirty : c.dirty with
  | true =>
    rw [flush_tree dirty] at holds
    exact store_holds holds
  | false =>
    unfold flush at holds
    rw [dirty] at holds
    exact .inl holds

variable {t : FileTree} {path registryChecksum configChecksum now : String}

theorem load_path : (load t path registryChecksum configChecksum now).path = path := by
  unfold load start
  cases stored t path with
  | absent | broken => rfl
  | readable c =>
    dsimp only
    split <;> rfl

/-- What is loaded is meant for the registry and the configuration it is loaded for. -/
theorem load_current :
    (load t path registryChecksum configChecksum now).document.version = cacheVersion ∧
    (load t path registryChecksum configChecksum now).document.registryChecksum = registryChecksum ∧
    (load t path registryChecksum configChecksum now).document.configChecksum = configChecksum := by
  unfold load start
  cases stored t path with
  | absent => exact ⟨rfl, rfl, rfl⟩
  | broken => exact ⟨rfl, rfl, rfl⟩
  | readable c =>
    dsimp only
    split
    · rename_i current
      simpa [isCurrent, and_assoc] using current
    · exact ⟨rfl, rfl, rfl⟩

/-- Loaded entries stand in a document that the tree holds. -/
theorem load_files {file : String} {e : CachedResult}
    (found : (load t path registryChecksum configChecksum now).document.files.find? file = some e) :
    ∃ text, t.Holds text ∧ CacheDocument.read? text =
      some (load t path registryChecksum configChecksum now).document := by
  unfold load start at found ⊢
  cases at? : stored t path with
  | absent => simp [at?] at found
  | broken => simp [at?] at found
  | readable c =>
    simp only [at?] at found ⊢
    split at found
    · rename_i current
      rw [if_pos current]
      unfold stored at at?
      split at at?
      · cases at?
      · cases at?
      · rename_i text read
        split at at?
        · rename_i c' decoded
          cases at?
          exact ⟨text, FileTree.readText_holds read, decoded⟩
        · cases at?
    · simp at found

theorem load_of_missing (missing : t.readText path = .error .missing) (file : String) :
    (load t path registryChecksum configChecksum now).document.files.find? file = none := by
  simp only [load, start, stored, missing]
  rfl

/-- A document that is current is loaded as it is. -/
theorem load_of_current {c : CacheDocument} (found : stored t path = .readable c)
    (current : isCurrent c registryChecksum configChecksum = true) (now : String) :
    load t path registryChecksum configChecksum now = { path, document := c } := by
  simp only [load, start, found, current, if_true]

/-- A document stored for another registry is thrown away with all its entries. -/
theorem load_of_other_registry {c : CacheDocument} (found : stored t path = .readable c)
    (other : c.registryChecksum ≠ registryChecksum) :
    let cache := load t path registryChecksum configChecksum now
    cache.stats = { invalidated := c.files.size, fullInvalidation := true } ∧
      cache.document.files = ∅ ∧ cache.dirty = true := by
  have outdated : isCurrent c registryChecksum configChecksum = false := by
    simp [isCurrent, other]
  simp only [load, start, found, outdated, Bool.false_eq_true, if_false, and_self]

theorem load_of_read {text : String} {c : CacheDocument} (read : t.readText path = .ok text)
    (decoded : CacheDocument.read? text = some c)
    (current : isCurrent c registryChecksum configChecksum = true) (now : String) :
    load t path registryChecksum configChecksum now = { path, document := c } := by
  refine load_of_current ?_ current now
  rw [CacheDocument.read?] at decoded
  simp only [stored, read, decoded]

end Conformance.ResultCache
