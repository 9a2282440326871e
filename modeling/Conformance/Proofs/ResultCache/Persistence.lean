import Conformance.Proofs.Document.Room
import Conformance.Proofs.ResultCache

/-! A cache and the tree it is kept in. As long as nothing is marked for writing, the tree holds the
entries of the cache; every call keeps it so, and what is written is found again. -/
namespace Conformance.ResultCache

variable {c : ResultCache} {t t' : FileTree} {file checksum other now : String}

/-- The entries that stand where a document is kept; none if there is no document. -/
def Stored.files? : Stored → Option (Dict CachedResult)
  | absent => some ∅
  | broken => none
  | readable d => some d.files

/-- A look-up leaves an entry in place exactly if it was stored for its checksum. -/
theorem get?_files :
    (c.get? file checksum).2.document.files.find? other =
      if file = other then c.peek? file checksum else c.document.files.find? other := by
  unfold get? peek?
  cases held : c.document.files.find? file with
  | none =>
    by_cases same : file = other
    · subst same
      simp [held]
    · simp [same]
  | some e =>
    by_cases fits : e.checksum = checksum
    · by_cases same : file = other
      · subst same
        simp [held, fits, Option.filter]
      · simp [fits, same]
    · by_cases same : file = other
      · subst same
        simp [fits, Option.filter]
      · simp [fits, same, Ne.symm same]

@[simp] theorem retain_stats (keep : String → Bool) : (c.retain keep).stats = c.stats := rfl

@[simp] theorem retain_path (keep : String → Bool) : (c.retain keep).path = c.path := rfl

theorem retain_files (keep : String → Bool) :
    (c.retain keep).document.files.find? other =
      if keep other then c.document.files.find? other else none := by
  rw [retain]
  simp only [Dict.find?_filter]
  cases c.document.files.find? other <;> cases keep other <;> rfl

/-- Keeping entries without a change in number keeps them all. -/
private theorem retain_files_of_size (keep : String → Bool)
    (same : (c.document.files.filter fun file _ => keep file).size = c.document.files.size) :
    (c.retain keep).document.files = c.document.files :=
  Dict.ext (List.filter_sublist.eq_of_length same)

/-- What writing comes to: nothing to do, done, or refused with what was done before. -/
theorem flush_cases (c : ResultCache) (t : FileTree) (now : String) :
    c.dirty = false ∧ c.flush t now = (.ok (), c, t) ∨
    c.dirty = true ∧ ∃ outcome t', store t c.path (c.writtenText now) = (outcome, t') ∧
      c.flush t now =
        (outcome, { c with
          document := { c.document with updatedAt := now }, dirty := !outcome.isOk }, t') := by
  unfold flush writtenText
  cases dirty : c.dirty with
  | false => exact .inl ⟨rfl, rfl⟩
  | true =>
    refine .inr ⟨rfl, ?_⟩
    dsimp only
    generalize store t c.path _ = out
    obtain ⟨outcome, t'⟩ := out
    refine ⟨outcome, t', rfl, ?_⟩
    cases outcome <;> rfl

theorem flush_files : (c.flush t now).2.1.document.files = c.document.files := by
  rcases flush_cases c t now with ⟨-, same⟩ | ⟨-, _, _, -, same⟩ <;> rw [same]

/-- A text that was written is read. -/
theorem store_reads {path text : String} {t' : FileTree} (done : store t path text = (.ok (), t')) :
    t'.readText path = .ok text := by
  unfold store at done
  split at done
  · cases done
  · split at done
    · cases done
    · rename_i wrote
      split at done
      · cases done
      · rename_i renamed
        cases done
        exact FileTree.readText_of_readBytes
          (FileTree.readBytes_rename renamed (FileTree.readBytes_write wrote))

/-- The tree holds the entries of a cache, for its registry and its configuration. -/
def Persisted (c : ResultCache) (t : FileTree) : Prop :=
  match stored t c.path with
  | .absent => c.document.files = ∅
  | .broken => False
  | .readable d => d.files = c.document.files ∧
    isCurrent d c.document.registryChecksum c.document.configChecksum = true

theorem Persisted.files? (persisted : c.Persisted t) :
    (stored t c.path).files? = some c.document.files := by
  unfold Persisted at persisted
  cases found : stored t c.path with
  | absent =>
    rw [found] at persisted
    exact congrArg some persisted.symm
  | broken =>
    rw [found] at persisted
    cases persisted
  | readable d =>
    rw [found] at persisted
    exact congrArg some persisted.1

/-- What holds of a cache and its tree after any calls: every entry has room, and if nothing is
marked for writing, nothing has to be written. -/
structure Sound (c : ResultCache) (t : FileTree) : Prop where
  version : c.document.version = cacheVersion
  room : ∀ file e, c.document.files.find? file = some e → e.Storable
  clean : c.dirty = false → c.Persisted t

theorem stored_of_read {path text : String} {d : CacheDocument} (read : t.readText path = .ok text)
    (decoded : CacheDocument.read? text = some d) : stored t path = .readable d := by
  rw [CacheDocument.read?] at decoded
  simp only [stored, read, decoded]

theorem sound_load (t : FileTree) (path registryChecksum configChecksum now : String) :
    Sound (load t path registryChecksum configChecksum now) t := by
  refine ⟨load_current.1, ?_, ?_⟩
  · intro file e found
    obtain ⟨text, -, decoded⟩ := load_files found
    obtain ⟨d, -, decoded⟩ := Option.bind_eq_some_iff.1 decoded
    exact CacheDocument.yields_storable d _ decoded file e found
  · intro clean
    unfold Persisted
    rw [load_path]
    unfold load start at clean ⊢
    cases found : stored t path with
    | absent => rfl
    | broken => simp [found] at clean
    | readable d =>
      simp only [found] at clean ⊢
      split at clean
      · rename_i current
        rw [if_pos current]
        have same : d.registryChecksum = registryChecksum ∧ d.configChecksum = configChecksum := by
          simp only [isCurrent, Bool.and_eq_true, decide_eq_true_eq] at current
          exact ⟨current.1.2, current.2⟩
        exact ⟨rfl, by rwa [← same.1, ← same.2] at current⟩
      · cases clean

theorem Sound.get (sound : c.Sound t) (file checksum : String) :
    (c.get? file checksum).2.Sound t := by
  have room : ∀ other e, (c.get? file checksum).2.document.files.find? other = some e →
      e.Storable := by
    intro other e found
    rw [get?_files] at found
    split at found
    · exact sound.room file e (peek?_eq_some.1 found).1
    · exact sound.room other e found
  unfold get? at room ⊢
  split
  · exact ⟨sound.version, sound.room, sound.clean⟩
  · split
    · exact ⟨sound.version, sound.room, sound.clean⟩
    · rename_i e held stale
      simp only [held, if_neg stale] at room
      exact ⟨sound.version, room, nofun⟩

theorem Sound.put (sound : c.Sound t) (file : String) {e : CachedResult} (room : e.Storable) :
    (c.put file e).Sound t := by
  refine ⟨sound.version, ?_, nofun⟩
  intro other entry found
  rw [ResultCache.put, Dict.find?_insert] at found
  split at found
  · cases found
    exact room
  · exact sound.room other entry found

theorem Sound.retain (sound : c.Sound t) (keep : String → Bool) : (c.retain keep).Sound t := by
  refine ⟨sound.version, ?_, ?_⟩
  · intro file e found
    rw [retain_files] at found
    split at found
    · exact sound.room file e found
    · cases found
  · intro clean
    have parts : c.dirty = false ∧
        (c.document.files.filter fun file _ => keep file).size = c.document.files.size := by
      simpa [ResultCache.retain] using clean
    have persisted := sound.clean parts.1
    unfold Persisted at persisted ⊢
    rw [retain_files_of_size keep parts.2]
    exact persisted

/-- What was written is found again. -/
theorem Sound.stored_of_store (sound : c.Sound t) {now : String}
    (done : store t c.path (c.writtenText now) = (.ok (), t')) :
    stored t' c.path = .readable { c.document with updatedAt := now } := by
  refine stored_of_read (store_reads done) (CacheDocument.read?_of_storable ?_ sound.room)
  rw [sound.version]
  decide

theorem Sound.flush (sound : c.Sound t) (now : String) :
    (c.flush t now).2.1.Sound (c.flush t now).2.2 := by
  rcases flush_cases c t now with ⟨-, same⟩ | ⟨-, outcome, t', stores, same⟩
  · rw [same]
    exact sound
  · rw [same]
    refine ⟨sound.version, sound.room, ?_⟩
    cases outcome with
    | error e => nofun
    | ok done =>
      intro _
      unfold Persisted
      rw [sound.stored_of_store stores]
      refine ⟨rfl, ?_⟩
      simp [isCurrent, sound.version]

/-- A cache that was written, or had nothing to write, stands in the tree. -/
theorem Sound.persisted_of_flush (sound : c.Sound t) {now : String}
    (done : (c.flush t now).1 = .ok ()) : c.Persisted (c.flush t now).2.2 := by
  have clean : (c.flush t now).2.1.dirty = false := by
    rcases flush_cases c t now with ⟨clean, same⟩ | ⟨-, outcome, t', -, same⟩
    · rw [same]
      exact clean
    · rw [same] at done ⊢
      cases done
      rfl
  have persisted := (sound.flush now).clean clean
  rcases flush_cases c t now with ⟨-, same⟩ | ⟨-, outcome, t', -, same⟩
  · rw [same] at persisted ⊢
    exact persisted
  · rw [same] at persisted ⊢
    exact persisted

/-- If a cache was changed or not, and then entries were dropped, and there is nothing to write, the
tree holds what is left. -/
theorem Sound.retain_settled (sound : c.Sound t) {changed : ResultCache}
    (change : changed.dirty = true ∨ changed = c) (keep : String → Bool)
    (clean : (changed.retain keep).dirty = false) : (changed.retain keep).Persisted t := by
  rcases change with dirty | rfl
  · simp [ResultCache.retain, dirty] at clean
  · exact (sound.retain keep).clean clean

/-- After a write that did not fail, a document that is found holds the entries of the cache, if
the tree held them already whenever there was nothing to write. -/
theorem files_of_flush (settled : c.dirty = false → c.Persisted t)
    (done : (c.flush t now).1 = .ok ()) {d : CacheDocument}
    (found : stored (c.flush t now).2.2 c.path = .readable d) :
    d.files = c.document.files := by
  rcases flush_cases c t now with ⟨clean, same⟩ | ⟨-, outcome, t', stores, same⟩
  · rw [same] at found
    have persisted := settled clean
    unfold Persisted at persisted
    rw [found] at persisted
    exact persisted.1
  · rw [same] at done found
    cases done
    have read := store_reads stores
    have decoded : CacheDocument.read? (c.writtenText now) = some d := by
      unfold stored at found
      rw [read] at found
      dsimp only at found
      rw [CacheDocument.read?]
      split at found
      · rename_i d' decoded
        cases found
        exact decoded
      · cases found
    cases CacheDocument.eq_of_read? decoded
    rfl

end Conformance.ResultCache
