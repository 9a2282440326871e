import Conformance.Proofs.Document.Values
import Conformance.Proofs.ResultCache.Log

/-! Stored results survive being written: a cache that is flushed is loaded again as it was, and so
is every value in it. -/
namespace Conformance.ResultCache

variable {c : ResultCache} {t : FileTree}

/-- A cache whose entries stand in the tree is loaded with them, and with nothing to count. -/
theorem load_of_persisted (persisted : c.Persisted t) (now : String) :
    (load t c.path c.document.registryChecksum c.document.configChecksum now).document.files =
      c.document.files ∧
    (load t c.path c.document.registryChecksum c.document.configChecksum now).stats = {} := by
  unfold Persisted at persisted
  unfold load start
  cases found : stored t c.path with
  | absent =>
    rw [found] at persisted
    exact ⟨persisted.symm, rfl⟩
  | broken =>
    rw [found] at persisted
    cases persisted
  | readable d =>
    simp only [found] at persisted ⊢
    rw [if_pos persisted.2]
    exact ⟨persisted.1, rfl⟩

/-- A cache that has something to write is sound with any tree. -/
theorem Sound.of_dirty (sound : c.Sound t) (dirty : c.dirty = true) (t' : FileTree) :
    c.Sound t' where
  version := sound.version
  room := sound.room
  clean clean := by
    rw [dirty] at clean
    cases clean

/-- A cache that was flushed is loaded with the same entries for its registry and configuration, and
every value that has room for its numbers is decoded from what it is encoded as. -/
theorem stored_results_round_trip :
    (∀ log c t, Reaches log c t → ∀ t', t' = t ∨ c.dirty = true →
      ∀ now, (c.flush t' now).1 = .ok () → ∀ later,
        let again := load (c.flush t' now).2.2 c.path c.document.registryChecksum
          c.document.configChecksum later
        again.document.files = c.document.files ∧ again.stats.fullInvalidation = false ∧
          again.stats.invalidated = 0) ∧
    (∀ v : ConstraintValue, v.Storable → ConstraintValue.ofDocument? v.toDocument = some v) ∧
    (∀ c : Constraint, c.value.Storable → Constraint.ofDocument? .json c.toDocument = some c) ∧
    (∀ d : Diagnostic, d.Storable → Diagnostic.ofDocument? d.toDocument = some d) ∧
    ∀ e : CachedResult, e.Storable → CachedResult.ofDocument? e.toDocument = some e := by
  refine ⟨?_, ?_, ?_, ?_, ?_⟩
  · intro log c t reached t' tree now done later
    have sound : c.Sound t' := by
      rcases tree with rfl | dirty
      · exact reached.sound
      · exact reached.sound.of_dirty dirty t'
    obtain ⟨files, stats⟩ := load_of_persisted (sound.persisted_of_flush done) later
    refine ⟨files, ?_, ?_⟩
    · rw [stats]
    · rw [stats]
  · intro v storable
    exact (ConstraintValue.readsBack storable).value
      (ConstraintValue.toDocument_isHoldable storable)
  · intro c storable
    exact (Constraint.readsBack storable).value (Constraint.toDocument_isHoldable storable)
  · intro d storable
    exact (Diagnostic.readsBack storable).value (Diagnostic.toDocument_isHoldable storable)
  · intro e storable
    exact (CachedResult.readsBack storable).value (CachedResult.toDocument_isHoldable storable)

namespace Shapes

/-- A diagnostic about a value of some shape. -/
def about (value : ConstraintValue) : Diagnostic where
  code := "E027"
  rule := "require_coverage"
  value
  severity := .warning
  line := some 3
  message := "\"a\" is not covered"
  fixHint := ""
  suggestion := some (.replaceImport "a" "b")

def coverage : ConstraintValue :=
  .coverage { sourceType := "export", targetPattern := "x", inTargetFiles := "src/*" }

/-- A result with a diagnostic for each shape of values. -/
def result : CachedResult where
  checksum := "sum"
  cachedAt := "t"
  archId := some "svc"
  status := .fail
  violations := [about (.number (-1)), about (.text "1")]
  warnings := [about (.list ["1"]), about coverage]
  imports := ["b.ts"]
  overridesCount := 2

theorem about_storable {value : ConstraintValue} (storable : value.Storable) :
    (about value).Storable := by
  refine ⟨storable, ?_, nofun⟩
  rintro _ ⟨⟩
  decide

private theorem result_storable : result.Storable := by
  have number : (ConstraintValue.number (-1)).Storable := ⟨by decide, by decide⟩
  refine ⟨?_, ?_, by decide⟩
  · rw [result, List.forall_mem_cons, List.forall_mem_singleton]
    exact ⟨about_storable number, about_storable trivial⟩
  · rw [result, List.forall_mem_cons, List.forall_mem_singleton]
    exact ⟨about_storable trivial, about_storable trivial⟩

end Shapes

open Shapes in
theorem every_shape_is_loaded_again : ∃ c t,
    Reaches [.put "a.ts" result, .loaded .absent "r" "k"] c t ∧ (c.flush t "t").1 = .ok () ∧
      (load (c.flush t "t").2.2 c.path c.document.registryChecksum c.document.configChecksum
        "t").peek? "a.ts" "sum" = some result ∧
      ConstraintValue.ofDocument? coverage.toDocument = some coverage := by
  have reached : Reaches [.put "a.ts" result, .loaded .absent "r" "k"] _ _ :=
    (Reaches.start {} "/c.json" "r" "k" "t").put "a.ts" result_storable
  obtain ⟨restores, decodes, -⟩ := stored_results_round_trip
  have written : (((load {} "/c.json" "r" "k" "t").put "a.ts" result).flush {} "t").1 = .ok () := by
    rfl
  obtain ⟨files, -⟩ := restores _ _ _ reached _ (.inl rfl) "t" written "t"
  have held : ((load {} "/c.json" "r" "k" "t").put "a.ts" result).document.files.find? "a.ts" =
      some result := by
    rw [put, Dict.find?_insert, if_pos rfl]
  rw [← files] at held
  exact ⟨_, _, reached, written, peek?_eq_some.2 ⟨held, rfl⟩, decodes coverage trivial⟩

end Conformance.ResultCache
