import Conformance.Proofs.Document.Codecs

/-! Stored values with numbers that their fields have room for are read as they were written. -/
namespace Conformance

namespace Document
variable {α : Type} {write : α → Document} {read : Document → Option α}

/-- The value is read as it was written. -/
def ReadsBack (write : α → Document) (read : Document → Option α) (a : α) : Prop :=
  read (write a).image = some a

theorem image_of_int {n : Int} (fits : -(Nat.pow 2 63) ≤ n ∧ n < Nat.pow 2 64) :
    (int n).image = int n := by
  rw [image, Json.readInt, if_pos fits]

theorem readsBack_text (s : String) : ReadsBack text text? s := rfl

theorem readsBack_unsigned {bits n : Nat} (narrow : bits ≤ 64) (fits : n < Nat.pow 2 bits) :
    ReadsBack ofNat (unsigned? bits) n := by
  have bound : Nat.pow 2 bits ≤ Nat.pow 2 64 := Nat.pow_le_pow_right (by decide) narrow
  have small : (n : Int) < Nat.pow 2 bits := Int.ofNat_lt.2 fits
  have image : (int n).image = int n := image_of_int (by omega)
  rw [ReadsBack, ofNat, image, unsigned?, if_pos ⟨by omega, small⟩, Int.toNat_natCast]

theorem readsBack_nat {n : Nat} (fits : n < Nat.pow 2 64) : ReadsBack ofNat nat? n :=
  readsBack_unsigned (Nat.le_refl 64) fits

theorem mapM_of_each {β : Type} {f : β → Option α} {g : α → β} {items : List α}
    (each : ∀ a ∈ items, f (g a) = some a) : (items.map g).mapM f = some items := by
  induction items with
  | nil => rfl
  | cons a rest ih =>
    have others := ih fun b inside => each b (List.mem_cons_of_mem a inside)
    rw [List.map_cons, List.mapM_cons, each a List.mem_cons_self, others]
    rfl

theorem readsBack_list {items : List α} (each : ∀ a ∈ items, ReadsBack write read a) :
    ReadsBack (fun items => list (items.map write)) (list? read) items := by
  rw [ReadsBack, image, images_eq_map, List.map_map, list?]
  exact mapM_of_each each

theorem readsBack_option {a : Option α} (each : ∀ b, a = some b → ReadsBack write read b)
    (present : ∀ a, (write a).image ≠ null) : ReadsBack (ofOption write) (nullable? read) a := by
  cases a with
  | none => rfl
  | some b =>
    have value : read (write b).image = some b := each b rfl
    rw [ReadsBack, ofOption, nullable?]
    · rw [value]
      rfl
    · exact present b

theorem readsBack_optionText (s : Option String) : ReadsBack ofOptionText (nullable? text?) s :=
  readsBack_option (fun _ _ => readsBack_text _) text_present

private theorem ofTexts_isHoldable (items : List String) :
    (ofTexts items).image.isHoldable = true := by
  rw [ofTexts, image, images_eq_map, List.map_map, isHoldable]
  induction items with
  | nil => rfl
  | cons t rest ih => exact ih

private theorem readsBack_dict {d : Dict α}
    (each : ∀ name a, d.find? name = some a → ReadsBack write read a) :
    ReadsBack (ofDict write) (dict? read) d := by
  rw [ReadsBack, ofDict, image, fieldImages_eq_map, List.map_map, dict?]
  refine Option.map_eq_some_iff.2 ⟨d.entries, mapM_of_each fun e inside => ?_, Dict.ofList_entries d⟩
  have value : read (write e.2).image = some e.2 := each e.1 e.2 (Dict.find?_eq_some.2 inside)
  exact Option.map_eq_some_iff.2 ⟨e.2, value, rfl⟩

/-- A record without repeated fields is read, whichever of its fields are known. -/
theorem fields?_of_nodup {written : List (String × Document)} (names : List String)
    (distinct : (written.map (·.1)).Nodup) :
    ∃ fields, (record written).image.fields? names = some fields := by
  have same : (fieldImages written).map (·.1) = written.map (·.1) := by
    rw [fieldImages_eq_map, List.map_map]
    rfl
  have known : (((fieldImages written).filter fun e => names.contains e.1).map (·.1)).Nodup := by
    refine List.Sublist.nodup (List.filter_sublist.map _) ?_
    rw [same]
    exact distinct
  rw [image, fields?, fieldsIn?]
  simp only [List.partition_eq_filter_filter]
  refine ⟨_, if_pos ⟨rfl, ?_⟩⟩
  rw [length_sortedDistinct_of_nodup known, List.length_map]

end Document

namespace Fields
variable {α : Type} {write : α → Document} {read : Document → Option α} {fields : Fields}
  {name : String}

theorem nullable_of_raw {d : Document} {a : Option α} (raw : fields.raw? name = some d)
    (value : d.nullable? read = some a) : fields.nullable name read = some a := by
  rw [nullable, raw]
  exact value

/-- A field that is left out when absent. -/
theorem optional_of_whenSome {a : Option α} (raw : fields.raw? name = a.map fun a => (write a).image)
    (each : ∀ b, a = some b → Document.ReadsBack write read b)
    (present : ∀ a, (write a).image ≠ .null) : fields.optional name read = some a := by
  rw [optional, withDefault, raw]
  cases a with
  | none => rfl
  | some b => exact Document.readsBack_option each present

end Fields

namespace CoverageSpec
open Document

theorem readsBack (spec : CoverageSpec) : ReadsBack toDocument ofDocument? spec := by
  have distinct : ["source_type", "source_pattern", "target_pattern", "in_target_files"].Nodup := by
    decide
  obtain ⟨fields, got⟩ : ∃ fields, spec.toDocument.image.fields? _ = some fields :=
    fields?_of_nodup _ distinct
  have raw := raw?_of_fields? got
  rw [ReadsBack, ofDocument?]
  refine Option.bind_eq_some_iff.2 ⟨fields, got, ?_⟩
  refine Option.bind_eq_some_iff.2 ⟨_, Fields.required_of_raw (raw "source_type" rfl) rfl, ?_⟩
  have pattern : fields.optional "source_pattern" text? = some spec.sourcePattern := by
    rw [Fields.optional, Fields.withDefault, raw "source_pattern" rfl]
    exact readsBack_optionText spec.sourcePattern
  refine Option.bind_eq_some_iff.2 ⟨_, pattern, ?_⟩
  refine Option.bind_eq_some_iff.2 ⟨_, Fields.required_of_raw (raw "target_pattern" rfl) rfl, ?_⟩
  exact Option.bind_eq_some_iff.2
    ⟨_, Fields.required_of_raw (raw "in_target_files" rfl) rfl, rfl⟩

theorem isHoldable (spec : CoverageSpec) : spec.toDocument.image.isHoldable = true := by
  obtain ⟨_, _ | _, _, _⟩ := spec <;> rfl

end CoverageSpec

namespace ConstraintValue
open Document

/-- A number has room in its field. -/
def Storable : ConstraintValue → Prop
  | number n => -(Nat.pow 2 63) ≤ n ∧ n < Nat.pow 2 63
  | _ => True

theorem readsBack {v : ConstraintValue} (storable : v.Storable) :
    ReadsBack toDocument ofDocument? v := by
  unfold ReadsBack ofDocument?
  cases v with
  | number n =>
    obtain ⟨low, high⟩ := storable
    have wider : n < Nat.pow 2 64 := Int.lt_trans high (by decide)
    have image : (int n).image = int n := image_of_int ⟨low, wider⟩
    have holdable : (int n).isHoldable = true := by
      simp only [Document.isHoldable, Bool.and_eq_true, decide_eq_true_eq]
      exact ⟨low, wider⟩
    rw [toDocument, image, holdable]
    simp only [int64?, if_pos (And.intro low high)]
    rfl
  | text t => rfl
  | list items =>
    rw [toDocument, texts?_image, ofTexts_isHoldable]
    rfl
  | coverage spec =>
    have value : CoverageSpec.ofDocument? spec.toDocument.image = some spec := spec.readsBack
    rw [toDocument, spec.isHoldable, value]
    rfl

end ConstraintValue

namespace Severity
open Document

theorem readsBack (s : Severity) : ReadsBack toDocument (ofDocument? .json) s := by
  cases s <;> rfl

end Severity

namespace FileStatus
open Document

theorem readsBack (s : FileStatus) : ReadsBack toDocument ofDocument? s := by
  cases s <;> rfl

end FileStatus

namespace Suggestion
open Document

theorem readsBack (s : Suggestion) : ReadsBack toDocument ofDocument? s := by
  cases s with
  | replaceImport old new =>
    have known : ∃ fields, (replaceImport old new).toDocument.image.fields? ["from", "to"] =
        some fields := by
      have distinct : ["action", "from", "to"].Nodup := by decide
      exact fields?_of_nodup _ distinct
    obtain ⟨fields, got⟩ := known
    have raw := raw?_of_fields? got
    rw [ReadsBack, ofDocument?_replaceImport]
    refine Option.bind_eq_some_iff.2 ⟨fields, got, ?_⟩
    refine Option.bind_eq_some_iff.2 ⟨_, Fields.required_of_raw (raw "from" rfl) rfl, ?_⟩
    exact Option.bind_eq_some_iff.2 ⟨_, Fields.required_of_raw (raw "to" rfl) rfl, rfl⟩
  | removeImport | addImport | addDecorator | renameFile | createFile => rfl

end Suggestion

namespace Diagnostic
open Document

/-- The numbers of a diagnostic have room in their fields. -/
structure Storable (d : Diagnostic) : Prop where
  value : d.value.Storable
  line : ∀ n, d.line = some n → n < Nat.pow 2 64
  column : ∀ n, d.column = some n → n < Nat.pow 2 64

private theorem fields?_image (d : Diagnostic) (names : List String) :
    ∃ fields, d.toDocument.image.fields? names = some fields := by
  have distinct : ["code", "rule", "value", "severity", "line", "column", "message", "fix_hint",
      "source", "suggestion", "did_you_mean"].Nodup := by
    decide
  refine fields?_of_nodup names (List.Sublist.nodup ?_ distinct)
  cases d.suggestion <;> cases d.didYouMean <;> exact List.isSublist_iff_sublist.1 rfl

theorem readsBack {d : Diagnostic} (storable : d.Storable) : ReadsBack toDocument ofDocument? d := by
  obtain ⟨fields, got⟩ := d.fields?_image _
  rw [ReadsBack, ofDocument?]
  refine Option.bind_eq_some_iff.2 ⟨fields, got, ?_⟩
  have raw := raw?_of_fields? got
  have number (n : Option Nat) (fits : ∀ m, n = some m → m < Nat.pow 2 64) :
      (ofOption ofNat n).image.nullable? nat? = some n :=
    readsBack_option (fun m same => readsBack_nat (fits m same)) nat_present
  have rawSuggestion : fields.raw? "suggestion" = d.suggestion.map fun s => s.toDocument.image := by
    rw [raw "suggestion" rfl]
    cases d.suggestion <;> cases d.didYouMean <;> rfl
  have rawMeant : fields.raw? "did_you_mean" = d.didYouMean.map fun s => (text s).image := by
    rw [raw "did_you_mean" rfl]
    cases d.suggestion <;> cases d.didYouMean <;> rfl
  have source := readsBack_optionText d.source
  refine Option.bind_eq_some_iff.2 ⟨_, Fields.required_of_raw (raw "code" rfl) rfl, ?_⟩
  refine Option.bind_eq_some_iff.2 ⟨_, Fields.required_of_raw (raw "rule" rfl) rfl, ?_⟩
  refine Option.bind_eq_some_iff.2
    ⟨_, Fields.required_of_raw (raw "value" rfl) (ConstraintValue.readsBack storable.value), ?_⟩
  refine Option.bind_eq_some_iff.2
    ⟨_, Fields.required_of_raw (raw "severity" rfl) (Severity.readsBack d.severity), ?_⟩
  refine Option.bind_eq_some_iff.2
    ⟨_, Fields.nullable_of_raw (raw "line" rfl) (number d.line storable.line), ?_⟩
  refine Option.bind_eq_some_iff.2
    ⟨_, Fields.nullable_of_raw (raw "column" rfl) (number d.column storable.column), ?_⟩
  refine Option.bind_eq_some_iff.2 ⟨_, Fields.required_of_raw (raw "message" rfl) rfl, ?_⟩
  refine Option.bind_eq_some_iff.2 ⟨_, Fields.required_of_raw (raw "fix_hint" rfl) rfl, ?_⟩
  refine Option.bind_eq_some_iff.2 ⟨_, Fields.nullable_of_raw (raw "source" rfl) source, ?_⟩
  refine Option.bind_eq_some_iff.2 ⟨_, Fields.optional_of_whenSome rawSuggestion
    (fun s _ => s.readsBack) Suggestion.present, ?_⟩
  exact Option.bind_eq_some_iff.2 ⟨_, Fields.optional_of_whenSome rawMeant
    (fun s _ => readsBack_text s) text_present, rfl⟩

end Diagnostic

namespace CachedResult
open Document

/-- The numbers of a stored result have room in their fields. -/
structure Storable (e : CachedResult) : Prop where
  violations : ∀ d ∈ e.violations, d.Storable
  warnings : ∀ d ∈ e.warnings, d.Storable
  overridesCount : e.overridesCount < Nat.pow 2 64

theorem readsBack {e : CachedResult} (storable : e.Storable) :
    ReadsBack toDocument ofDocument? e := by
  have distinct : ["checksum", "cached_at", "arch_id", "status", "violations", "warnings", "imports",
      "overrides_count"].Nodup := by
    decide
  obtain ⟨fields, got⟩ : ∃ fields, e.toDocument.image.fields? _ = some fields :=
    fields?_of_nodup _ distinct
  have raw := raw?_of_fields? got
  have violations : ReadsBack _ _ e.violations :=
    readsBack_list fun d inside => Diagnostic.readsBack (storable.violations d inside)
  have warnings : ReadsBack _ _ e.warnings :=
    readsBack_list fun d inside => Diagnostic.readsBack (storable.warnings d inside)
  rw [ReadsBack, ofDocument?]
  refine Option.bind_eq_some_iff.2 ⟨fields, got, ?_⟩
  refine Option.bind_eq_some_iff.2 ⟨_, Fields.required_of_raw (raw "checksum" rfl) rfl, ?_⟩
  refine Option.bind_eq_some_iff.2 ⟨_, Fields.required_of_raw (raw "cached_at" rfl) rfl, ?_⟩
  refine Option.bind_eq_some_iff.2
    ⟨_, Fields.nullable_of_raw (raw "arch_id" rfl) (readsBack_optionText e.archId), ?_⟩
  refine Option.bind_eq_some_iff.2
    ⟨_, Fields.required_of_raw (raw "status" rfl) (FileStatus.readsBack e.status), ?_⟩
  refine Option.bind_eq_some_iff.2
    ⟨_, Fields.required_of_raw (raw "violations" rfl) violations, ?_⟩
  refine Option.bind_eq_some_iff.2 ⟨_, Fields.required_of_raw (raw "warnings" rfl) warnings, ?_⟩
  refine Option.bind_eq_some_iff.2
    ⟨_, Fields.required_of_raw (raw "imports" rfl) (texts?_image e.imports), ?_⟩
  exact Option.bind_eq_some_iff.2 ⟨_, Fields.required_of_raw (raw "overrides_count" rfl)
    (readsBack_nat storable.overridesCount), rfl⟩

end CachedResult

namespace CacheDocument
open Document

/-- A document with room for its numbers is read as it was written. -/
theorem read?_of_storable {c : CacheDocument} (version : c.version < Nat.pow 2 32)
    (storable : ∀ path e, c.files.find? path = some e → e.Storable) :
    read? (Json.writeIndented c.toDocument) = some c :=
  read?_of_parts (readsBack_unsigned (by decide) version)
    (readsBack_dict fun path e found => CachedResult.readsBack (storable path e found))

end CacheDocument

end Conformance
