import Conformance.ResultCache.Entry
import Conformance.Proofs.Dict
import Conformance.Proofs.Document.Reading

/-! Stored values are read as the values they were written from, or not at all. -/
namespace Conformance

namespace Document
variable {α : Type}

/-- What is read from the written form of a value is that value. -/
def Reads (write : α → Document) (read : Document → Option α) : Prop :=
  ∀ a b, read (write a).image = some b → b = a

theorem images_eq_map (items : List Document) : images items = items.map image := by
  induction items with
  | nil => rfl
  | cons d rest ih => rw [images, ih, List.map_cons]

theorem fieldImages_eq_map (fields : List (String × Document)) :
    fieldImages fields = fields.map fun f => (f.1, f.2.image) := by
  induction fields with
  | nil => rfl
  | cons f rest ih => rw [fieldImages, ih, List.map_cons]

theorem image_int (n : Int) :
    (int n).image = int n ∨ (int n).image = decimal n 0 ∨ (int n).image = unreadable := by
  rw [image, Json.readInt]
  split
  · exact .inl rfl
  · split
    · exact .inr (.inr rfl)
    · exact .inr (.inl rfl)

theorem reads_text : Reads text text? := by
  intro a b read
  cases read
  rfl

theorem text_present (s : String) : (text s).image ≠ null := nofun

theorem reads_unsigned (bits : Nat) : Reads ofNat (unsigned? bits) := by
  intro a b read
  rcases image_int a with same | same | same
  all_goals rw [ofNat, same] at read
  · rw [unsigned?] at read
    split at read
    · cases read
      rfl
    · cases read
  · cases read
  · cases read

theorem reads_nat : Reads ofNat nat? := reads_unsigned 64

theorem nat_present (n : Nat) : (ofNat n).image ≠ null := by
  rcases image_int n with same | same | same
  all_goals
    rw [ofNat, same]
    nofun

variable {write : α → Document} {read : Document → Option α}

theorem mapM_eq_some {β : Type} {f : β → Option α} {g : α → β}
    (reads : ∀ a b, f (g a) = some b → b = a) {items out : List α}
    (got : (items.map g).mapM f = some out) : out = items := by
  induction items generalizing out with
  | nil =>
    cases got
    rfl
  | cons a rest ih =>
    rw [List.map_cons, List.mapM_cons] at got
    obtain ⟨b, first, got⟩ := Option.bind_eq_some_iff.1 got
    obtain ⟨others, more, same⟩ := Option.bind_eq_some_iff.1 got
    cases same
    rw [reads a b first, ih more]

theorem reads_list (reads : Reads write read) :
    Reads (fun items => list (items.map write)) (list? read) := by
  intro items out got
  rw [image, images_eq_map, List.map_map, list?] at got
  exact mapM_eq_some reads got

theorem texts?_image (items : List String) : (ofTexts items).image.texts? = some items := by
  rw [ofTexts, image, images_eq_map, List.map_map, texts?, list?]
  induction items with
  | nil => rfl
  | cons t rest ih =>
    rw [List.map_cons, List.mapM_cons, ih]
    rfl

private theorem reads_texts : Reads ofTexts texts? := reads_list reads_text

theorem reads_option (reads : Reads write read) (present : ∀ a, (write a).image ≠ null) :
    Reads (ofOption write) (nullable? read) := by
  intro a b got
  cases a with
  | none =>
    cases got
    rfl
  | some a =>
    rw [ofOption, nullable?] at got
    · obtain ⟨c, found, rfl⟩ := Option.map_eq_some_iff.1 got
      rw [reads a c found]
    · exact present a

private theorem reads_dict (reads : Reads write read) : Reads (ofDict write) (dict? read) := by
  intro d out got
  rw [ofDict, image, fieldImages_eq_map, List.map_map, dict?] at got
  obtain ⟨entries, found, rfl⟩ := Option.map_eq_some_iff.1 got
  have same : entries = d.entries := by
    refine mapM_eq_some (fun a b got => ?_) found
    obtain ⟨v, value, rfl⟩ := Option.map_eq_some_iff.1 got
    rw [reads a.2 v value]
    rfl
  rw [same, Dict.ofList_entries]

private theorem fields?_record {names : List String} {entries : List (String × Document)}
    {fields : Fields} (got : (record entries).fields? names = some fields) :
    fields = { entries := entries.filter fun e => names.contains e.1, inOrder := false } := by
  rw [fields?, fieldsIn?] at got
  simp only [List.partition_eq_filter_filter] at got
  split at got
  · exact (Option.some.inj got).symm
  · cases got

/-- A record with all fields in their order is read as it is. -/
private theorem fields?_of_names {names : List String} {entries : List (String × Document)}
    (spelled : entries.map (·.1) = names) (distinct : names.Nodup) :
    (record entries).fields? names = some { entries, inOrder := false } := by
  have all : entries.filter (fun e => names.contains e.1) = entries := by
    refine List.filter_eq_self.2 fun e member => ?_
    rw [List.contains_iff_mem, ← spelled]
    exact List.mem_map_of_mem member
  rw [fields?, fieldsIn?]
  simp only [List.partition_eq_filter_filter, all]
  refine if_pos ⟨rfl, ?_⟩
  rw [spelled, length_sortedDistinct_of_nodup distinct, ← spelled, List.length_map]

/-- A field that is known by name is the one that was written. -/
theorem raw?_of_fields? {names : List String} {written : List (String × Document)} {fields : Fields}
    (got : (record written).image.fields? names = some fields) (name : String)
    (known : names.contains name = true) :
    fields.raw? name = (written.find? (·.1 == name)).map fun f => f.2.image := by
  rw [image, fieldImages_eq_map] at got
  rw [fields?_record got, Fields.raw?, List.find?_filter, List.find?_map, Option.map_map]
  have same : (fun e : String × Document =>
      decide (names.contains e.1 = true ∧ (e.1 == name) = true)) = fun e => e.1 == name := by
    funext e
    by_cases at? : e.1 = name
    · simpa [at?] using known
    · simp [at?]
  rw [same]
  rfl

section Depth

variable {depth : Nat}

theorem allFit_map (fits : ∀ a, (write a).fits depth = true) (items : List α) :
    allFit depth (items.map write) = true := by
  induction items with
  | nil => rfl
  | cons a rest ih => rw [List.map_cons, allFit, fits a, ih, Bool.true_and]

theorem ofTexts_fits (items : List String) : (ofTexts items).fits (depth + 1) = true := by
  rw [ofTexts, fits]
  exact allFit_map (fun _ => rfl) items

theorem ofOption_fits (fit : ∀ a, (write a).fits depth = true) (a : Option α) :
    (ofOption write a).fits depth = true := by
  cases a with
  | none => rfl
  | some a => exact fit a

private theorem ofDict_fits (fit : ∀ a, (write a).fits depth = true) (d : Dict α) :
    (ofDict write d).fits (depth + 1) = true := by
  rw [ofDict, fits]
  induction d.entries with
  | nil => rfl
  | cons e rest ih => rw [List.map_cons, fieldsFit, fit e.2, ih, Bool.true_and]

end Depth

end Document

namespace Fields
variable {α : Type} {write : α → Document} {read : Document → Option α} {fields : Fields}
  {name : String}

theorem required_of_raw {d : Document} {a : α} (raw : fields.raw? name = some d)
    (value : read d = some a) : fields.required name read = some a := by
  rw [required, raw]
  exact value

theorem required_eq (reads : Document.Reads write read) {a b : α}
    (raw : fields.raw? name = some (write a).image) (got : fields.required name read = some b) :
    b = a := by
  rw [required, raw, Option.bind_some] at got
  exact reads a b got

section Absent

variable (reads : Document.Reads write read) (present : ∀ a, (write a).image ≠ .null)
include reads present

theorem nullable_eq {a b : Option α}
    (raw : fields.raw? name = some (Document.ofOption write a).image)
    (got : fields.nullable name read = some b) : b = a := by
  rw [nullable, raw] at got
  exact Document.reads_option reads present a b got

theorem optional_eq {a b : Option α}
    (raw : fields.raw? name = some (Document.ofOption write a).image)
    (got : fields.optional name read = some b) : b = a := by
  rw [optional, withDefault, raw] at got
  exact Document.reads_option reads present a b got

/-- A field that is left out when absent. -/
theorem optional_whenSome {a b : Option α}
    (raw : fields.raw? name = a.map fun a => (write a).image)
    (got : fields.optional name read = some b) : b = a := by
  rw [optional, withDefault, raw] at got
  cases a with
  | none =>
    cases got
    rfl
  | some a => exact Document.reads_option reads present (some a) b got

end Absent

end Fields

namespace CoverageSpec
open Document

theorem reads : Reads toDocument ofDocument? := by
  intro a b read
  rw [ofDocument?] at read
  obtain ⟨fields, got, read⟩ := Option.bind_eq_some_iff.1 read
  obtain ⟨sourceType, first, read⟩ := Option.bind_eq_some_iff.1 read
  obtain ⟨sourcePattern, second, read⟩ := Option.bind_eq_some_iff.1 read
  obtain ⟨targetPattern, third, read⟩ := Option.bind_eq_some_iff.1 read
  obtain ⟨inTargetFiles, fourth, read⟩ := Option.bind_eq_some_iff.1 read
  have raw := raw?_of_fields? got
  cases Fields.required_eq reads_text (raw "source_type" rfl) first
  cases Fields.optional_eq reads_text text_present (raw "source_pattern" rfl) second
  cases Fields.required_eq reads_text (raw "target_pattern" rfl) third
  cases Fields.required_eq reads_text (raw "in_target_files" rfl) fourth
  cases read
  rfl

theorem fits (spec : CoverageSpec) (depth : Nat) : spec.toDocument.fits (depth + 1) = true := by
  have pattern : (ofOption text spec.sourcePattern).fits depth = true :=
    ofOption_fits (fun _ => rfl) _
  simp only [toDocument, Document.fits, fieldsFit, ofOptionText, pattern, Bool.and_true]

end CoverageSpec

namespace ConstraintValue
open Document

theorem reads : Reads toDocument ofDocument? := by
  intro a b read
  unfold ofDocument? at read
  split at read
  · cases read
  · cases a with
    | number n =>
      rcases image_int n with same | same | same
      all_goals rw [toDocument, same] at read
      · rw [int64?] at read
        split at read
        · cases read
          rfl
        · cases read
      · cases read
      · cases read
    | text t =>
      cases read
      rfl
    | list items =>
      rw [toDocument, texts?_image] at read
      cases read
      rfl
    | coverage spec =>
      obtain ⟨found, got, rfl⟩ := Option.map_eq_some_iff.1 read
      rw [CoverageSpec.reads spec found got]

theorem fits (v : ConstraintValue) (depth : Nat) : v.toDocument.fits (depth + 1) = true := by
  cases v with
  | number | text => rfl
  | list items => exact ofTexts_fits items
  | coverage spec => exact spec.fits depth

end ConstraintValue

namespace Severity
open Document

theorem reads : Reads toDocument (ofDocument? .json) := by
  intro a b read
  cases a <;> cases read <;> rfl

end Severity

namespace FileStatus
open Document

theorem reads : Reads toDocument ofDocument? := by
  intro a b read
  cases a <;> cases read <;> rfl

end FileStatus

namespace Suggestion
open Document

theorem present (s : Suggestion) : s.toDocument.image ≠ .null := by
  cases s <;> nofun

/-- Once the action is known, the two other fields are read from the same record. -/
theorem ofDocument?_replaceImport (old new : String) :
    ofDocument? (replaceImport old new).toDocument.image =
      ((replaceImport old new).toDocument.image.fields? ["from", "to"]).bind fun fields =>
        (fields.required "from" text?).bind fun old =>
          (fields.required "to" text?).bind fun new => some (.replaceImport old new) := by
  have holdable : (replaceImport old new).toDocument.image.isHoldable = true := rfl
  have action : actionOf? (replaceImport old new).toDocument.image =
      some ("replace_import", (replaceImport old new).toDocument.image) := rfl
  rw [ofDocument?, holdable, action]
  rfl

theorem reads : Reads toDocument ofDocument? := by
  intro a b read
  cases a with
  | replaceImport old new =>
    rw [ofDocument?_replaceImport] at read
    obtain ⟨fields, got, read⟩ := Option.bind_eq_some_iff.1 read
    obtain ⟨old', first, read⟩ := Option.bind_eq_some_iff.1 read
    obtain ⟨new', second, read⟩ := Option.bind_eq_some_iff.1 read
    have raw := raw?_of_fields? got
    cases Fields.required_eq reads_text (raw "from" rfl) first
    cases Fields.required_eq reads_text (raw "to" rfl) second
    cases read
    rfl
  | removeImport | addImport | addDecorator | renameFile | createFile =>
    cases read
    rfl

theorem fits (s : Suggestion) (depth : Nat) : s.toDocument.fits (depth + 1) = true := by
  cases s <;> rfl

end Suggestion

namespace Diagnostic
open Document

theorem reads : Reads toDocument ofDocument? := by
  intro a b read
  rw [ofDocument?] at read
  obtain ⟨fields, got, read⟩ := Option.bind_eq_some_iff.1 read
  obtain ⟨code, atCode, read⟩ := Option.bind_eq_some_iff.1 read
  obtain ⟨rule, atRule, read⟩ := Option.bind_eq_some_iff.1 read
  obtain ⟨value, atValue, read⟩ := Option.bind_eq_some_iff.1 read
  obtain ⟨severity, atSeverity, read⟩ := Option.bind_eq_some_iff.1 read
  obtain ⟨line, atLine, read⟩ := Option.bind_eq_some_iff.1 read
  obtain ⟨column, atColumn, read⟩ := Option.bind_eq_some_iff.1 read
  obtain ⟨message, atMessage, read⟩ := Option.bind_eq_some_iff.1 read
  obtain ⟨fixHint, atHint, read⟩ := Option.bind_eq_some_iff.1 read
  obtain ⟨source, atSource, read⟩ := Option.bind_eq_some_iff.1 read
  obtain ⟨suggestion, atSuggestion, read⟩ := Option.bind_eq_some_iff.1 read
  obtain ⟨didYouMean, atMeant, read⟩ := Option.bind_eq_some_iff.1 read
  have raw := raw?_of_fields? got
  cases Fields.required_eq reads_text (raw "code" rfl) atCode
  cases Fields.required_eq reads_text (raw "rule" rfl) atRule
  cases Fields.required_eq ConstraintValue.reads (raw "value" rfl) atValue
  cases Fields.required_eq Severity.reads (raw "severity" rfl) atSeverity
  cases Fields.nullable_eq reads_nat nat_present (raw "line" rfl) atLine
  cases Fields.nullable_eq reads_nat nat_present (raw "column" rfl) atColumn
  cases Fields.required_eq reads_text (raw "message" rfl) atMessage
  cases Fields.required_eq reads_text (raw "fix_hint" rfl) atHint
  cases Fields.nullable_eq reads_text text_present (raw "source" rfl) atSource
  have rawSuggestion : fields.raw? "suggestion" = a.suggestion.map fun s => s.toDocument.image := by
    rw [raw "suggestion" rfl]
    cases a.suggestion <;> cases a.didYouMean <;> rfl
  have rawMeant : fields.raw? "did_you_mean" = a.didYouMean.map fun s => (text s).image := by
    rw [raw "did_you_mean" rfl]
    cases a.suggestion <;> cases a.didYouMean <;> rfl
  cases Fields.optional_whenSome Suggestion.reads Suggestion.present rawSuggestion atSuggestion
  cases Fields.optional_whenSome reads_text text_present rawMeant atMeant
  cases read
  rfl

theorem fits (d : Diagnostic) (depth : Nat) : d.toDocument.fits (depth + 2) = true := by
  have number (n : Option Nat) : (ofOption ofNat n).fits (depth + 1) = true :=
    ofOption_fits (fun _ => rfl) n
  have source : (ofOption text d.source).fits (depth + 1) = true := ofOption_fits (fun _ => rfl) _
  rw [toDocument, Document.recordOf, Document.fits]
  cases d.suggestion <;> cases d.didYouMean <;>
    simp only [whenSome, Option.map_none, Option.map_some, List.filterMap_cons, List.filterMap_nil,
      id, fieldsFit, Document.fits, ConstraintValue.fits, Severity.toDocument, Suggestion.fits, number,
      ofOptionText, source, Bool.and_true]

end Diagnostic

namespace CachedResult
open Document

theorem reads : Reads toDocument ofDocument? := by
  intro a b read
  rw [ofDocument?] at read
  obtain ⟨fields, got, read⟩ := Option.bind_eq_some_iff.1 read
  obtain ⟨checksum, atChecksum, read⟩ := Option.bind_eq_some_iff.1 read
  obtain ⟨cachedAt, atCached, read⟩ := Option.bind_eq_some_iff.1 read
  obtain ⟨archId, atArch, read⟩ := Option.bind_eq_some_iff.1 read
  obtain ⟨status, atStatus, read⟩ := Option.bind_eq_some_iff.1 read
  obtain ⟨violations, atViolations, read⟩ := Option.bind_eq_some_iff.1 read
  obtain ⟨warnings, atWarnings, read⟩ := Option.bind_eq_some_iff.1 read
  obtain ⟨imports, atImports, read⟩ := Option.bind_eq_some_iff.1 read
  obtain ⟨overridesCount, atCount, read⟩ := Option.bind_eq_some_iff.1 read
  have raw := raw?_of_fields? got
  cases Fields.required_eq reads_text (raw "checksum" rfl) atChecksum
  cases Fields.required_eq reads_text (raw "cached_at" rfl) atCached
  cases Fields.nullable_eq reads_text text_present (raw "arch_id" rfl) atArch
  cases Fields.required_eq FileStatus.reads (raw "status" rfl) atStatus
  cases Fields.required_eq (reads_list Diagnostic.reads) (raw "violations" rfl) atViolations
  cases Fields.required_eq (reads_list Diagnostic.reads) (raw "warnings" rfl) atWarnings
  cases Fields.required_eq reads_texts (raw "imports" rfl) atImports
  cases Fields.required_eq reads_nat (raw "overrides_count" rfl) atCount
  cases read
  rfl

theorem fits (e : CachedResult) (depth : Nat) : e.toDocument.fits (depth + 4) = true := by
  have diagnostics (ds : List Diagnostic) := allFit_map (fun d => d.fits depth) ds
  have archId : (ofOption text e.archId).fits (depth + 3) = true := ofOption_fits (fun _ => rfl) _
  simp only [toDocument, Document.fits, fieldsFit, FileStatus.toDocument, ofOptionText, archId,
    diagnostics, ofTexts_fits, ofNat, Bool.and_true]

end CachedResult

namespace CacheDocument
open Document

theorem reads : Reads toDocument ofDocument? := by
  intro a b read
  rw [ofDocument?] at read
  obtain ⟨fields, got, read⟩ := Option.bind_eq_some_iff.1 read
  obtain ⟨version, atVersion, read⟩ := Option.bind_eq_some_iff.1 read
  obtain ⟨registry, atRegistry, read⟩ := Option.bind_eq_some_iff.1 read
  obtain ⟨config, atConfig, read⟩ := Option.bind_eq_some_iff.1 read
  obtain ⟨created, atCreated, read⟩ := Option.bind_eq_some_iff.1 read
  obtain ⟨updated, atUpdated, read⟩ := Option.bind_eq_some_iff.1 read
  obtain ⟨files, atFiles, read⟩ := Option.bind_eq_some_iff.1 read
  have raw := raw?_of_fields? got
  cases Fields.required_eq (reads_unsigned 32) (raw "version" rfl) atVersion
  cases Fields.required_eq reads_text (raw "registry_checksum" rfl) atRegistry
  cases Fields.required_eq reads_text (raw "config_checksum" rfl) atConfig
  cases Fields.required_eq reads_text (raw "created_at" rfl) atCreated
  cases Fields.required_eq reads_text (raw "updated_at" rfl) atUpdated
  cases Fields.required_eq (reads_dict CachedResult.reads) (raw "files" rfl) atFiles
  cases read
  rfl

theorem fits (c : CacheDocument) (depth : Nat) : c.toDocument.fits (depth + 6) = true := by
  have files := ofDict_fits (fun e => CachedResult.fits e depth) c.files
  simp only [toDocument, Document.fits, fieldsFit, ofNat, files, Bool.and_true]

/-- The document that a text holds. -/
def read? (text : String) : Option CacheDocument := (Json.scan? text).bind ofDocument?

theorem read?_writeIndented (c : CacheDocument) :
    read? (Json.writeIndented c.toDocument) = ofDocument? c.toDocument.image := by
  rw [read?, Json.scan?_writeIndented (c.fits 121), Option.bind_some]

/-- A stored document is read as it was written, if it is read at all. -/
theorem eq_of_read? {c d : CacheDocument}
    (read : read? (Json.writeIndented c.toDocument) = some d) : d = c := by
  rw [read?_writeIndented] at read
  exact reads c d read

/-- It is read if its version and its entries are. -/
theorem read?_of_parts {c : CacheDocument}
    (version : (ofNat c.version).image.unsigned? 32 = some c.version)
    (files : (ofDict CachedResult.toDocument c.files).image.dict? CachedResult.ofDocument? =
      some c.files) : read? (Json.writeIndented c.toDocument) = some c := by
  have image : c.toDocument.image = record [
      ("version", (ofNat c.version).image), ("registry_checksum", text c.registryChecksum),
      ("config_checksum", text c.configChecksum), ("created_at", text c.createdAt),
      ("updated_at", text c.updatedAt),
      ("files", (ofDict CachedResult.toDocument c.files).image)] := rfl
  rw [read?_writeIndented, image]
  generalize (ofDict CachedResult.toDocument c.files).image = written at files
  generalize (ofNat c.version).image = form at version
  unfold ofDocument?
  refine Option.bind_eq_some_iff.2 ⟨_, fields?_of_names rfl (by decide), ?_⟩
  refine Option.bind_eq_some_iff.2 ⟨c.version, Fields.required_of_raw rfl version, ?_⟩
  refine Option.bind_eq_some_iff.2 ⟨c.registryChecksum, rfl, ?_⟩
  refine Option.bind_eq_some_iff.2 ⟨c.configChecksum, rfl, ?_⟩
  refine Option.bind_eq_some_iff.2 ⟨c.createdAt, rfl, ?_⟩
  refine Option.bind_eq_some_iff.2 ⟨c.updatedAt, rfl, ?_⟩
  exact Option.bind_eq_some_iff.2 ⟨c.files, Fields.required_of_raw rfl files, rfl⟩

end CacheDocument

end Conformance
