import Conformance.Proofs.Document.Storable

/-! Whatever is decoded has room: the numbers in a document that can be read are those that its
fields may hold. -/
namespace Conformance

namespace Document
variable {α : Type} {read : Document → Option α} {has : α → Prop}

/-- Whatever is decoded has a property. -/
def Yields (read : Document → Option α) (has : α → Prop) : Prop :=
  ∀ d a, read d = some a → has a

theorem yields_unsigned (bits : Nat) : Yields (unsigned? bits) (· < Nat.pow 2 bits) := by
  intro d n got
  cases d with
  | int m =>
    rw [unsigned?] at got
    split at got
    · rename_i fits
      cases got
      omega
    · cases got
  | null | bool | decimal | text | list | record | unreadable => cases got

theorem mem_of_mapM {β : Type} {f : β → Option α} {items : List β} {out : List α}
    (got : items.mapM f = some out) {a : α} (member : a ∈ out) : ∃ b, f b = some a := by
  induction items generalizing out with
  | nil =>
    cases got
    cases member
  | cons b rest ih =>
    rw [List.mapM_cons] at got
    obtain ⟨first, here, got⟩ := Option.bind_eq_some_iff.1 got
    obtain ⟨others, there, same⟩ := Option.bind_eq_some_iff.1 got
    cases same
    rcases List.mem_cons.1 member with rfl | later
    · exact ⟨b, here⟩
    · exact ih there later

theorem yields_list (each : Yields read has) : Yields (list? read) fun as => ∀ a ∈ as, has a := by
  intro d as got a member
  cases d with
  | list items =>
    obtain ⟨item, value⟩ := mem_of_mapM got member
    exact each item a value
  | null | bool | int | decimal | text | record | unreadable => cases got

private theorem yields_dict (each : Yields read has) :
    Yields (dict? read) fun d => ∀ key a, d.find? key = some a → has a := by
  intro doc d got key a found
  cases doc with
  | record fields =>
    obtain ⟨entries, decoded, rfl⟩ := Option.map_eq_some_iff.1 got
    rw [Dict.find?_ofList] at found
    obtain ⟨entry, first, rfl⟩ := Option.map_eq_some_iff.1 found
    have member := List.mem_reverse.1 (List.mem_of_find?_eq_some first)
    obtain ⟨field, paired⟩ := mem_of_mapM decoded member
    obtain ⟨b, value, rfl⟩ := Option.map_eq_some_iff.1 paired
    exact each field.2 b value
  | null | bool | int | decimal | text | list | unreadable => cases got

end Document

namespace Fields
open Document
variable {α : Type} {read : Document → Option α} {has : α → Prop} {fields : Fields} {name : String}

theorem of_required (each : Yields read has) {a : α} (got : fields.required name read = some a) :
    has a := by
  obtain ⟨d, -, value⟩ := Option.bind_eq_some_iff.1 got
  exact each d a value

theorem of_nullable (each : Yields read has) {a : Option α}
    (got : fields.nullable name read = some a) : ∀ b, a = some b → has b := by
  rintro b rfl
  unfold nullable at got
  split at got
  · split at got <;> cases got
  · unfold nullable? at got
    split at got
    · cases got
    · obtain ⟨_, value, same⟩ := Option.map_eq_some_iff.1 got
      cases same
      exact each _ b value

end Fields

section Room
open Document

theorem ConstraintValue.yields_storable :
    Yields ConstraintValue.ofDocument? ConstraintValue.Storable := by
  intro d v got
  unfold ofDocument? at got
  split at got
  · cases got
  · cases v with
    | text | list | coverage => trivial
    | number n =>
      have read : d.int64? = some n := by
        simpa [Option.or_eq_some_iff] using got
      unfold int64? at read
      split at read
      · split at read
        · rename_i fits
          cases read
          exact fits
        · cases read
      · cases read

theorem Diagnostic.yields_storable : Yields Diagnostic.ofDocument? Diagnostic.Storable := by
  intro d a read
  obtain ⟨fields, -, read⟩ := Option.bind_eq_some_iff.1 read
  obtain ⟨code, -, read⟩ := Option.bind_eq_some_iff.1 read
  obtain ⟨rule, -, read⟩ := Option.bind_eq_some_iff.1 read
  obtain ⟨value, atValue, read⟩ := Option.bind_eq_some_iff.1 read
  obtain ⟨severity, -, read⟩ := Option.bind_eq_some_iff.1 read
  obtain ⟨line, atLine, read⟩ := Option.bind_eq_some_iff.1 read
  obtain ⟨column, atColumn, read⟩ := Option.bind_eq_some_iff.1 read
  obtain ⟨message, -, read⟩ := Option.bind_eq_some_iff.1 read
  obtain ⟨fixHint, -, read⟩ := Option.bind_eq_some_iff.1 read
  obtain ⟨source, -, read⟩ := Option.bind_eq_some_iff.1 read
  obtain ⟨suggestion, -, read⟩ := Option.bind_eq_some_iff.1 read
  obtain ⟨didYouMean, -, read⟩ := Option.bind_eq_some_iff.1 read
  cases read
  exact ⟨Fields.of_required ConstraintValue.yields_storable atValue,
    Fields.of_nullable (yields_unsigned 64) atLine,
    Fields.of_nullable (yields_unsigned 64) atColumn⟩

theorem CachedResult.yields_storable : Yields CachedResult.ofDocument? CachedResult.Storable := by
  intro d a read
  obtain ⟨fields, -, read⟩ := Option.bind_eq_some_iff.1 read
  obtain ⟨checksum, -, read⟩ := Option.bind_eq_some_iff.1 read
  obtain ⟨cachedAt, -, read⟩ := Option.bind_eq_some_iff.1 read
  obtain ⟨archId, -, read⟩ := Option.bind_eq_some_iff.1 read
  obtain ⟨status, -, read⟩ := Option.bind_eq_some_iff.1 read
  obtain ⟨violations, atViolations, read⟩ := Option.bind_eq_some_iff.1 read
  obtain ⟨warnings, atWarnings, read⟩ := Option.bind_eq_some_iff.1 read
  obtain ⟨imports, -, read⟩ := Option.bind_eq_some_iff.1 read
  obtain ⟨overridesCount, atCount, read⟩ := Option.bind_eq_some_iff.1 read
  cases read
  exact ⟨Fields.of_required (yields_list Diagnostic.yields_storable) atViolations,
    Fields.of_required (yields_list Diagnostic.yields_storable) atWarnings,
    Fields.of_required (yields_unsigned 64) atCount⟩

/-- The entries of a stored document have room, however it came about. -/
theorem CacheDocument.yields_storable : Yields CacheDocument.ofDocument? fun c =>
    ∀ path e, c.files.find? path = some e → e.Storable := by
  intro d a read
  obtain ⟨fields, -, read⟩ := Option.bind_eq_some_iff.1 read
  obtain ⟨version, -, read⟩ := Option.bind_eq_some_iff.1 read
  obtain ⟨registry, -, read⟩ := Option.bind_eq_some_iff.1 read
  obtain ⟨config, -, read⟩ := Option.bind_eq_some_iff.1 read
  obtain ⟨created, -, read⟩ := Option.bind_eq_some_iff.1 read
  obtain ⟨updated, -, read⟩ := Option.bind_eq_some_iff.1 read
  obtain ⟨files, atFiles, read⟩ := Option.bind_eq_some_iff.1 read
  cases read
  exact Fields.of_required (yields_dict CachedResult.yields_storable) atFiles

end Room

end Conformance
