import Conformance.Proofs.Canonical
import Conformance.Proofs.Document.Storable

/-! Values with room for their numbers are decoded from what they are encoded as. A field that is
left out when it holds nothing is filled in again. -/
namespace Conformance

namespace Document
variable {α : Type}

mutual

/-- A document that can be kept aside is read as it was written. -/
theorem image_of_isHoldable : (d : Document) → d.isHoldable = true → d.image = d
  | null, _ | bool _, _ | decimal _ _, _ | text _, _ => rfl
  | int n, fits => by
    simp only [isHoldable, Bool.and_eq_true, decide_eq_true_eq] at fits
    exact image_of_int fits
  | list items, held => congrArg list (images_of_areHoldable items held)
  | record fields, held => congrArg record (fieldImages_of_haveHoldable fields held)
  | unreadable, held => nomatch held

theorem images_of_areHoldable : (items : List Document) → areHoldable items = true →
    images items = items
  | [], _ => rfl
  | d :: rest, held => by
    rw [areHoldable, Bool.and_eq_true] at held
    rw [images, image_of_isHoldable d held.1, images_of_areHoldable rest held.2]

theorem fieldImages_of_haveHoldable : (fields : List (String × Document)) →
    haveHoldable fields = true → fieldImages fields = fields
  | [], _ => rfl
  | (name, d) :: rest, held => by
    rw [haveHoldable, Bool.and_eq_true] at held
    rw [fieldImages, image_of_isHoldable d held.1, fieldImages_of_haveHoldable rest held.2]

end

theorem ReadsBack.value {write : α → Document} {read : Document → Option α} {a : α}
    (back : ReadsBack write read a) (held : (write a).isHoldable = true) :
    read (write a) = some a := by
  rwa [ReadsBack, image_of_isHoldable _ held] at back

theorem areHoldable_map {write : α → Document} {items : List α}
    (each : ∀ a ∈ items, (write a).isHoldable = true) : areHoldable (items.map write) = true := by
  induction items with
  | nil => rfl
  | cons a rest ih =>
    have others := ih fun b inside => each b (List.mem_cons_of_mem a inside)
    rw [List.map_cons, areHoldable, each a List.mem_cons_self, others, Bool.true_and]

theorem texts_areHoldable (items : List String) : areHoldable (items.map text) = true :=
  areHoldable_map fun _ _ => rfl

theorem haveHoldable_iff {fields : List (String × Document)} :
    haveHoldable fields = true ↔ ∀ f ∈ fields, f.2.isHoldable = true := by
  induction fields with
  | nil => simp [haveHoldable]
  | cons f rest ih => simp [haveHoldable, ih]

theorem nat_isHoldable {n : Nat} (fits : n < Nat.pow 2 64) : (ofNat n).isHoldable = true := by
  have small : (n : Int) < Nat.pow 2 64 := Int.ofNat_lt.2 fits
  simp only [ofNat, isHoldable, Bool.and_eq_true, decide_eq_true_eq]
  exact ⟨by omega, small⟩

theorem option_isHoldable {write : α → Document} {a : Option α}
    (each : ∀ b, a = some b → (write b).isHoldable = true) :
    (ofOption write a).isHoldable = true := by
  cases a with
  | none => rfl
  | some b => exact each b rfl

theorem recordOf_isHoldable {fields : List (Option (String × Document))}
    (each : ∀ f, some f ∈ fields → f.2.isHoldable = true) :
    (recordOf fields).isHoldable = true := by
  rw [recordOf, isHoldable, haveHoldable_iff]
  intro f inside
  obtain ⟨g, member, rfl⟩ := List.mem_filterMap.1 inside
  exact each f member

theorem whenSome_isHoldable {write : α → Document} {name : String} {a : Option α}
    (each : ∀ b, a = some b → (write b).isHoldable = true) {f : String × Document}
    (field : some f = whenSome name write a) : f.2.isHoldable = true := by
  obtain ⟨b, present, rfl⟩ := Option.map_eq_some_iff.1 field.symm
  exact each b present

theorem whenNonempty_isHoldable {name : String} {items : List String} {f : String × Document}
    (field : some f = whenNonempty name items) : f.2.isHoldable = true := by
  unfold whenNonempty at field
  split at field
  · cases field
  · cases field
    exact texts_areHoldable items

end Document

namespace Canonical
open Document
variable {names : List String} {fields : List (Option (String × Document))}

private theorem names_sublist (named : Named names fields) :
    ((fields.filterMap id).map (·.1)).Sublist names := by
  induction names generalizing fields with
  | nil =>
    cases fields with
    | nil => exact .slnil
    | cons => cases named
  | cons name names ih =>
    cases fields with
    | nil => cases named
    | cons field fields =>
      obtain ⟨first, others⟩ := named
      cases field with
      | none => exact (ih others).cons name
      | some f =>
        have same : f.1 = name := (first f rfl).1
        rw [← same]
        exact (ih others).cons_cons f.1

/-- The field of a name is the one in the place of that name. -/
private theorem find?_of_named (distinct : names.Nodup) (named : Named names fields) {name : String}
    {field : Option (String × Document)} (place : (name, field) ∈ names.zip fields) :
    (fields.filterMap id).find? (·.1 == name) = field := by
  induction names generalizing fields with
  | nil => cases place
  | cons first names ih =>
    cases fields with
    | nil => cases named
    | cons head fields =>
      obtain ⟨own, others⟩ := named
      obtain ⟨fresh, distinct⟩ := List.nodup_cons.1 distinct
      rcases List.mem_cons.1 place with here | later
      · cases here
        cases field with
        | none =>
          refine List.find?_eq_none.2 fun f member => ?_
          have known := mem_of_named others member
          simp only [beq_iff_eq]
          exact fun same => fresh (same ▸ known)
        | some f => exact List.find?_cons_of_pos (by simp [(own f rfl).1])
      · have known : name ∈ names := (List.of_mem_zip later).1
        cases head with
        | none => exact (ih distinct others later :)
        | some f =>
          have other : f.1 ≠ name := by
            rw [(own f rfl).1]
            exact fun same => fresh (same ▸ known)
          exact (List.find?_cons_of_neg (by simpa using other)).trans (ih distinct others later)

private theorem raw?_of_named (distinct : names.Nodup) (named : Named names fields) {read : Fields}
    (got : (recordOf fields).image.fields? names = some read) (name : String)
    {field : Option (String × Document)}
    (found : (names.zip fields).find? (·.1 == name) = some (name, field)) :
    read.raw? name = field.map fun f => f.2.image := by
  have place := List.mem_of_find?_eq_some found
  have known : names.contains name = true := List.contains_iff_mem.2 (List.of_mem_zip place).1
  rw [raw?_of_fields? got name known, find?_of_named distinct named place]

end Canonical

namespace Fields
variable {α : Type} {read : Document → Option α} {fields : Fields} {name : String}

theorem withDefault_of_raw {d : Document} {a absent : α} (raw : fields.raw? name = some d)
    (value : read d = some a) : fields.withDefault name absent read = some a := by
  rw [withDefault, raw]
  exact value

/-- A list that is left out when empty. -/
theorem withDefault_whenNonempty {items : List String}
    (raw : fields.raw? name = (Document.whenNonempty name items).map fun f => f.2.image) :
    fields.withDefault name [] Document.texts? = some items := by
  rw [withDefault, raw]
  cases items with
  | nil => rfl
  | cons t rest => exact Document.texts?_image (t :: rest)

end Fields

namespace MatchMode
open Document

theorem readsBack (m : MatchMode) : ReadsBack toDocument (ofDocument? .json) m := by
  cases m <;> rfl

end MatchMode

namespace ConstraintValue
open Document

theorem toDocument_isHoldable {v : ConstraintValue} (storable : v.Storable) :
    v.toDocument.isHoldable = true := by
  cases v with
  | number n =>
    obtain ⟨low, high⟩ := storable
    have wider : n < Nat.pow 2 64 := Int.lt_trans high (by decide)
    simp only [toDocument, isHoldable, Bool.and_eq_true, decide_eq_true_eq]
    exact ⟨low, wider⟩
  | text s => rfl
  | list items => exact texts_areHoldable items
  | coverage spec =>
    obtain ⟨_, _ | _, _, _⟩ := spec <;> rfl

end ConstraintValue

namespace Constraint
open Document

theorem toDocument_isHoldable {c : Constraint} (storable : c.value.Storable) :
    c.toDocument.isHoldable = true := by
  refine recordOf_isHoldable fun f member => ?_
  simp only [List.mem_cons, Option.some.injEq, List.not_mem_nil, or_false] at member
  rcases member with rfl | rfl | rfl | field | field | rfl | rfl | field | field | field | field
  · rfl
  · exact ConstraintValue.toDocument_isHoldable storable
  · rfl
  · exact whenSome_isHoldable (fun _ _ => rfl) field
  · exact whenNonempty_isHoldable field
  · rfl
  · rfl
  · exact whenNonempty_isHoldable field
  · exact whenNonempty_isHoldable field
  · exact whenNonempty_isHoldable field
  · exact whenSome_isHoldable (fun _ _ => rfl) field

theorem readsBack {c : Constraint} (storable : c.value.Storable) :
    ReadsBack toDocument (ofDocument? .json) c := by
  have distinct : fieldNames.Nodup := by decide
  obtain ⟨fields, got⟩ : ∃ fields, c.toDocument.image.fields? fieldNames = some fields :=
    fields?_of_nodup _ ((Canonical.names_sublist c.named).nodup distinct)
  have raw := Canonical.raw?_of_named distinct c.named got
  have optionText {name : String} {a : Option String}
      (at? : fields.raw? name = (whenSome name text a).map fun f => f.2.image) :
      fields.optional name text? = some a := by
    rw [whenSome, Option.map_map] at at?
    exact Fields.optional_of_whenSome at? (fun s _ => readsBack_text s) text_present
  -- The eleven fields, each in its place.
  refine Option.bind_eq_some_iff.2 ⟨fields, got, ?_⟩
  refine Option.bind_eq_some_iff.2
    ⟨_, Fields.required_of_raw (raw "rule" rfl) rfl, ?_⟩
  refine Option.bind_eq_some_iff.2 ⟨_, Fields.required_of_raw
    (raw "value" rfl) (ConstraintValue.readsBack storable), ?_⟩
  refine Option.bind_eq_some_iff.2 ⟨_, Fields.withDefault_of_raw
    (raw "severity" rfl) (Severity.readsBack c.severity), ?_⟩
  refine Option.bind_eq_some_iff.2 ⟨_, optionText (raw "why" rfl), ?_⟩
  refine Option.bind_eq_some_iff.2
    ⟨_, Fields.withDefault_whenNonempty (raw "alternatives" rfl), ?_⟩
  refine Option.bind_eq_some_iff.2 ⟨_, Fields.withDefault_of_raw
    (raw "match" rfl) (MatchMode.readsBack c.matchMode), ?_⟩
  refine Option.bind_eq_some_iff.2
    ⟨_, Fields.withDefault_of_raw (raw "exclude_comments" rfl) rfl, ?_⟩
  refine Option.bind_eq_some_iff.2
    ⟨_, Fields.withDefault_whenNonempty (raw "around" rfl), ?_⟩
  refine Option.bind_eq_some_iff.2
    ⟨_, Fields.withDefault_whenNonempty (raw "before" rfl), ?_⟩
  refine Option.bind_eq_some_iff.2
    ⟨_, Fields.withDefault_whenNonempty (raw "unless" rfl), ?_⟩
  exact Option.bind_eq_some_iff.2 ⟨_, optionText (raw "source" rfl), rfl⟩

end Constraint

namespace Diagnostic
open Document

theorem toDocument_isHoldable {d : Diagnostic} (storable : d.Storable) :
    d.toDocument.isHoldable = true := by
  have number {n : Option Nat} (fits : ∀ m, n = some m → m < Nat.pow 2 64) :
      (ofOption ofNat n).isHoldable = true :=
    option_isHoldable fun m same => nat_isHoldable (fits m same)
  refine recordOf_isHoldable fun f member => ?_
  simp only [List.mem_cons, Option.some.injEq, List.not_mem_nil, or_false] at member
  rcases member with rfl | rfl | rfl | rfl | rfl | rfl | rfl | rfl | rfl | field | field
  · rfl
  · rfl
  · exact ConstraintValue.toDocument_isHoldable storable.value
  · rfl
  · exact number storable.line
  · exact number storable.column
  · rfl
  · rfl
  · exact option_isHoldable fun _ _ => rfl
  · refine whenSome_isHoldable (fun s _ => ?_) field
    cases s <;> rfl
  · exact whenSome_isHoldable (fun _ _ => rfl) field

end Diagnostic

namespace CachedResult
open Document

theorem toDocument_isHoldable {e : CachedResult} (storable : e.Storable) :
    e.toDocument.isHoldable = true := by
  rw [toDocument, isHoldable, haveHoldable_iff]
  intro f member
  simp only [List.mem_cons, List.not_mem_nil, or_false] at member
  rcases member with rfl | rfl | rfl | rfl | rfl | rfl | rfl | rfl
  · rfl
  · rfl
  · exact option_isHoldable fun _ _ => rfl
  · rfl
  · exact areHoldable_map fun d inside =>
      Diagnostic.toDocument_isHoldable (storable.violations d inside)
  · exact areHoldable_map fun d inside =>
      Diagnostic.toDocument_isHoldable (storable.warnings d inside)
  · exact texts_areHoldable e.imports
  · exact nat_isHoldable storable.overridesCount

end CachedResult

end Conformance
