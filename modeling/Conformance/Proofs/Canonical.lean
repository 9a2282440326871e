import Conformance.Config
import Conformance.Proofs.Dict
import Conformance.Proofs.Document.Writing
import Conformance.Registry.Codec

/-! The canonical text of a registry tells its definitions, that of a configuration all of it. -/
namespace Conformance

/-- A written form that tells values apart and leaves nothing unreadable. -/
structure Canonical {α : Type} (write : α → Document) : Prop where
  readable : ∀ a, (write a).isReadable = true
  injective : ∀ a b, write a = write b → a = b

namespace Canonical
open Document
variable {α : Type} {write : α → Document}

theorem text : Canonical Document.text := ⟨fun _ => rfl, fun _ _ => text.inj⟩

theorem bool : Canonical Document.bool := ⟨fun _ => rfl, fun _ _ => bool.inj⟩

theorem int : Canonical Document.int := ⟨fun _ => rfl, fun _ _ => int.inj⟩

theorem nat : Canonical Document.ofNat :=
  ⟨fun _ => rfl, fun _ _ same => Int.ofNat.inj (int.inj same)⟩

theorem areReadable_map (items : Canonical write) (as : List α) :
    areReadable (as.map write) = true := by
  induction as with
  | nil => rfl
  | cons a rest ih => rw [List.map_cons, areReadable, items.readable a, ih, Bool.true_and]

theorem list (items : Canonical write) :
    Canonical fun as : List α => Document.list (as.map write) where
  readable as := areReadable_map items as
  injective _ _ same := (List.map_inj_right items.injective).1 (list.inj same)

theorem texts : Canonical ofTexts := list text

private theorem option (value : Canonical write) (present : ∀ a, write a ≠ .null) :
    Canonical (ofOption write) where
  readable a := by
    cases a with
    | none => rfl
    | some a => exact value.readable a
  injective a b same := by
    cases a with
    | none =>
      cases b with
      | none => rfl
      | some b => exact absurd same.symm (present b)
    | some a =>
      cases b with
      | none => exact absurd same (present a)
      | some b => rw [value.injective a b same]

theorem optionText : Canonical ofOptionText := option text nofun

theorem readable_dict (readable : ∀ a, (write a).isReadable = true) (d : Dict α) :
    (ofDict write d).isReadable = true := by
  rw [ofDict, isReadable]
  induction d.entries with
  | nil => rfl
  | cons e rest ih => rw [List.map_cons, haveReadable, readable e.2, ih, Bool.true_and]

/-- Written maps are the same only if all their look-ups are written the same. -/
theorem find?_of_ofDict {d e : Dict α} (same : ofDict write d = ofDict write e) (key : String) :
    (d.find? key).map write = (e.find? key).map write := by
  have maps : d.map (fun _ => write) = e.map (fun _ => write) := Dict.ext (record.inj same)
  rw [← Dict.find?_map d (fun _ => write), maps, Dict.find?_map]

theorem dict (value : Canonical write) : Canonical (ofDict write) where
  readable := readable_dict value.readable
  injective d e same := by
    apply Dict.ext_find?
    intro key
    exact (Option.map_inj_right value.injective).1 (find?_of_ofDict same key)

section Sparse

/-- A field that, if it is there, has this name and can be read. -/
def Field (name : String) (field : Option (String × Document)) : Prop :=
  ∀ f ∈ field, f.1 = name ∧ f.2.isReadable = true

/-- Fields with the names that belong to their places. -/
def Named : List String → List (Option (String × Document)) → Prop
  | [], [] => True
  | name :: names, field :: fields => Field name field ∧ Named names fields
  | _, _ => False

theorem mem_of_named {names : List String} {fields : List (Option (String × Document))}
    (named : Named names fields) {f : String × Document} (member : f ∈ fields.filterMap id) :
    f.1 ∈ names := by
  induction names generalizing fields with
  | nil =>
    cases fields with
    | nil => cases member
    | cons => cases named
  | cons name names ih =>
    cases fields with
    | nil => cases named
    | cons field fields =>
      obtain ⟨first, others⟩ := named
      cases field with
      | none => exact List.mem_cons_of_mem _ (ih others member)
      | some g =>
        rcases List.mem_cons.1 member with rfl | member
        · rw [(first f rfl).1]
          exact List.mem_cons_self
        · exact List.mem_cons_of_mem _ (ih others member)

/-- Fields that may be left out are told apart by their names. -/
theorem filterMap_injective {names : List String} (distinct : names.Nodup)
    {fields others : List (Option (String × Document))} (named : Named names fields)
    (namedToo : Named names others) (same : fields.filterMap id = others.filterMap id) :
    fields = others := by
  induction names generalizing fields others with
  | nil =>
    cases fields with
    | cons => cases named
    | nil =>
      cases others with
      | nil => rfl
      | cons => cases namedToo
  | cons name names ih =>
    cases fields with
    | nil => cases named
    | cons field fields =>
      cases others with
      | nil => cases namedToo
      | cons other others =>
        obtain ⟨first, rest⟩ := named
        obtain ⟨firstToo, restToo⟩ := namedToo
        obtain ⟨fresh, distinct⟩ := List.nodup_cons.1 distinct
        cases field with
        | none =>
          cases other with
          | none => rw [ih distinct rest restToo same]
          | some g =>
            -- The name would stand in two places.
            have member : g ∈ fields.filterMap id := by
              rw [show fields.filterMap id = g :: others.filterMap id from same]
              exact List.mem_cons_self
            exact absurd ((firstToo g rfl).1 ▸ mem_of_named rest member) fresh
        | some f =>
          cases other with
          | none =>
            have member : f ∈ others.filterMap id := by
              rw [show others.filterMap id = f :: fields.filterMap id from same.symm]
              exact List.mem_cons_self
            exact absurd ((first f rfl).1 ▸ mem_of_named restToo member) fresh
          | some g =>
            obtain ⟨rfl, tail⟩ := List.cons.inj same
            rw [ih distinct rest restToo tail]

variable {name : String}

theorem field_some {d : Document} (readable : d.isReadable = true) : Field name (some (name, d)) := by
  rintro f ⟨⟩
  exact ⟨rfl, readable⟩

theorem field_whenSome (value : Canonical write) (a : Option α) :
    Field name (whenSome name write a) := by
  intro f member
  obtain ⟨a, -, rfl⟩ := Option.map_eq_some_iff.1 member
  exact ⟨rfl, value.readable a⟩

theorem field_whenNonempty (items : List String) : Field name (whenNonempty name items) := by
  intro f member
  unfold whenNonempty at member
  split at member
  · cases member
  · cases member
    exact ⟨rfl, texts.readable items⟩

theorem whenSome_injective (value : Canonical write) {a b : Option α}
    (same : whenSome name write a = whenSome name write b) : a = b :=
  (Option.map_inj_right fun a b same => value.injective a b (Prod.mk.inj same).2).1 same

theorem whenNonempty_injective {as bs : List String}
    (same : whenNonempty name as = whenNonempty name bs) : as = bs := by
  unfold whenNonempty at same
  cases as with
  | nil =>
    cases bs with
    | nil => rfl
    | cons => cases same
  | cons a as =>
    cases bs with
    | nil => cases same
    | cons b bs => exact texts.injective _ _ (Prod.mk.inj (Option.some.inj same)).2

private theorem readable_recordOf {names : List String} {fields : List (Option (String × Document))}
    (named : Named names fields) : (recordOf fields).isReadable = true := by
  rw [recordOf, isReadable]
  induction names generalizing fields with
  | nil =>
    cases fields with
    | nil => rfl
    | cons => cases named
  | cons name names ih =>
    cases fields with
    | nil => cases named
    | cons field fields =>
      obtain ⟨first, others⟩ := named
      cases field with
      | none =>
        change haveReadable (fields.filterMap id) = true
        exact ih others
      | some f =>
        change (f.2.isReadable && haveReadable (fields.filterMap id)) = true
        rw [(first f rfl).2, ih others, Bool.true_and]

end Sparse

end Canonical

section Codecs
open Document Canonical

theorem Severity.canonical : Canonical Severity.toDocument where
  readable _ := rfl
  injective a b same := by
    have names := text.inj same
    revert names
    cases a <;> cases b <;> decide

theorem MatchMode.canonical : Canonical MatchMode.toDocument where
  readable _ := rfl
  injective a b same := by
    have names := text.inj same
    revert names
    cases a <;> cases b <;> decide

theorem CoverageSpec.canonical : Canonical CoverageSpec.toDocument where
  readable spec := by
    simp only [toDocument, isReadable, haveReadable, optionText.readable, Bool.and_true]
  injective a b same := by
    obtain ⟨sourceType, sourcePattern, targetPattern, inTargetFiles⟩ := a
    simp only [toDocument, record.injEq, List.cons.injEq, Prod.mk.injEq, text.injEq, true_and,
      and_true] at same
    obtain ⟨rfl, pattern, rfl, rfl⟩ := same
    cases optionText.injective _ _ pattern
    rfl

theorem ConstraintValue.canonical : Canonical ConstraintValue.toDocument where
  readable v := by
    cases v with
    | number | text => rfl
    | list items => exact texts.readable items
    | coverage spec => exact CoverageSpec.canonical.readable spec
  injective a b same := by
    cases a <;> cases b
    case number.number => cases same; rfl
    case text.text => cases same; rfl
    case list.list as bs => rw [texts.injective as bs same]
    case coverage.coverage c d => rw [CoverageSpec.canonical.injective c d same]
    all_goals cases same

theorem Constraint.named (c : Constraint) : Named Constraint.fieldNames [
    some ("rule", .text c.rule),
    some ("value", c.value.toDocument),
    some ("severity", c.severity.toDocument),
    whenSome "why" .text c.why,
    whenNonempty "alternatives" c.alternatives,
    some ("match", c.matchMode.toDocument),
    some ("exclude_comments", .bool c.excludeComments),
    whenNonempty "around" c.around,
    whenNonempty "before" c.before,
    whenNonempty "unless" c.exempt,
    whenSome "source" .text c.source] :=
  ⟨field_some rfl, field_some (ConstraintValue.canonical.readable c.value), field_some rfl,
    field_whenSome Canonical.text c.why, field_whenNonempty c.alternatives, field_some rfl,
    field_some rfl, field_whenNonempty c.around, field_whenNonempty c.before,
    field_whenNonempty c.exempt, field_whenSome Canonical.text c.source, trivial⟩

theorem Constraint.canonical : Canonical Constraint.toDocument where
  readable c := readable_recordOf c.named
  injective a b same := by
    have fields := filterMap_injective (by decide) a.named b.named (record.inj same)
    simp only [List.cons.injEq, Option.some.injEq, Prod.mk.injEq, text.injEq, bool.injEq, true_and,
      and_true] at fields
    obtain ⟨rule, value, severity, why, alternatives, mode, comments, around, before, exempt, source⟩ := fields
    have value := ConstraintValue.canonical.injective _ _ value
    have severity := Severity.canonical.injective _ _ severity
    have mode := MatchMode.canonical.injective _ _ mode
    have why := whenSome_injective Canonical.text why
    have source := whenSome_injective Canonical.text source
    have alternatives := whenNonempty_injective alternatives
    have around := whenNonempty_injective around
    have before := whenNonempty_injective before
    have exempt := whenNonempty_injective exempt
    cases a
    cases b
    simp only [Constraint.mk.injEq]
    exact ⟨rule, value, severity, why, alternatives, mode, comments, around, before, exempt, source⟩

theorem MixinRef.canonical : Canonical MixinRef.toDocument where
  readable r := by
    cases r with
    | named => rfl
    | withParams name params =>
      simp only [toDocument, isReadable, haveReadable, (dict Canonical.text).readable, Bool.and_true]
  injective a b same := by
    cases a <;> cases b
    case named.named => cases same; rfl
    case withParams.withParams =>
      simp only [toDocument, record.injEq, List.cons.injEq, Prod.mk.injEq, text.injEq, true_and,
        and_true] at same
      obtain ⟨rfl, params⟩ := same
      rw [(dict Canonical.text).injective _ _ params]
    all_goals cases same

end Codecs

/-- Definitions that carry the names they are filed under. -/
structure Registry.WellNamed (r : Registry) : Prop where
  nodes : ∀ id node, r.nodes.find? id = some node → node.id = id
  mixins : ∀ name mixin, r.mixins.find? name = some mixin → mixin.name = name
  intents : ∀ name intent, r.intents.find? name = some intent → intent.name = name

section Definitions
open Document Canonical

theorem ArchitectureNode.readable (n : ArchitectureNode) : n.toDocument.isReadable = true := by
  simp only [toDocument, isReadable, haveReadable, optionText.readable, texts.readable,
    areReadable_map MixinRef.canonical, areReadable_map Constraint.canonical, Bool.and_true]

/-- An architecture is told by its text up to its name. -/
theorem ArchitectureNode.eq_of_toDocument {a b : ArchitectureNode} (named : a.id = b.id)
    (same : a.toDocument = b.toDocument) : a = b := by
  simp only [toDocument, record.injEq, List.cons.injEq, Prod.mk.injEq, true_and, and_true] at same
  obtain ⟨inherits, mixins, constraints, hints, description, rationale, since, guide⟩ := same
  cases a
  cases b
  rw [ArchitectureNode.mk.injEq]
  exact ⟨named, optionText.injective _ _ inherits, (list MixinRef.canonical).injective _ _ mixins,
    (list Constraint.canonical).injective _ _ constraints, texts.injective _ _ hints,
    optionText.injective _ _ description, optionText.injective _ _ rationale,
    optionText.injective _ _ since, optionText.injective _ _ guide⟩

theorem Mixin.readable (m : Mixin) : m.toDocument.isReadable = true := by
  simp only [toDocument, isReadable, haveReadable, optionText.readable, texts.readable,
    areReadable_map Constraint.canonical, Bool.and_true]

theorem Mixin.eq_of_toDocument {a b : Mixin} (named : a.name = b.name)
    (same : a.toDocument = b.toDocument) : a = b := by
  simp only [toDocument, record.injEq, List.cons.injEq, Prod.mk.injEq, true_and, and_true] at same
  obtain ⟨description, constraints, hints⟩ := same
  cases a
  cases b
  rw [Mixin.mk.injEq]
  exact ⟨named, optionText.injective _ _ description,
    (list Constraint.canonical).injective _ _ constraints, texts.injective _ _ hints⟩

theorem IntentDefinition.readable (i : IntentDefinition) : i.toDocument.isReadable = true := by
  simp only [toDocument, isReadable, haveReadable, optionText.readable, texts.readable,
    Bool.and_true]

theorem IntentDefinition.eq_of_toDocument {a b : IntentDefinition} (named : a.name = b.name)
    (same : a.toDocument = b.toDocument) : a = b := by
  simp only [toDocument, record.injEq, List.cons.injEq, Prod.mk.injEq, true_and, and_true] at same
  obtain ⟨description, category, requires, forbids, conflicts, intents⟩ := same
  cases a
  cases b
  rw [IntentDefinition.mk.injEq]
  exact ⟨named, optionText.injective _ _ description, optionText.injective _ _ category,
    texts.injective _ _ requires, texts.injective _ _ forbids, texts.injective _ _ conflicts,
    texts.injective _ _ intents⟩

/-- Definitions under their names are told by their texts. -/
theorem Canonical.dict_of_named {α : Type} {write : α → Document} {name : α → String}
    (told : ∀ a b, name a = name b → write a = write b → a = b) {d e : Dict α}
    (named : ∀ key a, d.find? key = some a → name a = key)
    (namedToo : ∀ key a, e.find? key = some a → name a = key)
    (same : ofDict write d = ofDict write e) : d = e := by
  apply Dict.ext_find?
  intro key
  have written := find?_of_ofDict same key
  cases at? : d.find? key with
  | none => cases at! : e.find? key <;> simp_all
  | some a =>
    rw [at?] at written
    obtain ⟨b, found, texts⟩ := Option.map_eq_some_iff.1 written.symm
    rw [found, told a b ((named key a at?).trans (namedToo key b found).symm) texts.symm]

namespace Registry

theorem readable (r : Registry) : r.toDocument.isReadable = true := by
  simp only [toDocument, isReadable, haveReadable, readable_dict ArchitectureNode.readable,
    readable_dict Mixin.readable, readable_dict IntentDefinition.readable, Bool.and_true]

/-- Registries with one canonical text have the same definitions. -/
theorem eq_of_canonicalText {r s : Registry} (named : r.WellNamed) (namedToo : s.WellNamed)
    (same : r.canonicalText = s.canonicalText) :
    r.nodes = s.nodes ∧ r.mixins = s.mixins ∧ r.intents = s.intents := by
  have documents := Json.write_injective r.readable s.readable same
  simp only [toDocument, record.injEq, List.cons.injEq, Prod.mk.injEq, true_and, and_true]
    at documents
  obtain ⟨nodes, mixins, intents⟩ := documents
  exact ⟨dict_of_named (fun _ _ => ArchitectureNode.eq_of_toDocument) named.nodes namedToo.nodes nodes,
    dict_of_named (fun _ _ => Mixin.eq_of_toDocument) named.mixins namedToo.mixins mixins,
    dict_of_named (fun _ _ => IntentDefinition.eq_of_toDocument) named.intents namedToo.intents
      intents⟩

end Registry

end Definitions

section Settings
open Document Canonical

theorem OverridePolicy.canonical : Canonical OverridePolicy.toDocument where
  readable p := by
    simp only [toDocument, isReadable, haveReadable, texts.readable, nat.readable, Bool.and_true]
  injective a b same := by
    simp only [toDocument, record.injEq, List.cons.injEq, Prod.mk.injEq, true_and, and_true] at same
    obtain ⟨fields, warn, days, fail, limit⟩ := same
    cases a
    cases b
    rw [OverridePolicy.mk.injEq]
    exact ⟨texts.injective _ _ fields, bool.inj warn, int.inj days, bool.inj fail,
      nat.injective _ _ limit⟩

theorem Config.canonical : Canonical Config.toDocument where
  readable c := by
    simp only [toDocument, FilesConfig.toDocument, ValidationConfig.toDocument,
      CacheConfig.toDocument, PatternLimits.toDocument, OverridePolicy.canonical.readable, isReadable,
      haveReadable, texts.readable, nat.readable, Bool.and_true]
  injective a b same := by
    simp only [toDocument, FilesConfig.toDocument, ValidationConfig.toDocument,
      CacheConfig.toDocument, PatternLimits.toDocument, record.injEq, List.cons.injEq,
      Prod.mk.injEq, true_and, and_true] at same
    obtain ⟨files, validation, overrides, cache, patterns⟩ := same
    obtain ⟨⟨_, _⟩, ⟨_, _, _⟩, _, ⟨_, _⟩, ⟨_, _⟩⟩ := a
    obtain ⟨⟨_, _⟩, ⟨_, _, _⟩, _, ⟨_, _⟩, ⟨_, _⟩⟩ := b
    simp only [Config.mk.injEq, FilesConfig.mk.injEq, ValidationConfig.mk.injEq,
      CacheConfig.mk.injEq, PatternLimits.mk.injEq]
    exact ⟨⟨texts.injective _ _ files.1, texts.injective _ _ files.2⟩,
      ⟨bool.inj validation.1, bool.inj validation.2.1, texts.injective _ _ validation.2.2⟩,
      OverridePolicy.canonical.injective _ _ overrides, ⟨bool.inj cache.1, text.inj cache.2⟩,
      nat.injective _ _ patterns.1, nat.injective _ _ patterns.2⟩

end Settings

end Conformance
