import Conformance.Proofs.Override.Suppression
import Conformance.Proofs.Tag.Blocks
import Mathlib.Data.List.Destutter

/-! What the value of an override stands for. It is read as the trimmed parts between its commas, without
the empty ones. Against a list they count as a set, which sorting both sides and dropping repeats decides;
against a text they have to be that text alone. -/
namespace Conformance

section Sorting

variable {texts : List String}

private theorem mem_destutter {text : String} : text ∈ texts.destutter (· ≠ ·) ↔ text ∈ texts := by
  have started (first : String) (rest : List String) :
      text ∈ rest.destutter' (· ≠ ·) first ↔ text ∈ first :: rest := by
    induction rest generalizing first with
    | nil => rfl
    | cons next rest ih =>
      by_cases other : first ≠ next
      · rw [List.destutter'_cons_pos _ other, List.mem_cons, ih, List.mem_cons (b := first)]
      · rw [List.destutter'_cons_neg _ other, ih, not_not.1 other]
        simp
  cases texts with
  | nil => rfl
  | cons first rest => exact started first rest

/-- Sorting and then dropping each text that repeats its neighbour gives every text once, in order. -/
theorem sortedDistinct_eq_destutter (texts : List String) :
    sortedDistinct texts = texts.mergeSort.destutter (· ≠ ·) := by
  have ordered : (texts.mergeSort.destutter (· ≠ ·)).Pairwise (· ≤ ·) := by
    refine List.Pairwise.sublist (List.destutter_sublist _ _) ?_
    refine (List.pairwise_mergeSort ?_ ?_ texts).imp of_decide_eq_true
    · intro a b c below above
      exact decide_eq_true (String.le_trans (of_decide_eq_true below) (of_decide_eq_true above))
    · intro a b
      simpa using String.le_total a b
  have increasing : (texts.mergeSort.destutter (· ≠ ·)).Pairwise (· < ·) := by
    refine List.IsChain.pairwise (List.isChain_iff_getElem.2 fun i inside => ?_)
    have below := List.pairwise_iff_getElem.1 ordered i (i + 1) (by omega) inside i.lt_succ_self
    have other := List.isChain_iff_getElem.1 (List.isChain_destutter _ texts.mergeSort) i inside
    exact String.not_le.1 fun above => other (String.le_antisymm below above)
  refine (sortedDistinct_increasing texts).eq_of_mem_iff increasing fun text => ?_
  rw [mem_sortedDistinct, mem_destutter, List.mem_mergeSort]

end Sorting

namespace Text

/-- A text as the pieces between its commas. -/
structure Cuts (raw : String) (pieces : List String) : Prop where
  joined : join "," pieces = raw
  free : ∀ piece ∈ pieces, ',' ∉ piece.toList

/-- Changes that keep the parts: another order, a piece once more, blanks around a piece and a piece of
blanks. As the order is free, what is added or padded may come first. -/
inductive Respells : List String → List String → Prop where
  | reorder {pieces pieces' : List String} (order : pieces.Perm pieces') : Respells pieces pieces'
  | again {piece : String} {pieces : List String} (present : piece ∈ pieces) :
    Respells pieces (piece :: pieces)
  | pad {before after : String} (leading : isBlank before = true) (trailing : isBlank after = true)
    (piece : String) (rest : List String) :
    Respells (piece :: rest) ((before ++ piece ++ after) :: rest)
  | blank {piece : String} (pieces : List String) (empty : isBlank piece = true) :
    Respells pieces (piece :: pieces)

variable {raw text : String} {pieces pieces' : List String}

private theorem cuts_splitOn (raw : String) : Cuts raw (splitOn ',' raw) where
  joined := join_splitOn rfl raw
  free _ member := not_mem_of_mem_splitOn member

theorem Cuts.mem_commaParts (cuts : Cuts raw pieces) :
    text ∈ commaParts raw ↔ text ≠ "" ∧ ∃ piece ∈ pieces, trim piece = text := by
  rw [← cuts.joined, commaParts_join cuts.free]
  simp [and_comm]

theorem comma_not_mem_of_isBlank {s : String} (blank : isBlank s = true) : ',' ∉ s.toList :=
  Chars.not_mem_of_blank (isBlank_iff.1 blank) rfl

namespace Respells

theorem parts_iff (step : Respells pieces pieces') (nonempty : text ≠ "") :
    (∃ piece ∈ pieces', trim piece = text) ↔ ∃ piece ∈ pieces, trim piece = text := by
  cases step with
  | reorder order => simp only [order.mem_iff]
  | again present =>
    rw [List.exists_mem_cons_iff]
    exact or_iff_right_of_imp fun same => ⟨_, present, same⟩
  | pad leading trailing piece rest =>
    rw [List.exists_mem_cons_iff, List.exists_mem_cons_iff, trim_padded leading trailing]
  | blank pieces empty =>
    rw [List.exists_mem_cons_iff, trim_eq_empty_iff.2 empty]
    exact or_iff_right nonempty.symm

theorem free_iff (step : Respells pieces pieces') :
    (∀ piece ∈ pieces', ',' ∉ piece.toList) ↔ ∀ piece ∈ pieces, ',' ∉ piece.toList := by
  cases step with
  | reorder order => simp only [order.mem_iff]
  | again present =>
    rw [List.forall_mem_cons]
    exact and_iff_right_of_imp fun free => free _ present
  | pad leading trailing piece rest =>
    rw [List.forall_mem_cons, List.forall_mem_cons]
    simp [comma_not_mem_of_isBlank leading, comma_not_mem_of_isBlank trailing]
  | blank pieces empty =>
    rw [List.forall_mem_cons, and_iff_right (comma_not_mem_of_isBlank empty)]

end Respells

open Relation in
/-- Any number of changes, in both directions, keeps the parts. -/
private theorem mem_commaParts_respelled (changes : EqvGen Respells pieces pieces')
    (free : ∀ piece ∈ pieces, ',' ∉ piece.toList) :
    text ∈ commaParts (join "," pieces') ↔ text ∈ commaParts (join "," pieces) := by
  have kept : ((∀ piece ∈ pieces', ',' ∉ piece.toList) ↔ ∀ piece ∈ pieces, ',' ∉ piece.toList) ∧
      (text ≠ "" →
        ((∃ piece ∈ pieces', trim piece = text) ↔ ∃ piece ∈ pieces, trim piece = text)) := by
    clear free
    induction changes with
    | rel pieces pieces' step => exact ⟨step.free_iff, step.parts_iff⟩
    | refl pieces => exact ⟨Iff.rfl, fun _ => Iff.rfl⟩
    | symm pieces pieces' _ ih => exact ⟨ih.1.symm, fun nonempty => (ih.2 nonempty).symm⟩
    | trans pieces middle pieces' _ _ first second =>
      exact ⟨second.1.trans first.1, fun nonempty => (second.2 nonempty).trans (first.2 nonempty)⟩
  have before : Cuts (join "," pieces) pieces := ⟨rfl, free⟩
  have after : Cuts (join "," pieces') pieces' := ⟨rfl, kept.1.2 free⟩
  rw [before.mem_commaParts, after.mem_commaParts]
  exact and_congr_right kept.2

end Text

namespace ConstraintValue

open Text

variable {items items' : List String} {raw raw' : String}

/-- The verdict on a list depends on the two sets only. -/
theorem matchesOverride_list_congr (entries : ∀ text, text ∈ items' ↔ text ∈ items)
    (parts : ∀ text, text ∈ commaParts raw' ↔ text ∈ commaParts raw) :
    (list items').matchesOverride raw' = (list items).matchesOverride raw := by
  rw [Bool.eq_iff_iff, matchesOverride_iff, matchesOverride_iff]
  exact forall_congr' fun text => iff_congr (entries text) (parts text)

/-- An override names a list exactly if the trimmed pieces between its commas, without the empty ones,
are the entries of the list, in any order and any number of times. -/
theorem list_override_is_set_equality (items : List String) :
    (∀ raw, (list items).matchesOverride raw =
      (items.mergeSort.destutter (· ≠ ·) == (commaParts raw).mergeSort.destutter (· ≠ ·))) ∧
    (∀ raw, Cuts raw (splitOn ',' raw) ∧ ∀ pieces, Cuts raw pieces →
      ((list items).matchesOverride raw = true ↔
        ∀ text, text ∈ items ↔ text ≠ "" ∧ ∃ piece ∈ pieces, trim piece = text)) ∧
    (∀ items', (∀ text, text ∈ items' ↔ text ∈ items) →
      ∀ raw, (list items').matchesOverride raw = (list items).matchesOverride raw) ∧
    (∀ pieces pieces', (∀ piece ∈ pieces, ',' ∉ piece.toList) →
      Relation.EqvGen Respells pieces pieces' →
      (list items).matchesOverride (join "," pieces') =
        (list items).matchesOverride (join "," pieces)) ∧
    ((∀ item ∈ items, item ≠ "" ∧ trim item = item ∧ ',' ∉ item.toList) →
      ∀ order, order.Perm items → (list items).matchesOverride (join "," order) = true) := by
  refine ⟨fun raw => ?_, fun raw => ⟨cuts_splitOn raw, fun pieces cuts => ?_⟩, ?_, ?_, ?_⟩
  · rw [← sortedDistinct_eq_destutter, ← sortedDistinct_eq_destutter]
    rfl
  · rw [matchesOverride_iff]
    exact forall_congr' fun text => iff_congr Iff.rfl cuts.mem_commaParts
  · intro items' same raw
    exact matchesOverride_list_congr same fun _ => Iff.rfl
  · intro pieces pieces' free changes
    exact matchesOverride_list_congr (fun _ => Iff.rfl) fun _ => mem_commaParts_respelled changes free
  · intro proper order perm
    have cuts : Cuts (join "," order) order :=
      ⟨rfl, fun piece member => (proper piece (perm.mem_iff.1 member)).2.2⟩
    rw [matchesOverride_iff]
    intro item
    rw [cuts.mem_commaParts]
    constructor
    · intro listed
      obtain ⟨nonempty, trimmed, -⟩ := proper item listed
      exact ⟨nonempty, item, perm.mem_iff.2 listed, trimmed⟩
    · rintro ⟨-, piece, among, rfl⟩
      have listed := perm.mem_iff.1 among
      rwa [(proper piece listed).2.1]

/-- A list as one would write it elsewhere, with another order, a repeat, blanks and an empty piece. -/
theorem list_spelled_loosely :
    (list ["b", "a"]).matchesOverride "a, b,,a" = true ∧
      (list ["b", "a"]).matchesOverride "a" = false := by
  obtain ⟨-, meaning, -, respelled, joined⟩ := list_override_is_set_equality ["b", "a"]
  constructor
  · have blank : isBlank " " = true := rfl
    have nothing : isBlank "" = true := rfl
    have padded : Respells ["b", "a"] [" b", "a"] := .pad blank nothing "b" ["a"]
    have emptied : Respells [" b", "a"] ["", " b", "a"] := .blank [" b", "a"] nothing
    have repeated : Respells ["", " b", "a"] ["a", "", " b", "a"] := .again (by decide)
    have reordered : Respells ["a", "", " b", "a"] ["a", " b", "", "a"] := .reorder (by decide)
    have changes : Relation.EqvGen Respells ["b", "a"] ["a", " b", "", "a"] :=
      .trans _ _ _ (.rel _ _ padded) (.trans _ _ _ (.rel _ _ emptied)
        (.trans _ _ _ (.rel _ _ repeated) (.rel _ _ reordered)))
    exact (respelled _ _ (by decide) changes).trans (joined (by decide) _ (List.Perm.refl _))
  · have cuts : Cuts "a" ["a"] := ⟨rfl, by decide⟩
    rw [Bool.eq_false_iff, ne_eq, (meaning "a").2 ["a"] cuts]
    intro same
    exact absurd ((same "b").1 (by decide)).2 (by decide)

end ConstraintValue

namespace Override

variable {d : Diagnostic} {s : String} {ds : List Diagnostic} {tags : List OverrideTag}
variable {policy : OverridePolicy} {today : Date}

theorem matches_text_iff (value : d.value = .text s) (t : OverrideTag) :
    «matches» t d = true ↔ t.rule = d.rule ∧ Text.commaParts t.value = [s] := by
  rw [«matches», Bool.and_eq_true, beq_iff_eq, ConstraintValue.matchesOverride_iff, value]
  rfl

private theorem overridden_of_suppressed (present : d ∈ ds)
    (suppressed : Suppressed tags policy today d) :
    d ∈ (apply ds tags policy today).overridden ∧ d ∉ (apply ds tags policy today).kept := by
  rw [overridden_eq_filter, kept_eq_filter]
  simp [present, suppressed]

private theorem kept_of_not_suppressed (present : d ∈ ds) (free : ¬Suppressed tags policy today d) :
    d ∈ (apply ds tags policy today).kept ∧ d ∉ (apply ds tags policy today).overridden := by
  rw [overridden_eq_filter, kept_eq_filter]
  simp [present, free]

/-- An override without commas names a text exactly if it spells it, blanks aside. One with commas names
a text other than its own spelling exactly if that is its only part. -/
theorem scalar_override_is_equality (value : d.value = .text s) (proper : LineText s)
    (family : Text.startsWith d.code "E" = true ∨ Text.startsWith d.code "I" = true)
    (policy : OverridePolicy) (today : Date) :
    (',' ∉ s.toList → ∀ ds tags, d ∈ ds →
      (∃ t ∈ counted policy tags, policy.Accepts t ∧ t.rule = d.rule ∧ t.value = s) →
      d ∈ (apply ds tags policy today).overridden ∧ d ∉ (apply ds tags policy today).kept) ∧
    (∀ t : OverrideTag, ',' ∉ t.value.toList →
      («matches» t d = true ↔ t.rule = d.rule ∧ Text.trim t.value = s)) ∧
    (∀ t : OverrideTag, Text.trim t.value ≠ s →
      («matches» t d = true ↔
        t.rule = d.rule ∧ ',' ∈ t.value.toList ∧ Text.commaParts t.value = [s])) ∧
    (∀ ds tags, d ∈ ds →
      (∀ t ∈ counted policy tags, policy.Accepts t → t.rule = d.rule →
        Text.trim t.value ≠ s ∧ (',' ∈ t.value.toList → Text.commaParts t.value ≠ [s])) →
      d ∈ (apply ds tags policy today).kept ∧ d ∉ (apply ds tags policy today).overridden) := by
  have plain {raw : String} (free : ',' ∉ raw.toList) :
      Text.commaParts raw = [s] ↔ Text.trim raw = s :=
    Text.commaParts_eq_singleton_iff free proper.nonempty
  have single {t : OverrideTag} (free : ',' ∉ t.value.toList) :
      «matches» t d = true ↔ t.rule = d.rule ∧ Text.trim t.value = s :=
    (matches_text_iff value t).trans (and_congr_right fun _ => plain free)
  refine ⟨fun free ds tags present => ?_, fun t free => single free, fun t other => ?_, ?_⟩
  · rintro ⟨t, counts, accepted, rule, same⟩
    refine overridden_of_suppressed present ((suppressed_iff d).2 ⟨family, t, counts, accepted, rule, ?_⟩)
    rw [value, same]
    exact (plain free).2 proper.trimmed
  · constructor
    · intro named
      obtain ⟨rule, only⟩ := (matches_text_iff value t).1 named
      refine ⟨rule, ?_, only⟩
      by_contra free
      exact other ((plain free).1 only)
    · rintro ⟨rule, -, only⟩
      exact (matches_text_iff value t).2 ⟨rule, only⟩
  · intro ds tags present others
    refine kept_of_not_suppressed present fun suppressed => ?_
    obtain ⟨-, t, counts, accepted, rule, named⟩ := (suppressed_iff d).1 suppressed
    rw [value] at named
    obtain ⟨other, notOnly⟩ := others t counts accepted rule
    by_cases comma : ',' ∈ t.value.toList
    · exact notOnly comma named
    · exact other ((plain comma).1 named)

namespace Spelled

/-- A finding of a rule about a text. -/
def finding (rule : Rule) (text : String) : Diagnostic :=
  .ofConstraint rule.code (.ofRule rule (.text text)) (.text text) "found" "remove it"

/-- An override with all that a policy may ask for. -/
def exception (rule : Rule) (value : String) : OverrideTag :=
  { rule := rule.name, value, reason := some "moving", expires := some "2024-03-01"
    ticket := some "T-1", approvedBy := some "lead", line := 1 }

/-- The first of January 2024. -/
def newYear : Date := ⟨19723⟩

/-- A repetition with bounds, which has a comma in it. -/
def repetition : String := "x\x7b1,2\x7d"

end Spelled

open Spelled in
theorem import_overridden_by_its_name :
    let d := finding .forbidImport "axios"
    d ∈ (apply [d] [exception .forbidImport "axios"] {} newYear).overridden ∧
      d ∈ (apply [d] [exception .forbidImport "axios2"] {} newYear).kept := by
  have proper : LineText "axios" := by decide
  obtain ⟨exact, -, -, others⟩ := scalar_override_is_equality (d := finding .forbidImport "axios")
    rfl proper (.inl (by decide)) {} newYear
  constructor
  · refine (exact (by decide) _ _ (by decide) ?_).1
    refine ⟨exception .forbidImport "axios", by decide, ?_, by decide, rfl⟩
    exact (OverridePolicy.suppresses_iff {} _ newYear).1 (by decide +kernel)
  · refine (others _ [exception .forbidImport "axios2"] (by decide) ?_).1
    intro t counts _ _
    cases List.mem_singleton.1 counts
    decide +kernel

open Spelled in
/-- Overrides that are in order: the exact text of a pattern with a comma takes nothing away, the name of a
module with a comma after it takes the module's finding away, and no override is accepted for a rule that
does not exist. -/
theorem comma_in_scalar_override :
    let found := [finding .forbidPattern repetition, finding .forbidImport "axios",
      { finding .forbidImport "axios" with rule := "forbid_axios" }]
    let tags := [exception .forbidPattern repetition, exception .forbidImport "axios,",
      { exception .forbidImport "axios" with rule := "forbid_axios" }]
    (LineText repetition ∧ LineText "axios" ∧ Text.trim "axios," ≠ "axios") ∧
      (tags.map fun t => (({} : OverridePolicy).check t newYear).errors.map (·.code)) =
        [[], [], ["O001"]] ∧
      counted {} tags = tags ∧
      (apply found tags {} newYear).kept.map (·.rule) = ["forbid_pattern", "forbid_axios"] ∧
      (apply found tags {} newYear).overridden.map (·.rule) = ["forbid_import"] := by
  decide +kernel

end Override

end Conformance
