import Conformance.Proofs.Resolution.Merge
import Mathlib.Data.List.Induction

/-! Which entries a list of merged constraints holds, and with which severity. For each entry the
last word counts: that of the last constraint merged that names it, of the rule itself or of the
rule that allows what it forbids. -/
namespace Conformance

/-- Whether a text or list value names an entry. -/
def Constraint.mentions (c : Constraint) (entry : String) : Bool :=
  (c.value.toList?.getD []).contains entry

theorem Constraint.mentions_iff {c : Constraint} {entry : String} :
    c.mentions entry = true ↔ ∃ entries, c.value.toList? = some entries ∧ entry ∈ entries := by
  unfold Constraint.mentions
  cases c.value.toList? <;> simp

theorem Constraint.mentions_of_list {c : Constraint} {items : List String} {entry : String}
    (list : c.value = .list items) : c.mentions entry = true ↔ entry ∈ items := by
  simp [Constraint.mentions, list, ConstraintValue.toList?]

theorem Constraint.mentions_congr {c d : Constraint} (value : c.value = d.value) (entry : String) :
    c.mentions entry = d.mentions entry := by
  rw [Constraint.mentions, Constraint.mentions, value]

/-- Whether a constraint takes entries away from a rule. -/
def Constraint.lifts (c : Constraint) (rule : String) : Bool :=
  (c.rule?.bind Rule.negates?).any fun target => target.name = rule

theorem Constraint.lifts_iff {c : Constraint} {forbid : Rule} :
    c.lifts forbid.name = true ↔ ∃ allow : Rule, allow.negates? = some forbid ∧ c.rule = allow.name := by
  unfold Constraint.lifts Constraint.rule?
  constructor
  · intro lifted
    cases known : Rule.ofName? c.rule with
    | none => simp [known] at lifted
    | some allow =>
      cases negates : allow.negates? with
      | none => simp [known, negates] at lifted
      | some target =>
        simp only [known, negates, Option.bind_some, Option.any_some, decide_eq_true_eq] at lifted
        exact ⟨allow, by rw [negates, Rule.name_injective lifted], (Rule.name_of_ofName? known).symm⟩
  · rintro ⟨allow, negates, rule⟩
    simp [rule, negates]

/-- Nothing takes entries away from a rule that no rule allows. -/
theorem Constraint.lifts_eq_false {rule : String}
    (unlifted : ∀ allow forbid : Rule, allow.negates? = some forbid → forbid.name ≠ rule)
    (c : Constraint) : c.lifts rule = false := by
  refine Bool.eq_false_iff.2 fun lifted => ?_
  obtain ⟨target, found, same⟩ := (Option.any_eq_true _ _).1 lifted
  obtain ⟨allow, -, negates⟩ := Option.bind_eq_some_iff.1 found
  exact unlifted allow target negates (of_decide_eq_true same)

namespace Merge

/-- Some constraint of a rule names an entry. -/
def Occurs (cs : List Constraint) (rule entry : String) : Prop :=
  ∃ c ∈ cs, c.rule = rule ∧ c.mentions entry

/-- Some constraint of a rule with a severity names an entry. -/
def OccursAs (cs : List Constraint) (rule : String) (severity : Severity) (entry : String) : Prop :=
  ∃ c ∈ cs, c.rule = rule ∧ c.severity = severity ∧ c.mentions entry

/-- Of the constraints of some rules that name an entry, the last. -/
def lastWord? (cs : List Constraint) (rules : List String) (entry : String) : Option Constraint :=
  (cs.filter fun c => rules.contains c.rule && c.mentions entry).getLast?

theorem mentions_dropEntries (entries : List String) (c : Constraint) (entry : String) :
    { c with value := dropEntries entries c.value }.mentions entry = true ↔
      c.mentions entry = true ∧ (isList c.value = true → entry ∉ entries) := by
  cases value : c.value with
  | list items => simp [Constraint.mentions, value, dropEntries, ConstraintValue.toList?, isList]
  | text s => simp [Constraint.mentions, value, dropEntries, isList]
  | number n => simp [Constraint.mentions, value, dropEntries, isList]
  | coverage spec => simp [Constraint.mentions, value, dropEntries, isList]

/-- Whether something is left of a value from which allowed entries were taken. -/
def survives (allowed : List String) : ConstraintValue → Bool
  | .list items => !items.isEmpty
  | .text s => !allowed.contains s
  | _ => true

private theorem survives_of_mentions {allowed : List String} {c : Constraint} {entry : String}
    (named : c.mentions entry = true) (free : entry ∉ allowed) : survives allowed c.value = true := by
  obtain ⟨entries, list, member⟩ := Constraint.mentions_iff.1 named
  cases value : c.value with
  | list items =>
    rw [value] at list
    cases list
    simp [survives, List.ne_nil_of_mem member]
  | text s =>
    rw [value] at list
    cases list
    rw [List.mem_singleton] at member
    simp [survives, ← member, free]
  | number n => rfl
  | coverage spec => rfl

private theorem not_mem_of_survives {allowed : List String} {c : Constraint} {entry : String}
    (named : c.mentions entry = true) (scalar : isList c.value = false)
    (left : survives allowed c.value = true) : entry ∉ allowed := by
  obtain ⟨entries, list, member⟩ := Constraint.mentions_iff.1 named
  cases value : c.value with
  | list items => simp [value, isList] at scalar
  | text s =>
    rw [value] at list left
    cases list
    rw [List.mem_singleton] at member
    simpa [survives, ← member] using left
  | number n => simp [value, ConstraintValue.toList?] at list
  | coverage spec => simp [value, ConstraintValue.toList?] at list

theorem mem_negate {acc : List Constraint} {target : Rule} {allowed : List String} {d : Constraint} :
    d ∈ negate acc target allowed ↔ ∃ old ∈ acc,
      (old.rule ≠ target.name ∧ d = old) ∨
      (old.rule = target.name ∧ d = { old with value := dropEntries allowed old.value } ∧
        survives allowed d.value = true) := by
  have step : negate acc target allowed = (acc.map fun c =>
      if c.rule = target.name then { c with value := dropEntries allowed c.value } else c).filter
        fun c => c.rule ≠ target.name || survives allowed c.value := rfl
  rw [step, List.mem_filter, List.mem_map]
  constructor
  · rintro ⟨⟨old, inside, same⟩, kept⟩
    refine ⟨old, inside, ?_⟩
    by_cases rule : old.rule = target.name
    · rw [if_pos rule] at same
      subst same
      exact .inr ⟨rule, rfl, by simpa [rule] using kept⟩
    · rw [if_neg rule] at same
      exact .inl ⟨rule, same.symm⟩
  · rintro ⟨old, inside, ⟨rule, same⟩ | ⟨rule, same, left⟩⟩
    · subst same
      exact ⟨⟨d, inside, if_neg rule⟩, by simp [rule]⟩
    · exact ⟨⟨old, inside, by rw [if_pos rule, same]⟩, by simp [left]⟩

/-- Taking away what is allowed leaves all other entries where they are. -/
private theorem mentions_negate {acc : List Constraint} {target : Rule} {allowed : List String}
    {entry : String} {P : String → Severity → Prop} :
    (∃ d ∈ negate acc target allowed, P d.rule d.severity ∧ d.mentions entry) ↔
      ∃ d ∈ acc, P d.rule d.severity ∧ d.mentions entry ∧ ¬ (d.rule = target.name ∧ entry ∈ allowed) := by
  constructor
  · rintro ⟨d, member, holds, named⟩
    obtain ⟨old, inside, ⟨rule, same⟩ | ⟨rule, same, left⟩⟩ := mem_negate.1 member
    · subst same
      exact ⟨d, inside, holds, named, fun taken => rule taken.1⟩
    · subst same
      obtain ⟨before, list⟩ := (mentions_dropEntries allowed old entry).1 named
      refine ⟨old, inside, holds, before, fun taken => ?_⟩
      cases shape : isList old.value with
      | true => exact list shape taken.2
      | false =>
        apply not_mem_of_survives named _ left taken.2
        rwa [(within_dropEntries allowed old).isList_eq]
  · rintro ⟨old, inside, holds, named, left⟩
    by_cases rule : old.rule = target.name
    · have free : entry ∉ allowed := fun taken => left ⟨rule, taken⟩
      have still := (mentions_dropEntries allowed old entry).2 ⟨named, fun _ => free⟩
      exact ⟨_, mem_negate.2 ⟨old, inside, .inr ⟨rule, rfl, survives_of_mentions still free⟩⟩, holds, still⟩
    · exact ⟨old, mem_negate.2 ⟨old, inside, .inl ⟨rule, rfl⟩⟩, holds, named⟩

private theorem mentions_remaining (acc : List Constraint) (c : Constraint) (entry : String)
    (P : String → Severity → Prop) :
    (∃ d ∈ remaining acc c, P d.rule d.severity ∧ d.mentions entry) ↔
      ∃ d ∈ acc, P d.rule d.severity ∧ d.mentions entry ∧ ¬ (c.lifts d.rule ∧ c.mentions entry) := by
  unfold remaining
  split
  · rename_i target allowed negates list
    rw [mentions_negate]
    have named : c.mentions entry = true ↔ entry ∈ allowed := by simp [Constraint.mentions, list]
    have lifted (rule : String) : c.lifts rule = true ↔ rule = target.name := by
      simp [Constraint.lifts, negates, eq_comm]
    simp only [named, lifted]
  · rename_i none
    have never (d : Constraint) : ¬ (c.lifts d.rule = true ∧ c.mentions entry = true) := by
      rintro ⟨lifted, named⟩
      obtain ⟨entries, list, _⟩ := Constraint.mentions_iff.1 named
      obtain ⟨target, negates, _⟩ := (Option.any_eq_true _ _).1 lifted
      exact none target entries negates list
    simp only [never, not_false_eq_true, and_true]

private theorem isEmptyList_of_mentions {c : Constraint} {entry : String}
    (named : c.mentions entry = true) :
    isEmptyList c.value = false := by
  obtain ⟨entries, list, member⟩ := Constraint.mentions_iff.1 named
  cases value : c.value with
  | list items =>
    rw [value] at list
    cases list
    cases entries with
    | nil => exact absurd member List.not_mem_nil
    | cons _ _ => rfl
  | text s => rfl
  | number n => rfl
  | coverage spec => rfl

/-- Entries of the new list leave the lists of another severity, and nothing else does. -/
private theorem mentions_yieldEntries (acc : List Constraint) (c : Constraint) (items : List String)
    (entry : String) (P : String → Severity → Prop) :
    (∃ d ∈ yieldEntries acc c items, P d.rule d.severity ∧ d.mentions entry) ↔
      ∃ d ∈ acc, P d.rule d.severity ∧ d.mentions entry ∧
        ¬ (d.rule = c.rule ∧ d.severity ≠ c.severity ∧ isList d.value ∧ entry ∈ items) := by
  unfold yieldEntries
  constructor
  · rintro ⟨d, member, holds, named⟩
    obtain ⟨mapped, -⟩ := List.mem_filter.1 member
    obtain ⟨old, inside, same⟩ := List.mem_map.1 mapped
    by_cases other : (decide (old.rule = c.rule) && decide (old.severity ≠ c.severity)) = true
    · rw [if_pos other] at same
      subst same
      obtain ⟨before, list⟩ := (mentions_dropEntries items old entry).1 named
      exact ⟨old, inside, holds, before, fun taken => list taken.2.2.1 taken.2.2.2⟩
    · rw [if_neg other] at same
      subst same
      exact ⟨old, inside, holds, named, fun taken => other (by simp [taken.1, taken.2.1])⟩
  · rintro ⟨old, inside, holds, named, left⟩
    by_cases other : (decide (old.rule = c.rule) && decide (old.severity ≠ c.severity)) = true
    · have apart : old.rule = c.rule ∧ old.severity ≠ c.severity := by simpa using other
      have still := (mentions_dropEntries items old entry).2
        ⟨named, fun list taken => left ⟨apart.1, apart.2, list, taken⟩⟩
      refine ⟨_, List.mem_filter.2 ⟨List.mem_map.2 ⟨old, inside, if_pos other⟩, ?_⟩, holds, still⟩
      have nonempty : isEmptyList (dropEntries items old.value) = false := isEmptyList_of_mentions still
      simp [nonempty]
    · refine ⟨old, List.mem_filter.2 ⟨List.mem_map.2 ⟨old, inside, if_neg other⟩, ?_⟩, holds, named⟩
      simp only [other, Bool.false_and, Bool.not_false]

theorem Occurs.of_remaining {acc : List Constraint} {c : Constraint} {rule entry : String} :
    Occurs (remaining acc c) rule entry ↔
      Occurs acc rule entry ∧ ¬ (c.lifts rule ∧ c.mentions entry) := by
  have step := mentions_remaining acc c entry fun name _ => name = rule
  refine step.trans ⟨?_, ?_⟩
  · rintro ⟨d, member, same, named, left⟩
    exact ⟨⟨d, member, same, named⟩, by rwa [same] at left⟩
  · rintro ⟨⟨d, member, same, named⟩, left⟩
    exact ⟨d, member, same, named, by rwa [same]⟩

/-- A list constraint adds its entries to its rule, and no entry of any rule is lost. -/
private theorem occurs_mergeList {acc : List Constraint} {c : Constraint} {items : List String}
    (list : c.value = .list items) {rule entry : String} :
    Occurs (mergeList acc c items) rule entry ↔
      (c.rule = rule ∧ c.mentions entry) ∨ Occurs acc rule entry := by
  have yielded := mentions_yieldEntries acc c items entry fun name _ => name = rule
  have named : c.mentions entry = true ↔ entry ∈ items := Constraint.mentions_of_list list
  rw [named]
  rcases mergeList_cases acc c items with ⟨old, earlier, found, oldValue, result⟩ | ⟨_, result⟩
  · have like := List.find?_some found
    simp only [sameList, Bool.and_eq_true, decide_eq_true_eq] at like
    have united : { c with value := .list (unite earlier items) }.mentions entry = true ↔
        entry ∈ earlier ∨ entry ∈ items :=
      (Constraint.mentions_of_list rfl).trans mem_unite
    rw [result]
    constructor
    · rintro ⟨d, member, same, mentioned⟩
      rcases mem_replaceOrAppend member with new | inside
      · subst new
        rcases united.1 mentioned with before | own
        · obtain ⟨d, inside, same, mentioned, _⟩ := yielded.1 ⟨old, List.mem_of_find?_eq_some found,
            like.1.1.trans same, (Constraint.mentions_of_list oldValue).2 before⟩
          exact .inr ⟨d, inside, same, mentioned⟩
        · exact .inl ⟨same, own⟩
      · obtain ⟨d, inside, same, mentioned, _⟩ := yielded.1 ⟨d, inside, same, mentioned⟩
        exact .inr ⟨d, inside, same, mentioned⟩
    · have own : c.rule = rule → entry ∈ items → Occurs (replaceOrAppend (sameList c)
          { c with value := .list (unite earlier items) } (yieldEntries acc c items)) rule entry :=
        fun same inItems => ⟨_, self_mem_replaceOrAppend _ _ _, same, united.2 (.inr inItems)⟩
      rintro (⟨same, inItems⟩ | ⟨d, inside, same, mentioned⟩)
      · exact own same inItems
      · by_cases taken : d.rule = c.rule ∧ d.severity ≠ c.severity ∧ isList d.value ∧ entry ∈ items
        · exact own (taken.1.symm.trans same) taken.2.2.2
        · obtain ⟨d', inside', same', mentioned'⟩ := yielded.2 ⟨d, inside, same, mentioned, taken⟩
          rcases mem_replaceOrAppend_or_first { c with value := .list (unite earlier items) } inside' with
            kept | first
          · exact ⟨d', kept, same', mentioned'⟩
          · -- The list that is taken in hands its entries over.
            cases found.symm.trans first
            refine ⟨_, self_mem_replaceOrAppend _ _ _, like.1.1.symm.trans same', united.2 (.inl ?_)⟩
            exact (Constraint.mentions_of_list oldValue).1 mentioned'
  · rw [result]
    constructor
    · rintro ⟨d, member, same, mentioned⟩
      rcases List.mem_append.1 member with inside | last
      · obtain ⟨d, inside, same, mentioned, _⟩ := yielded.1 ⟨d, inside, same, mentioned⟩
        exact .inr ⟨d, inside, same, mentioned⟩
      · rw [List.mem_singleton.1 last] at same mentioned
        exact .inl ⟨same, named.1 mentioned⟩
    · have own : c.rule = rule → entry ∈ items →
          Occurs (yieldEntries acc c items ++ [c]) rule entry :=
        fun same inItems => ⟨c, by simp, same, named.2 inItems⟩
      rintro (⟨same, inItems⟩ | ⟨d, inside, same, mentioned⟩)
      · exact own same inItems
      · by_cases taken : d.rule = c.rule ∧ d.severity ≠ c.severity ∧ isList d.value ∧ entry ∈ items
        · exact own (taken.1.symm.trans same) taken.2.2.2
        · obtain ⟨d', inside', same', mentioned'⟩ := yielded.2 ⟨d, inside, same, mentioned, taken⟩
          exact ⟨d', List.mem_append_left _ inside', same', mentioned'⟩

/-- Replacing a constraint by one of the same rule and value keeps all entries. -/
theorem occurs_replaceOrAppend {acc : List Constraint} {like : Constraint → Bool} {c : Constraint}
    {rule entry : String}
    (alike : ∀ d, like d = true → d.rule = rule → d.rule = c.rule ∧ d.value = c.value) :
    Occurs (replaceOrAppend like c acc) rule entry ↔
      (c.rule = rule ∧ c.mentions entry) ∨ Occurs acc rule entry := by
  constructor
  · rintro ⟨d, member, same, mentioned⟩
    rcases mem_replaceOrAppend member with new | inside
    · subst new
      exact .inl ⟨same, mentioned⟩
    · exact .inr ⟨d, inside, same, mentioned⟩
  · rintro (⟨same, mentioned⟩ | ⟨d, inside, same, mentioned⟩)
    · exact ⟨c, self_mem_replaceOrAppend _ _ _, same, mentioned⟩
    · rcases mem_replaceOrAppend_or_first c inside with kept | first
      · exact ⟨d, kept, same, mentioned⟩
      · obtain ⟨ruleSame, valueSame⟩ := alike d (List.find?_some first) same
        exact ⟨c, self_mem_replaceOrAppend _ _ _, ruleSame.symm.trans same,
          (Constraint.mentions_congr valueSame entry).symm.trans mentioned⟩

/-- One merge: the new constraint brings its own entries and takes away those that it allows. -/
theorem occurs_merge {acc : List Constraint} {c : Constraint} {rule : String}
    (many : Rule.isSingleName rule = false) {entry : String} :
    Occurs (merge acc c) rule entry ↔
      (c.rule = rule ∧ c.mentions entry) ∨
      (Occurs acc rule entry ∧ ¬ (c.lifts rule ∧ c.mentions entry)) := by
  rw [← Occurs.of_remaining]
  cases single : c.isSingle with
  | true =>
    rw [merge_single single]
    apply occurs_replaceOrAppend
    intro d like same
    -- The rule keeps one constraint only, so it is another one.
    have equal : d.rule = c.rule := by simpa using like
    rw [Constraint.isSingle, ← equal, same, many] at single
    cases single
  | false =>
    cases shape : isList c.value with
    | true =>
      obtain ⟨items, list⟩ := isList_iff.1 shape
      rw [merge_list single list]
      exact occurs_mergeList list
    | false =>
      rw [merge_scalar single shape]
      apply occurs_replaceOrAppend
      intro d like _
      simpa using like

theorem within_of_mem_remaining {acc : List Constraint} {c d : Constraint}
    (member : d ∈ remaining acc c) : ∃ old ∈ acc, Within d old := by
  unfold remaining at member
  split at member
  · obtain ⟨old, inside, ⟨_, same⟩ | ⟨_, same, _⟩⟩ := mem_negate.1 member
    · exact ⟨old, inside, same ▸ Within.refl old⟩
    · exact ⟨old, inside, same ▸ within_dropEntries _ old⟩
  · exact ⟨d, member, Within.refl d⟩

private theorem within_of_mem_yieldEntries {acc : List Constraint} {c d : Constraint}
    {items : List String} (member : d ∈ yieldEntries acc c items) : ∃ old ∈ acc, Within d old := by
  obtain ⟨mapped, -⟩ := List.mem_filter.1 member
  obtain ⟨old, inside, same⟩ := List.mem_map.1 mapped
  refine ⟨old, inside, ?_⟩
  split at same
  · exact same ▸ within_dropEntries items old
  · exact same ▸ Within.refl old

theorem Within.trans {c d e : Constraint} (first : Within c d) (second : Within d e) : Within c e where
  rule := first.rule.trans second.rule
  severity := first.severity.trans second.severity
  list := by
    intro xs value
    obtain ⟨ys, value', sub⟩ := first.list xs value
    obtain ⟨zs, value'', sub'⟩ := second.list ys value'
    exact ⟨zs, value'', fun entry member => sub' entry (sub entry member)⟩
  scalar := by
    intro shape
    have same := first.scalar shape
    exact same.trans (second.scalar (same ▸ shape))

theorem Within.mentions {c d : Constraint} (inside : Within c d) {entry : String}
    (named : c.mentions entry = true) : d.mentions entry = true := by
  cases shape : isList c.value with
  | true =>
    obtain ⟨xs, value⟩ := isList_iff.1 shape
    obtain ⟨ys, value', sub⟩ := inside.list xs value
    exact (Constraint.mentions_of_list value').2 (sub entry ((Constraint.mentions_of_list value).1 named))
  | false => rwa [← Constraint.mentions_congr (inside.scalar shape)]

/-- What stands in a merged list. Either it is the new constraint, perhaps with the entries of an
earlier one of its rule and severity; or it is an earlier one, perhaps less some entries, among
them those of a new list of its rule with another severity. -/
theorem mem_merge {acc : List Constraint} {c d : Constraint} (member : d ∈ merge acc c) :
    (d.rule = c.rule ∧ d.severity = c.severity ∧ isList d.value = isList c.value ∧
      ∀ entry, d.mentions entry → c.mentions entry ∨ OccursAs acc c.rule c.severity entry) ∨
    (∃ old ∈ acc, Within d old ∧
      (c.isSingle = false → isList c.value → d.rule = c.rule → isList d.value →
        ∀ entry, d.mentions entry → c.mentions entry → d.severity = c.severity)) := by
  cases single : c.isSingle with
  | true =>
    rw [merge_single single] at member
    rcases mem_replaceOrAppend member with same | inside
    · subst same
      exact .inl ⟨rfl, rfl, rfl, fun _ => .inl⟩
    · obtain ⟨old, present, shrunk⟩ := within_of_mem_remaining inside
      exact .inr ⟨old, present, shrunk, by simp⟩
  | false =>
    cases shape : isList c.value with
    | false =>
      rw [merge_scalar single shape] at member
      rcases mem_replaceOrAppend member with same | inside
      · subst same
        exact .inl ⟨rfl, rfl, shape, fun _ => .inl⟩
      · obtain ⟨old, present, shrunk⟩ := within_of_mem_remaining inside
        exact .inr ⟨old, present, shrunk, by simp⟩
    | true =>
      obtain ⟨items, list⟩ := isList_iff.1 shape
      have named (entry : String) : c.mentions entry = true ↔ entry ∈ items :=
        Constraint.mentions_of_list list
      rw [merge_list single list] at member
      have yielded {e : Constraint} (inside : e ∈ yieldEntries (remaining acc c) c items) :
          ∃ old ∈ acc, Within e old := by
        obtain ⟨old, present, shrunk⟩ := within_of_mem_yieldEntries inside
        obtain ⟨first, there, before⟩ := within_of_mem_remaining present
        exact ⟨first, there, shrunk.trans before⟩
      have kept (inside : d ∈ yieldEntries (remaining acc c) c items) :
          ∃ old ∈ acc, Within d old ∧
            (false = false → true = true → d.rule = c.rule → isList d.value →
              ∀ entry, d.mentions entry → c.mentions entry → d.severity = c.severity) := by
        obtain ⟨old, present, shrunk⟩ := yielded inside
        refine ⟨old, present, shrunk, fun _ _ rule shapeD entry inD inC => ?_⟩
        obtain ⟨xs, value⟩ := isList_iff.1 shapeD
        apply Decidable.byContradiction
        intro severity
        exact not_mem_of_mem_yieldEntries inside rule severity value ((named entry).1 inC)
          ((Constraint.mentions_of_list value).1 inD)
      rcases mergeList_cases (remaining acc c) c items with ⟨old, earlier, found, value, result⟩ | ⟨_, result⟩
      · rw [result] at member
        rcases mem_replaceOrAppend member with same | inside
        · subst same
          refine .inl ⟨rfl, rfl, rfl, fun entry inD => ?_⟩
          rcases mem_unite.1 ((Constraint.mentions_of_list rfl).1 inD) with before | own
          · have like := List.find?_some found
            simp only [sameList, Bool.and_eq_true, decide_eq_true_eq] at like
            obtain ⟨first, there, shrunk⟩ := yielded (List.mem_of_find?_eq_some found)
            exact .inr ⟨first, there, shrunk.rule.symm.trans like.1.1,
              shrunk.severity.symm.trans like.1.2,
              shrunk.mentions ((Constraint.mentions_of_list value).2 before)⟩
          · exact .inl ((named entry).2 own)
        · exact .inr (kept inside)
      · rw [result] at member
        rcases List.mem_append.1 member with inside | last
        · exact .inr (kept inside)
        · rw [List.mem_singleton.1 last]
          exact .inl ⟨rfl, rfl, shape, fun _ => .inl⟩

theorem merge_lists {acc : List Constraint} {c : Constraint} {rule : String}
    (lists : ∀ d ∈ acc, d.rule = rule → isList d.value = true)
    (own : c.rule = rule → isList c.value = true) :
    ∀ d ∈ merge acc c, d.rule = rule → isList d.value = true := by
  intro d member same
  rcases mem_merge member with ⟨ruleC, -, shape, -⟩ | ⟨old, inside, shrunk, -⟩
  · rw [shape]
    exact own (ruleC.symm.trans same)
  · rw [shrunk.isList_eq]
    exact lists old inside (shrunk.rule.symm.trans same)

/-- Where all constraints of a rule are lists, an entry has the severity of the one that named it
last: the new one if it names the entry, else that of before. -/
theorem occursAs_merge {acc : List Constraint} {c : Constraint} {rule entry : String}
    {severity : Severity} (many : Rule.isSingleName rule = false)
    (lists : ∀ d ∈ acc, d.rule = rule → isList d.value = true)
    (own : c.rule = rule → isList c.value = true)
    (occurs : OccursAs (merge acc c) rule severity entry) :
    (c.rule = rule ∧ c.mentions entry ∧ c.severity = severity) ∨
      (¬ (c.rule = rule ∧ c.mentions entry) ∧ OccursAs acc rule severity entry) := by
  obtain ⟨d, member, same, level, named⟩ := occurs
  by_cases last : c.rule = rule ∧ c.mentions entry
  · refine .inl ⟨last.1, last.2, ?_⟩
    rcases mem_merge member with ⟨_, severityC, _, _⟩ | ⟨old, inside, shrunk, apart⟩
    · exact severityC.symm.trans level
    · have single : c.isSingle = false := by rw [Constraint.isSingle, last.1, many]
      have shape : isList d.value = true := by
        rw [shrunk.isList_eq]
        exact lists old inside (shrunk.rule.symm.trans same)
      have equal := apart single (own last.1) (same.trans last.1.symm) shape entry named last.2
      exact equal.symm.trans level
  · refine .inr ⟨last, ?_⟩
    rcases mem_merge member with ⟨ruleC, severityC, _, entries⟩ | ⟨old, inside, shrunk, _⟩
    · rcases entries entry named with own | before
      · exact absurd ⟨ruleC.symm.trans same, own⟩ last
      · rw [← same, ← level, ruleC, severityC]
        exact before
    · exact ⟨old, inside, shrunk.rule.symm.trans same, shrunk.severity.symm.trans level,
        shrunk.mentions named⟩

theorem mergeAll_concat (cs : List Constraint) (c : Constraint) :
    mergeAll [] (cs ++ [c]) = merge (mergeAll [] cs) c := by
  simp [mergeAll]

theorem lastWord?_concat (cs : List Constraint) (c : Constraint) (rules : List String) (entry : String) :
    lastWord? (cs ++ [c]) rules entry =
      if rules.contains c.rule && c.mentions entry then some c else lastWord? cs rules entry := by
  unfold lastWord?
  simp only [List.filter_append, List.filter_cons, List.filter_nil]
  split
  · exact List.getLast?_concat
  · rw [List.append_nil]

/-- An entry of a rule is there exactly if the rule had the last word on it. -/
theorem occurs_mergeAll_iff {allow forbid : Rule} (negates : allow.negates? = some forbid)
    (cs : List Constraint) (entry : String) :
    Occurs (mergeAll [] cs) forbid.name entry ↔
      ∃ c, lastWord? cs [forbid.name, allow.name] entry = some c ∧ c.rule = forbid.name := by
  have many : Rule.isSingleName forbid.name = false := by
    cases allow <;> cases negates <;> decide
  have different : allow.name ≠ forbid.name := by
    cases allow <;> cases negates <;> decide
  have lifted (c : Constraint) : c.lifts forbid.name = true ↔ c.rule = allow.name := by
    rw [Constraint.lifts_iff]
    constructor
    · rintro ⟨other, negates', rule⟩
      have same : other = allow := by
        cases allow <;> cases negates <;> cases other <;> cases negates' <;> rfl
      rw [rule, same]
    · intro rule
      exact ⟨allow, negates, rule⟩
  induction cs using List.reverseRecOn with
  | nil => simp [Occurs, mergeAll, lastWord?]
  | append_singleton cs c ih =>
    have before : Occurs (mergeAll [] cs) forbid.name entry ↔ _ := ih
    rw [mergeAll_concat, occurs_merge many, lastWord?_concat, lifted, before]
    by_cases named : c.mentions entry = true
    · by_cases own : c.rule = forbid.name
      · simp [own, named]
      · by_cases allowed : c.rule = allow.name
        · simp [allowed, named, different]
        · simp [own, allowed]
    · simp [named]

/-- Of lists, only lists come. -/
theorem mergeAll_lists {rule : String} {cs : List Constraint}
    (lists : ∀ c ∈ cs, c.rule = rule → isList c.value = true) :
    ∀ d ∈ mergeAll [] cs, d.rule = rule → isList d.value = true := by
  induction cs using List.reverseRecOn with
  | nil => exact fun d member => absurd member List.not_mem_nil
  | append_singleton cs c ih =>
    rw [mergeAll_concat]
    exact merge_lists (ih fun d member => lists d (List.mem_append_left _ member))
      (lists c (by simp))

/-- Where all of a rule's constraints are lists, each entry has the severity of the last that
names it. -/
theorem occursAs_mergeAll {rule : String} (many : Rule.isSingleName rule = false)
    {cs : List Constraint} (lists : ∀ c ∈ cs, c.rule = rule → isList c.value = true)
    {severity : Severity} {entry : String} (occurs : OccursAs (mergeAll [] cs) rule severity entry) :
    ∃ c, lastWord? cs [rule] entry = some c ∧ c.severity = severity := by
  induction cs using List.reverseRecOn with
  | nil =>
    obtain ⟨_, member, _⟩ := occurs
    exact absurd member List.not_mem_nil
  | append_singleton cs c ih =>
    have before : ∀ d ∈ cs, d.rule = rule → isList d.value = true :=
      fun d member => lists d (List.mem_append_left _ member)
    rw [mergeAll_concat] at occurs
    rw [lastWord?_concat]
    rcases occursAs_merge many (mergeAll_lists before) (lists c (by simp)) occurs with
      ⟨own, named, level⟩ | ⟨other, earlier⟩
    · exact ⟨c, by simp [own, named], level⟩
    · obtain ⟨last, found, level⟩ := ih before earlier
      refine ⟨last, ?_, level⟩
      rw [if_neg, found]
      simpa using other

/-- A rule that nothing lifts loses no entry. -/
theorem occurs_mergeAll_of_unlifted {rule : String} (many : Rule.isSingleName rule = false)
    (unlifted : ∀ allow forbid : Rule, allow.negates? = some forbid → forbid.name ≠ rule)
    {cs : List Constraint} {c : Constraint} (member : c ∈ cs) (own : c.rule = rule) {entry : String}
    (named : c.mentions entry = true) : Occurs (mergeAll [] cs) rule entry := by
  induction cs using List.reverseRecOn with
  | nil => exact absurd member List.not_mem_nil
  | append_singleton cs d ih =>
    rw [mergeAll_concat, occurs_merge many]
    rcases List.mem_append.1 member with inside | last
    · exact .inr ⟨ih inside, by simp [Constraint.lifts_eq_false unlifted d]⟩
    · rw [List.mem_singleton.1 last] at own named
      exact .inl ⟨own, named⟩

end Merge

end Conformance
