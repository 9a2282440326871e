import Conformance.Proofs.Resolution.Entries

/-! Merging one constraint twice in a row. The first merge leaves nothing for the second to take
away, and the second finds the constraint in its place, with all of its entries. -/
namespace Conformance

/-- No constraint takes entries away from its own rule. -/
theorem Constraint.lifts_own (c : Constraint) : c.lifts c.rule = false := by
  refine Bool.eq_false_iff.2 fun lifted => ?_
  obtain ⟨target, found, same⟩ := (Option.any_eq_true _ _).1 lifted
  have own : target.name = c.rule := of_decide_eq_true same
  rw [← own] at lifted
  obtain ⟨allow, negates, rule⟩ := Constraint.lifts_iff.1 lifted
  have equal := Rule.name_injective (own.trans rule)
  cases allow <;> cases negates <;> cases equal

namespace Merge

section Place

variable {like : Constraint → Bool} {c : Constraint}

private theorem find?_replaceOrAppend (itself : like c = true) (acc : List Constraint) :
    (replaceOrAppend like c acc).find? like = some c := by
  induction acc with
  | nil => exact List.find?_cons_of_pos itself
  | cons first rest ih =>
    unfold replaceOrAppend
    split
    · exact List.find?_cons_of_pos itself
    · rename_i unlike
      rwa [List.find?_cons_of_neg unlike]

theorem replaceOrAppend_again (itself : like c = true) (acc : List Constraint) :
    replaceOrAppend like c (replaceOrAppend like c acc) = replaceOrAppend like c acc := by
  induction acc with
  | nil => simp [replaceOrAppend, itself]
  | cons first rest ih =>
    cases alike : like first with
    | true => simp [replaceOrAppend, alike, itself]
    | false => simp [replaceOrAppend, alike, ih]

private theorem replaceOrAppend_of_unlike {acc : List Constraint}
    (unlike : ∀ e ∈ acc, like e = false) :
    replaceOrAppend like c acc = acc ++ [c] := by
  induction acc with
  | nil => rfl
  | cons first rest ih =>
    obtain ⟨here, later⟩ := List.forall_mem_cons.1 unlike
    simp [replaceOrAppend, here, ih later]

end Place

section Thinning

/-- Take entries out of some constraints, and leave out those of them that do not last. -/
def thin (touched : Constraint → Bool) (entries : List String) (lasts : ConstraintValue → Bool)
    (acc : List Constraint) : List Constraint :=
  (acc.map fun d => if touched d then { d with value := dropEntries entries d.value } else d).filter
    fun d => !touched d || lasts d.value

/-- A constraint from which nothing is left to take. -/
def Settled (touched : Constraint → Bool) (entries : List String) (lasts : ConstraintValue → Bool)
    (d : Constraint) : Prop :=
  touched d = true → dropEntries entries d.value = d.value ∧ lasts d.value = true

theorem negate_eq_thin (acc : List Constraint) (target : Rule) (allowed : List String) :
    negate acc target allowed = thin (fun d => d.rule = target.name) allowed (survives allowed) acc := by
  simp only [thin, decide_eq_true_eq, ← decide_not]
  rfl

/-- The constraints whose entries go over to a list constraint. -/
def otherSeverity (c e : Constraint) : Bool := e.rule = c.rule && e.severity ≠ c.severity

theorem yieldEntries_eq_thin (acc : List Constraint) (c : Constraint) (items : List String) :
    yieldEntries acc c items =
      thin (otherSeverity c) items (fun value => !isEmptyList value) acc := by
  simp only [thin, ← Bool.not_and]
  rfl

variable {touched : Constraint → Bool} {entries : List String} {lasts : ConstraintValue → Bool}
  {acc : List Constraint}

private theorem dropEntries_again (entries : List String) (value : ConstraintValue) :
    dropEntries entries (dropEntries entries value) = dropEntries entries value := by
  cases value <;> simp [dropEntries]

theorem thin_of_settled (settled : ∀ d ∈ acc, Settled touched entries lasts d) :
    thin touched entries lasts acc = acc := by
  have same : (acc.map fun d =>
      if touched d then { d with value := dropEntries entries d.value } else d) = acc := by
    refine (List.map_congr_left fun d member => ?_).trans (List.map_id acc)
    split
    · rename_i here
      rw [(settled d member here).1]
      rfl
    · rfl
  rw [thin, same, List.filter_eq_self]
  intro d member
  cases here : touched d with
  | true => simpa using (settled d member here).2
  | false => rfl

theorem settled_of_mem_thin {d : Constraint} (member : d ∈ thin touched entries lasts acc) :
    Settled touched entries lasts d := by
  intro here
  obtain ⟨mapped, kept⟩ := List.mem_filter.1 member
  obtain ⟨old, -, same⟩ := List.mem_map.1 mapped
  refine ⟨?_, by simpa [here] using kept⟩
  split at same
  · rw [← same, dropEntries_again]
  · rename_i before
    rw [same] at before
    exact absurd here before

end Thinning

section Lists

variable {c : Constraint} {items : List String}

private theorem unite_eq_self {new : List String} (inside : ∀ entry ∈ new, entry ∈ items) :
    unite items new = items := by
  unfold unite
  induction new with
  | nil => rfl
  | cons head rest ih =>
    obtain ⟨here, later⟩ := List.forall_mem_cons.1 inside
    rw [List.foldl_cons, if_pos (List.contains_iff_mem.2 here)]
    exact ih later

/-- A merged list constraint stands in one place, with its own entries and perhaps others. -/
theorem mergeList_placed (list : c.value = .list items) (acc : List Constraint) :
    ∃ entries, (∀ entry ∈ items, entry ∈ entries) ∧ mergeList acc c items =
      replaceOrAppend (sameList c) { c with value := .list entries } (yieldEntries acc c items) := by
  rcases mergeList_cases acc c items with ⟨_, earlier, _, _, result⟩ | ⟨unlike, result⟩
  · exact ⟨unite earlier items, fun entry member => mem_unite.2 (.inr member), result⟩
  · refine ⟨items, fun entry member => member, ?_⟩
    rw [result, replaceOrAppend_of_unlike unlike, ← list]

theorem mergeList_again (list : c.value = .list items) (acc : List Constraint) :
    mergeList (mergeList acc c items) c items = mergeList acc c items := by
  obtain ⟨entries, own, placed⟩ := mergeList_placed list acc
  have itself : sameList c { c with value := .list entries } = true := by simp [sameList, isList]
  have settled : yieldEntries (mergeList acc c items) c items = mergeList acc c items := by
    rw [yieldEntries_eq_thin]
    apply thin_of_settled
    intro d member
    rw [placed] at member
    rcases mem_replaceOrAppend member with new | before
    · rw [new]
      simp [Settled, otherSeverity]
    · rw [yieldEntries_eq_thin] at before
      exact settled_of_mem_thin before
  have found := find?_replaceOrAppend itself (yieldEntries acc c items)
  rw [← placed] at found
  rw [mergeList_eq, settled, found]
  dsimp only
  rw [unite_eq_self own, placed]
  exact replaceOrAppend_again itself _

end Lists

section Remaining

variable {acc : List Constraint} {c d : Constraint}

/-- A constraint that another takes nothing away from. -/
def Spared (c d : Constraint) : Prop :=
  ∀ target allowed, c.rule?.bind Rule.negates? = some target → c.value.toList? = some allowed →
    Settled (fun d => d.rule = target.name) allowed (survives allowed) d

private theorem remaining_of_spared (spared : ∀ d ∈ acc, Spared c d) : remaining acc c = acc := by
  unfold remaining
  split
  · rename_i target allowed negates list
    rw [negate_eq_thin]
    exact thin_of_settled fun d member => spared d member target allowed negates list
  · rfl

private theorem spared_of_mem_remaining (member : d ∈ remaining acc c) : Spared c d := by
  intro target allowed negates list
  have step : remaining acc c = negate acc target allowed := by
    unfold remaining
    rw [negates, list]
  rw [step, negate_eq_thin] at member
  exact settled_of_mem_thin member

private theorem spared_of_same_rule (same : d.rule = c.rule) : Spared c d := by
  intro target allowed negates _ rule
  have own := Constraint.lifts_own c
  rw [decide_eq_true_eq, same] at rule
  simp [Constraint.lifts, negates, rule] at own

/-- What a merge adds or changes is of the rule of the new constraint. -/
theorem mem_merge_or_remaining (member : d ∈ merge acc c) : d.rule = c.rule ∨ d ∈ remaining acc c := by
  have replaced {like : Constraint → Bool} {new : Constraint} {cs : List Constraint}
      (inside : d ∈ replaceOrAppend like new cs) (own : new.rule = c.rule) :
      d.rule = c.rule ∨ d ∈ cs := by
    rcases mem_replaceOrAppend inside with same | before
    · exact .inl (same ▸ own)
    · exact .inr before
  cases single : c.isSingle with
  | true =>
    rw [merge_single single] at member
    exact replaced member rfl
  | false =>
    cases shape : isList c.value with
    | false =>
      rw [merge_scalar single shape] at member
      exact replaced member rfl
    | true =>
      obtain ⟨items, list⟩ := isList_iff.1 shape
      have yielded (inside : d ∈ yieldEntries (remaining acc c) c items) :
          d.rule = c.rule ∨ d ∈ remaining acc c := by
        obtain ⟨mapped, -⟩ := List.mem_filter.1 inside
        obtain ⟨old, before, same⟩ := List.mem_map.1 mapped
        split at same
        · rename_i other
          simp only [Bool.and_eq_true, decide_eq_true_eq] at other
          rw [← same]
          exact .inl other.1
        · exact .inr (same ▸ before)
      obtain ⟨entries, -, placed⟩ := mergeList_placed list (remaining acc c)
      rw [merge_list single list, placed] at member
      exact (replaced member rfl).elim .inl yielded

/-- After a merge, the constraint finds nothing more to take away. -/
theorem remaining_merge (acc : List Constraint) (c : Constraint) :
    remaining (merge acc c) c = merge acc c := by
  apply remaining_of_spared
  intro d member
  rcases mem_merge_or_remaining member with same | left
  · exact spared_of_same_rule same
  · exact spared_of_mem_remaining left

end Remaining

/-- Merging a constraint twice in a row gives the list that merging it once gives, whatever its rule,
shape and severity and whatever was merged before. -/
theorem repeat_changes_nothing (acc : List Constraint) (c : Constraint) :
    merge (merge acc c) c = merge acc c := by
  have left := remaining_merge acc c
  cases single : c.isSingle with
  | true =>
    have step (acc : List Constraint) :
        merge acc c = replaceOrAppend (fun e => e.rule = c.rule) c (remaining acc c) :=
      merge_single single
    rw [step (merge acc c), left, step acc]
    exact replaceOrAppend_again (by simp) _
  | false =>
    cases shape : isList c.value with
    | true =>
      obtain ⟨items, list⟩ := isList_iff.1 shape
      have step (acc : List Constraint) : merge acc c = mergeList (remaining acc c) c items :=
        merge_list single list
      rw [step (merge acc c), left, step acc]
      exact mergeList_again list _
    | false =>
      have step (acc : List Constraint) : merge acc c =
          replaceOrAppend (fun e => e.rule = c.rule && e.value = c.value) c (remaining acc c) :=
        merge_scalar single shape
      rw [step (merge acc c), left, step acc]
      exact replaceOrAppend_again (by simp) _

/-- An entry that a list names twice stays in it twice. -/
example :
    let c := Constraint.ofRule .forbidCall (.list ["eval", "eval"])
    merge [] c = [c] ∧ merge [c] c = [c] := by decide +kernel

end Merge

end Conformance
