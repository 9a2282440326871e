import Conformance.Resolution.Merge

/-! Merging one constraint, branch by branch, and what holds of the list after any number of
merges: singleton rules, lists of one rule and severity, and equal scalars stand there at most
once, and no entry belongs to both severities of a rule. All four say that any two constraints of
the list are compatible. -/
namespace Conformance

/-- Whether a flattened architecture keeps one constraint only of the rule with a name. -/
def Rule.isSingleName (name : String) : Bool := ((Rule.ofName? name).map Rule.isSingleton).getD false

def Constraint.isSingle (c : Constraint) : Bool := Rule.isSingleName c.rule

@[simp] theorem Rule.ofName?_name (rule : Rule) : Rule.ofName? rule.name = some rule := by
  cases rule <;> decide

theorem Rule.name_injective {a b : Rule} (same : a.name = b.name) : a = b := by
  have found := Rule.ofName?_name a
  rw [same, Rule.ofName?_name] at found
  exact (Option.some.inj found).symm

theorem Rule.name_of_ofName? {name : String} {rule : Rule} (found : Rule.ofName? name = some rule) :
    rule.name = name := by
  have same := List.find?_some found
  simpa using same

namespace Merge

/-- What is left of earlier constraints once a constraint has taken away what it allows. -/
def remaining (acc : List Constraint) (c : Constraint) : List Constraint :=
  match c.rule?.bind Rule.negates?, c.value.toList? with
  | some target, some allowed => negate acc target allowed
  | _, _ => acc

theorem merge_single {acc : List Constraint} {c : Constraint} (single : c.isSingle = true) :
    merge acc c = replaceOrAppend (fun e => e.rule = c.rule) c (remaining acc c) :=
  if_pos single

theorem merge_list {acc : List Constraint} {c : Constraint} {items : List String}
    (many : c.isSingle = false) (list : c.value = .list items) :
    merge acc c = mergeList (remaining acc c) c items := by
  have step : merge acc c = if c.isSingle then _ else _ := rfl
  rw [step, many, if_neg Bool.false_ne_true]
  split
  · rename_i items' list'
    cases list.symm.trans list'
    rfl
  · rename_i scalar
    exact absurd list (scalar items)

theorem merge_scalar {acc : List Constraint} {c : Constraint} (many : c.isSingle = false)
    (scalar : isList c.value = false) :
    merge acc c =
      replaceOrAppend (fun e => e.rule = c.rule && e.value = c.value) c (remaining acc c) := by
  have step : merge acc c = if c.isSingle then _ else _ := rfl
  rw [step, many, if_neg Bool.false_ne_true]
  split
  · rename_i items list
    simp [list, isList] at scalar
  · rfl

/-- The constraints that a list constraint unites with. -/
def sameList (c e : Constraint) : Bool := e.rule = c.rule && e.severity = c.severity && isList e.value

theorem isList_iff {value : ConstraintValue} : isList value = true ↔ ∃ items, value = .list items := by
  cases value <;> simp [isList]

theorem mergeList_eq (acc : List Constraint) (c : Constraint) (items : List String) :
    mergeList acc c items = match (yieldEntries acc c items).find? (sameList c) with
    | some { value := .list earlier, .. } => replaceOrAppend (sameList c)
        { c with value := .list (unite earlier items) } (yieldEntries acc c items)
    | _ => yieldEntries acc c items ++ [c] :=
  rfl

/-- A list constraint takes the place of the list it unites with, or stands at the end. -/
theorem mergeList_cases (acc : List Constraint) (c : Constraint) (items : List String) :
    (∃ old earlier, (yieldEntries acc c items).find? (sameList c) = some old ∧
      old.value = .list earlier ∧ mergeList acc c items = replaceOrAppend (sameList c)
        { c with value := .list (unite earlier items) } (yieldEntries acc c items)) ∨
    ((∀ e ∈ yieldEntries acc c items, sameList c e = false) ∧
      mergeList acc c items = yieldEntries acc c items ++ [c]) := by
  cases found : (yieldEntries acc c items).find? (sameList c) with
  | none =>
    refine .inr ⟨fun e member => ?_, by rw [mergeList_eq, found]⟩
    simpa using List.find?_eq_none.1 found e member
  | some old =>
    have like := List.find?_some found
    have list : isList old.value = true := by
      simp only [sameList, Bool.and_eq_true] at like
      exact like.2
    obtain ⟨earlier, value⟩ := isList_iff.1 list
    refine .inl ⟨old, earlier, rfl, value, ?_⟩
    obtain ⟨⟩ := old
    simp only at value
    subst value
    rw [mergeList_eq, found]

@[simp] theorem mem_unite {items new : List String} {entry : String} :
    entry ∈ unite items new ↔ entry ∈ items ∨ entry ∈ new := by
  unfold unite
  induction new generalizing items with
  | nil => simp
  | cons head rest ih =>
    rw [List.foldl_cons, ih]
    split
    · rename_i present
      rw [List.contains_iff_mem] at present
      constructor
      · rintro (old | later)
        · exact .inl old
        · exact .inr (List.mem_cons_of_mem _ later)
      · rintro (old | new)
        · exact .inl old
        · rcases List.mem_cons.1 new with same | later
          · exact .inl (same ▸ present)
          · exact .inr later
    · simp [or_assoc]

/-- Whatever holds of all constraints but those replaced, and of the new one, holds after. -/
theorem mem_replaceOrAppend {like : Constraint → Bool} {c d : Constraint} {acc : List Constraint}
    (member : d ∈ replaceOrAppend like c acc) : d = c ∨ d ∈ acc := by
  induction acc with
  | nil => exact .inl (List.mem_singleton.1 member)
  | cons first rest ih =>
    unfold replaceOrAppend at member
    split at member
    · rcases List.mem_cons.1 member with same | inside
      · exact .inl same
      · exact .inr (List.mem_cons_of_mem _ inside)
    · rcases List.mem_cons.1 member with same | inside
      · exact .inr (same ▸ List.mem_cons_self)
      · exact (ih inside).imp id (List.mem_cons_of_mem _)

theorem self_mem_replaceOrAppend (like : Constraint → Bool) (c : Constraint) (acc : List Constraint) :
    c ∈ replaceOrAppend like c acc := by
  induction acc with
  | nil => exact List.mem_singleton_self c
  | cons first rest ih =>
    unfold replaceOrAppend
    split
    · exact List.mem_cons_self
    · exact List.mem_cons_of_mem _ ih

/-- Only the first constraint like the new one goes. -/
theorem mem_replaceOrAppend_or_first {like : Constraint → Bool} (c : Constraint) {d : Constraint}
    {acc : List Constraint} (member : d ∈ acc) :
    d ∈ replaceOrAppend like c acc ∨ acc.find? like = some d := by
  induction acc with
  | nil => exact absurd member List.not_mem_nil
  | cons first rest ih =>
    unfold replaceOrAppend
    split
    · rename_i replaced
      rcases List.mem_cons.1 member with same | inside
      · subst same
        exact .inr (List.find?_cons_of_pos replaced)
      · exact .inl (List.mem_cons_of_mem _ inside)
    · rename_i unlike
      rw [List.find?_cons_of_neg unlike]
      rcases List.mem_cons.1 member with same | inside
      · exact .inl (same ▸ List.mem_cons_self)
      · exact (ih inside).imp (List.mem_cons_of_mem _) id

/-- Two constraints that may stand side by side. -/
def Compatible (c d : Constraint) : Prop :=
  c.rule = d.rule →
    c.isSingle = false ∧
    (∀ xs ys, c.value = .list xs → d.value = .list ys → c.severity ≠ d.severity ∧ ∀ e ∈ xs, e ∉ ys) ∧
    (isList c.value = false → isList d.value = false → c.value ≠ d.value)

theorem Compatible.symm {c d : Constraint} (compatible : Compatible c d) : Compatible d c := by
  intro rule
  obtain ⟨many, lists, scalars⟩ := compatible rule.symm
  refine ⟨by simpa [Constraint.isSingle, rule] using many, ?_, ?_⟩
  · intro ys xs valueD valueC
    obtain ⟨severity, apart⟩ := lists xs ys valueC valueD
    exact ⟨Ne.symm severity, fun e inY inX => apart e inX inY⟩
  · intro scalarD scalarC
    exact Ne.symm (scalars scalarC scalarD)

theorem compatible_of_ne {acc : List Constraint} (compatible : acc.Pairwise Compatible)
    {c d : Constraint} (inC : c ∈ acc) (inD : d ∈ acc) (different : c ≠ d) : Compatible c d := by
  let Apart (a b : Constraint) : Prop := a ≠ b → Compatible a b
  have forward : acc.Pairwise Apart := by
    apply compatible.imp
    intro a b pair _
    exact pair
  have backward : acc.Pairwise (flip Apart) := by
    apply compatible.imp
    intro a b pair _
    exact pair.symm
  have itself : ∀ a ∈ acc, Apart a a := fun a _ same => absurd rfl same
  exact List.Pairwise.forall_of_forall_of_flip itself forward backward inC inD different

/-- A constraint with some entries taken out of its list, or the constraint itself. -/
structure Within (c d : Constraint) : Prop where
  rule : c.rule = d.rule
  severity : c.severity = d.severity
  list : ∀ xs, c.value = .list xs → ∃ ys, d.value = .list ys ∧ ∀ e ∈ xs, e ∈ ys
  scalar : isList c.value = false → c.value = d.value

theorem Within.refl (c : Constraint) : Within c c :=
  ⟨rfl, rfl, fun xs value => ⟨xs, value, fun _ member => member⟩, fun _ => rfl⟩

theorem within_dropEntries (entries : List String) (c : Constraint) :
    Within { c with value := dropEntries entries c.value } c := by
  obtain ⟨rule, value⟩ := c
  cases value with
  | list items =>
    refine ⟨rfl, rfl, ?_, by simp [dropEntries, isList]⟩
    intro xs same
    cases same
    exact ⟨items, rfl, fun e member => (List.mem_filter.1 member).1⟩
  | number n => exact Within.refl _
  | text s => exact Within.refl _
  | coverage spec => exact Within.refl _

theorem Within.isList_eq {c d : Constraint} (inside : Within c d) : isList c.value = isList d.value := by
  cases shape : isList c.value with
  | true =>
    obtain ⟨xs, value⟩ := isList_iff.1 shape
    obtain ⟨ys, list, -⟩ := inside.list xs value
    rw [list]
    rfl
  | false => rw [← inside.scalar shape, shape]

theorem Within.compatible {c c' d d' : Constraint} (left : Within c' c) (right : Within d' d)
    (compatible : Compatible c d) : Compatible c' d' := by
  intro rule
  obtain ⟨many, lists, scalars⟩ := compatible (left.rule.symm.trans (rule.trans right.rule))
  refine ⟨by simpa [Constraint.isSingle, left.rule] using many, ?_, ?_⟩
  · intro xs ys valueC valueD
    obtain ⟨xs', valueC', subX⟩ := left.list xs valueC
    obtain ⟨ys', valueD', subY⟩ := right.list ys valueD
    obtain ⟨severity, apart⟩ := lists xs' ys' valueC' valueD'
    rw [left.severity, right.severity]
    exact ⟨severity, fun e inX inY => apart e (subX e inX) (subY e inY)⟩
  · intro scalarC scalarD
    have sameC := left.scalar scalarC
    have sameD := right.scalar scalarD
    rw [sameC] at scalarC ⊢
    rw [sameD] at scalarD ⊢
    exact scalars scalarC scalarD

theorem pairwise_map_within {acc : List Constraint} {f : Constraint → Constraint}
    (shrinks : ∀ c, Within (f c) c) (compatible : acc.Pairwise Compatible) :
    (acc.map f).Pairwise Compatible :=
  List.pairwise_map.2 (compatible.imp fun pair => (shrinks _).compatible (shrinks _) pair)

private theorem negate_compatible {acc : List Constraint} (target : Rule) (allowed : List String)
    (compatible : acc.Pairwise Compatible) : (negate acc target allowed).Pairwise Compatible := by
  apply List.Pairwise.filter
  apply pairwise_map_within _ compatible
  intro c
  split
  · exact within_dropEntries allowed c
  · exact Within.refl c

private theorem remaining_compatible {acc : List Constraint} (c : Constraint)
    (compatible : acc.Pairwise Compatible) : (remaining acc c).Pairwise Compatible := by
  unfold remaining
  split
  · exact negate_compatible _ _ compatible
  · exact compatible

private theorem yieldEntries_compatible {acc : List Constraint} (c : Constraint)
    (items : List String)
    (compatible : acc.Pairwise Compatible) : (yieldEntries acc c items).Pairwise Compatible := by
  apply List.Pairwise.filter
  apply pairwise_map_within _ compatible
  intro e
  split
  · exact within_dropEntries items e
  · exact Within.refl e

/-- A constraint may take the place of one like it if it is compatible with all unlike it, and if
no two compatible constraints are both like it. -/
theorem replaceOrAppend_compatible {like : Constraint → Bool} {c : Constraint}
    {acc : List Constraint} (compatible : acc.Pairwise Compatible)
    (others : ∀ e ∈ acc, like e = false → Compatible c e)
    (once : ∀ a b, like a = true → like b = true → ¬ Compatible a b) :
    (replaceOrAppend like c acc).Pairwise Compatible := by
  induction acc with
  | nil => exact List.pairwise_singleton _ c
  | cons first rest ih =>
    obtain ⟨ahead, pairs⟩ := List.pairwise_cons.1 compatible
    unfold replaceOrAppend
    split
    · rename_i replaced
      refine List.pairwise_cons.2 ⟨fun e member => ?_, pairs⟩
      cases alike : like e with
      | false => exact others e (List.mem_cons_of_mem _ member) alike
      | true => exact absurd (ahead e member) (once first e replaced alike)
    · rename_i unlike
      refine List.pairwise_cons.2 ⟨fun e member => ?_,
        ih pairs fun e member => others e (List.mem_cons_of_mem _ member)⟩
      rcases mem_replaceOrAppend member with same | inside
      · rw [same]
        exact (others first List.mem_cons_self (by simpa using unlike)).symm
      · exact ahead e inside

/-- After yielding, an entry of the new list stands in no list of another severity. -/
theorem not_mem_of_mem_yieldEntries {acc : List Constraint} {c e : Constraint} {items xs : List String}
    (member : e ∈ yieldEntries acc c items) (rule : e.rule = c.rule) (severity : e.severity ≠ c.severity)
    (value : e.value = .list xs) {entry : String} (inside : entry ∈ items) : entry ∉ xs := by
  obtain ⟨mapped, -⟩ := List.mem_filter.1 member
  obtain ⟨old, -, same⟩ := List.mem_map.1 mapped
  by_cases other : (decide (old.rule = c.rule) && decide (old.severity ≠ c.severity)) = true
  · rw [if_pos other] at same
    subst same
    cases shape : old.value with
    | list ys =>
      simp only [shape, dropEntries, ConstraintValue.list.injEq] at value
      subst value
      simp [inside]
    | number n => simp [shape, dropEntries] at value
    | text s => simp [shape, dropEntries] at value
    | coverage spec => simp [shape, dropEntries] at value
  · rw [if_neg other] at same
    subst same
    simp [rule, severity] at other

theorem isSingle_congr {c d : Constraint} (rule : c.rule = d.rule) : c.isSingle = d.isSingle := by
  rw [Constraint.isSingle, Constraint.isSingle, rule]

theorem mergeList_compatible {acc : List Constraint} {c : Constraint} {items : List String}
    (many : c.isSingle = false) (list : c.value = .list items)
    (compatible : acc.Pairwise Compatible) : (mergeList acc c items).Pairwise Compatible := by
  have yielded := yieldEntries_compatible c items compatible
  rcases mergeList_cases acc c items with ⟨old, earlier, found, oldValue, result⟩ | ⟨unlike, result⟩
  · rw [result]
    have oldIn := List.mem_of_find?_eq_some found
    have like := List.find?_some found
    simp only [sameList, Bool.and_eq_true, decide_eq_true_eq] at like
    apply replaceOrAppend_compatible yielded
    · intro e member unlike rule
      refine ⟨many, ?_, by simp [isList]⟩
      intro xs ys value valueE
      have severity : e.severity ≠ c.severity := by
        intro same
        simp [sameList, ← rule, same, valueE, isList] at unlike
      refine ⟨Ne.symm severity, ?_⟩
      cases value
      intro entry inside
      rcases mem_unite.1 inside with before | new
      · -- The list taken in was compatible with this one already.
        have different : old ≠ e := fun same => severity (same ▸ like.1.2)
        obtain ⟨-, lists, -⟩ := compatible_of_ne yielded oldIn member different (like.1.1.trans rule)
        exact (lists earlier ys oldValue valueE).2 entry before
      · exact not_mem_of_mem_yieldEntries member rule.symm severity valueE new
    · intro a b likeA likeB compatible
      simp only [sameList, Bool.and_eq_true, decide_eq_true_eq] at likeA likeB
      obtain ⟨xs, valueA⟩ := isList_iff.1 likeA.2
      obtain ⟨ys, valueB⟩ := isList_iff.1 likeB.2
      obtain ⟨-, lists, -⟩ := compatible (likeA.1.1.trans likeB.1.1.symm)
      exact (lists xs ys valueA valueB).1 (likeA.1.2.trans likeB.1.2.symm)
  · rw [result, List.pairwise_append]
    refine ⟨yielded, List.pairwise_singleton _ c, ?_⟩
    intro e member d same
    rw [List.mem_singleton.1 same]
    intro rule
    refine ⟨(isSingle_congr rule).trans many, ?_, by simp [list, isList]⟩
    intro xs ys valueE valueC
    have severity : e.severity ≠ c.severity := by
      intro equal
      have absent := unlike e member
      simp [sameList, rule, equal, valueE, isList] at absent
    cases list.symm.trans valueC
    exact ⟨severity, fun entry inX inItems =>
      not_mem_of_mem_yieldEntries member rule severity valueE inItems inX⟩

/-- One merge keeps all constraints compatible. -/
theorem merge_compatible {acc : List Constraint} (c : Constraint)
    (compatible : acc.Pairwise Compatible) : (merge acc c).Pairwise Compatible := by
  have left := remaining_compatible c compatible
  cases single : c.isSingle with
  | true =>
    rw [merge_single single]
    apply replaceOrAppend_compatible left
    · intro e _ unlike rule
      simp [rule] at unlike
    · intro a b likeA likeB pair
      simp only [decide_eq_true_eq] at likeA likeB
      obtain ⟨many, -⟩ := pair (likeA.trans likeB.symm)
      rw [isSingle_congr likeA, single] at many
      cases many
  | false =>
    cases shape : isList c.value with
    | true =>
      obtain ⟨items, list⟩ := isList_iff.1 shape
      rw [merge_list single list]
      exact mergeList_compatible single list left
    | false =>
      rw [merge_scalar single shape]
      apply replaceOrAppend_compatible left
      · intro e _ unlike rule
        refine ⟨single, ?_, ?_⟩
        · intro xs ys value
          simp [value, isList] at shape
        · intro _ _ same
          simp [rule, same] at unlike
      · intro a b likeA likeB pair
        simp only [Bool.and_eq_true, decide_eq_true_eq] at likeA likeB
        obtain ⟨-, -, scalars⟩ := pair (likeA.1.trans likeB.1.symm)
        exact scalars (likeA.2 ▸ shape) (likeB.2 ▸ shape) (likeA.2.trans likeB.2.symm)

/-- Any number of merges keeps all constraints compatible. -/
theorem mergeAll_compatible {acc : List Constraint} (cs : List Constraint)
    (compatible : acc.Pairwise Compatible) : (mergeAll acc cs).Pairwise Compatible := by
  induction cs generalizing acc with
  | nil => exact compatible
  | cons c rest ih => exact ih (merge_compatible c compatible)

/-- What a list of merged constraints keeps to. -/
structure Flat (cs : List Constraint) : Prop where
  singletons : ∀ rule : Rule, rule.isSingleton → (cs.filter fun c => c.rule = rule.name).length ≤ 1
  lists : ∀ (rule : String) (severity : Severity),
    (cs.filter fun c => c.rule = rule && c.severity = severity && isList c.value).length ≤ 1
  apart : ∀ c ∈ cs, ∀ d ∈ cs, c.rule = d.rule → c.severity = .error → d.severity = .warning →
    ∀ errors warnings, c.value = .list errors → d.value = .list warnings →
      ∀ entry ∈ errors, entry ∉ warnings
  scalars : ∀ (rule : String) (value : ConstraintValue), isList value = false →
    (cs.filter fun c => c.rule = rule && c.value = value).length ≤ 1

/-- Of constraints no two of which are compatible, a list of compatible ones holds at most one. -/
theorem length_filter_le_one {cs : List Constraint} {like : Constraint → Bool}
    (compatible : cs.Pairwise Compatible)
    (once : ∀ a b, like a = true → like b = true → ¬ Compatible a b) :
    (cs.filter like).length ≤ 1 := by
  have pairs := compatible.filter like
  cases kept : cs.filter like with
  | nil => simp
  | cons a rest =>
    cases rest with
    | nil => simp
    | cons b others =>
      have likeA : like a = true := (List.mem_filter.1 (kept ▸ List.mem_cons_self)).2
      have likeB : like b = true :=
        (List.mem_filter.1 (kept ▸ List.mem_cons_of_mem a List.mem_cons_self)).2
      rw [kept] at pairs
      exact absurd ((List.pairwise_cons.1 pairs).1 b List.mem_cons_self) (once a b likeA likeB)

theorem flat_of_compatible {cs : List Constraint} (compatible : cs.Pairwise Compatible) : Flat cs where
  singletons := by
    intro rule single
    apply length_filter_le_one compatible
    intro a b likeA likeB pair
    simp only [decide_eq_true_eq] at likeA likeB
    obtain ⟨many, -⟩ := pair (likeA.trans likeB.symm)
    simp [Constraint.isSingle, Rule.isSingleName, likeA, single] at many
  lists := by
    intro rule severity
    apply length_filter_le_one compatible
    intro a b likeA likeB pair
    simp only [Bool.and_eq_true, decide_eq_true_eq] at likeA likeB
    obtain ⟨xs, valueA⟩ := isList_iff.1 likeA.2
    obtain ⟨ys, valueB⟩ := isList_iff.1 likeB.2
    obtain ⟨-, lists, -⟩ := pair (likeA.1.1.trans likeB.1.1.symm)
    exact (lists xs ys valueA valueB).1 (likeA.1.2.trans likeB.1.2.symm)
  apart := by
    intro c inC d inD rule severityC severityD errors warnings valueC valueD
    have different : c ≠ d := by
      intro same
      rw [same, severityD] at severityC
      cases severityC
    obtain ⟨-, lists, -⟩ := compatible_of_ne compatible inC inD different rule
    exact (lists errors warnings valueC valueD).2
  scalars := by
    intro rule value scalar
    apply length_filter_le_one compatible
    intro a b likeA likeB pair
    simp only [Bool.and_eq_true, decide_eq_true_eq] at likeA likeB
    obtain ⟨-, -, scalars⟩ := pair (likeA.1.trans likeB.1.symm)
    exact scalars (likeA.2 ▸ scalar) (likeB.2 ▸ scalar) (likeA.2.trans likeB.2.symm)

end Merge

end Conformance
