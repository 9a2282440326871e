import Conformance.Proofs.Resolution.Inheritance

/-! Where a constraint of a flattened architecture comes from. It is the latest contribution of its
kind: of its rule where the rule keeps one constraint, of its rule and severity where it is a list,
and of its rule and value otherwise. Only the entries of a list come from others as well. -/
namespace Conformance

namespace Merge

/-- One constraint is another but for the entries of its list, and a constraint that never unites
with others is the other itself. -/
structure Restates (d c : Constraint) : Prop where
  fields : { c with value := d.value } = d
  shape : isList d.value = isList c.value
  whole : c.isSingle = true ∨ isList c.value = false → d = c

/-- The earlier constraints that a constraint takes the place of. -/
def supersedes (d c : Constraint) : Bool :=
  if d.isSingle then c.rule = d.rule
  else if isList d.value then c.rule = d.rule && c.severity = d.severity && isList c.value
  else c.rule = d.rule && c.value = d.value

theorem Restates.refl (c : Constraint) : Restates c c := ⟨rfl, rfl, fun _ => rfl⟩

section Restates

variable {c d e : Constraint} (restates : Restates d c)
include restates

theorem Restates.rule : d.rule = c.rule := by
  rw [← restates.fields]

theorem Restates.severity : d.severity = c.severity := by
  rw [← restates.fields]

theorem Restates.source : d.source = c.source := by
  rw [← restates.fields]

theorem Restates.isSingle : d.isSingle = c.isSingle := isSingle_congr restates.rule

theorem Restates.trans (later : Restates e d) : Restates e c where
  fields := by rw [← later.fields, ← restates.fields]
  shape := later.shape.trans restates.shape
  whole := by
    intro alone
    have same := restates.whole alone
    rw [← same]
    exact later.whole (same ▸ alone)

private theorem supersedes_restated : supersedes d = supersedes c := by
  funext e
  unfold supersedes
  rw [restates.isSingle, restates.rule, restates.severity, restates.shape]
  cases shape : isList c.value with
  | true => rfl
  | false => rw [restates.whole (.inr shape)]

/-- A constraint takes the place of what it restates, and with it of what that took the place of. -/
private theorem supersedes_of_restates : supersedes e d = supersedes e c := by
  unfold supersedes
  rw [restates.rule, restates.severity, restates.shape]
  cases shape : isList c.value with
  | false => rw [restates.whole (.inr shape)]
  | true =>
    cases single : e.isSingle with
    | true => rfl
    | false =>
      cases scalar : isList e.value with
      | true => rfl
      | false =>
        have other (v : ConstraintValue) (list : isList v = true) : v ≠ e.value :=
          fun same => by simp [same, scalar] at list
        simp [other c.value shape, other d.value (restates.shape.trans shape)]

end Restates

private theorem supersedes_self (d : Constraint) : supersedes d d = true := by
  unfold supersedes
  cases d.isSingle with
  | true => simp
  | false => cases isList d.value <;> simp

private theorem not_supersedes_of_compatible {d e : Constraint} (compatible : Compatible d e) :
    supersedes d e = false := by
  by_cases rule : d.rule = e.rule
  · obtain ⟨many, lists, scalars⟩ := compatible rule
    unfold supersedes
    rw [if_neg (by simp [many])]
    cases shape : isList d.value with
    | true =>
      simp only [if_true, Bool.and_eq_false_iff, decide_eq_false_iff_not]
      obtain ⟨xs, valueD⟩ := isList_iff.1 shape
      cases shapeE : isList e.value with
      | false => exact .inr rfl
      | true =>
        obtain ⟨ys, valueE⟩ := isList_iff.1 shapeE
        exact .inl (.inr (Ne.symm (lists xs ys valueD valueE).1))
    | false =>
      simp only [Bool.false_eq_true, if_false, Bool.and_eq_false_iff, decide_eq_false_iff_not]
      refine .inr fun same => ?_
      exact scalars shape (same ▸ shape) same.symm
  · unfold supersedes
    simp [Ne.symm rule]

section Step

theorem restates_dropEntries (entries : List String) {c : Constraint} (many : c.isSingle = false) :
    Restates { c with value := dropEntries entries c.value } c := by
  obtain ⟨rule, value⟩ := c
  cases value with
  | list items => exact ⟨rfl, rfl, by simp [many, isList]⟩
  | number n => exact Restates.refl _
  | text s => exact Restates.refl _
  | coverage spec => exact Restates.refl _

theorem many_of_negates {allow forbid : Rule} (negates : allow.negates? = some forbid) :
    Rule.isSingleName forbid.name = false := by
  cases allow <;> cases negates <;> decide

/-- What allowing leaves of earlier constraints, it takes entries of lists from. -/
theorem restates_of_mem_remaining {acc : List Constraint} {c d : Constraint}
    (member : d ∈ remaining acc c) : ∃ old ∈ acc, Restates d old := by
  unfold remaining at member
  split at member
  · rename_i target allowed negates _
    obtain ⟨old, inside, ⟨_, same⟩ | ⟨rule, same, _⟩⟩ := mem_negate.1 member
    · exact ⟨old, inside, same ▸ Restates.refl old⟩
    · obtain ⟨allow, -, negates⟩ := Option.bind_eq_some_iff.1 negates
      have many : old.isSingle = false := by
        rw [Constraint.isSingle, rule, many_of_negates negates]
      exact ⟨old, inside, same ▸ restates_dropEntries _ many⟩
  · exact ⟨d, member, Restates.refl d⟩

private theorem restates_of_mem_yieldEntries {acc : List Constraint} {c d : Constraint}
    {items : List String} (many : c.isSingle = false) (member : d ∈ yieldEntries acc c items) :
    ∃ old ∈ acc, Restates d old := by
  obtain ⟨mapped, -⟩ := List.mem_filter.1 member
  obtain ⟨old, inside, same⟩ := List.mem_map.1 mapped
  refine ⟨old, inside, ?_⟩
  split at same
  · rename_i other
    have rule : old.rule = c.rule := by simp_all
    exact same ▸ restates_dropEntries items ((isSingle_congr rule).trans many)
  · exact same ▸ Restates.refl old

/-- One merge: the new constraint stands there with what it united with, and all others did before. -/
theorem merge_restates (acc : List Constraint) (c : Constraint) :
    ∃ new ∈ merge acc c, Restates new c ∧
      ∀ d ∈ merge acc c, d = new ∨ ∃ old ∈ acc, Restates d old := by
  have replaced (like : Constraint → Bool) : ∃ new ∈ replaceOrAppend like c (remaining acc c),
      Restates new c ∧ ∀ d ∈ replaceOrAppend like c (remaining acc c),
        d = new ∨ ∃ old ∈ acc, Restates d old :=
    ⟨c, self_mem_replaceOrAppend _ _ _, Restates.refl c, fun _ member =>
      (mem_replaceOrAppend member).imp id restates_of_mem_remaining⟩
  cases single : c.isSingle with
  | true =>
    rw [merge_single single]
    exact replaced _
  | false =>
    cases shape : isList c.value with
    | false =>
      rw [merge_scalar single shape]
      exact replaced _
    | true =>
      obtain ⟨items, list⟩ := isList_iff.1 shape
      have before {d : Constraint} (member : d ∈ yieldEntries (remaining acc c) c items) :
          ∃ old ∈ acc, Restates d old := by
        obtain ⟨middle, inside, later⟩ := restates_of_mem_yieldEntries single member
        obtain ⟨old, first, earlier⟩ := restates_of_mem_remaining inside
        exact ⟨old, first, earlier.trans later⟩
      rw [merge_list single list]
      rcases mergeList_cases (remaining acc c) c items with ⟨_, earlier, _, _, result⟩ | ⟨_, result⟩
      · rw [result]
        refine ⟨_, self_mem_replaceOrAppend _ _ _, ⟨rfl, shape.symm, by simp [single, shape]⟩,
          fun d member => ?_⟩
        exact (mem_replaceOrAppend member).imp id before
      · rw [result]
        refine ⟨c, by simp, Restates.refl c, fun d member => ?_⟩
        rcases List.mem_append.1 member with inside | last
        · exact .inr (before inside)
        · exact .inl (List.mem_singleton.1 last)

theorem mem_remaining_of_unlifted {acc : List Constraint} {c d : Constraint} (member : d ∈ acc)
    (unlifted : c.lifts d.rule = false) : d ∈ remaining acc c := by
  unfold remaining
  split
  · rename_i target allowed negates _
    refine mem_negate.2 ⟨d, member, .inl ⟨fun rule => ?_, rfl⟩⟩
    simp [Constraint.lifts, negates, rule] at unlifted
  · exact member

/-- A constraint stays as it is while others are merged that are of another rule and do not lift its
own. -/
theorem mem_merge_of_other {acc : List Constraint} {c d : Constraint} (member : d ∈ acc)
    (other : d.rule ≠ c.rule) (unlifted : c.lifts d.rule = false) : d ∈ merge acc c := by
  have left := mem_remaining_of_unlifted member unlifted
  have kept {like : Constraint → Bool} {new : Constraint} {cs : List Constraint} (inside : d ∈ cs)
      (unlike : like d = false) : d ∈ replaceOrAppend like new cs := by
    rcases mem_replaceOrAppend_or_first new inside with kept | first
    · exact kept
    · have alike := List.find?_some first
      rw [unlike] at alike
      cases alike
  cases single : c.isSingle with
  | true =>
    rw [merge_single single]
    exact kept left (by simpa using other)
  | false =>
    cases shape : isList c.value with
    | false =>
      rw [merge_scalar single shape]
      exact kept left (by simp [other])
    | true =>
      obtain ⟨items, list⟩ := isList_iff.1 shape
      have yielded : d ∈ yieldEntries (remaining acc c) c items :=
        List.mem_filter.2 ⟨List.mem_map.2 ⟨d, left, by simp [other]⟩, by simp [other]⟩
      rw [merge_list single list]
      rcases mergeList_cases (remaining acc c) c items with ⟨_, _, _, _, result⟩ | ⟨_, result⟩
      · rw [result]
        exact kept yielded (by simp [sameList, other])
      · rw [result]
        exact List.mem_append_left _ yielded

end Step

section Run

/-- The latest contribution that a constraint takes the place of. -/
def latest? (cs : List Constraint) (d : Constraint) : Option Constraint :=
  (cs.filter (supersedes d)).getLast?

theorem latest?_concat (cs : List Constraint) (c d : Constraint) :
    latest? (cs ++ [c]) d = if supersedes d c then some c else latest? cs d := by
  unfold latest?
  simp only [List.filter_append, List.filter_cons, List.filter_nil]
  split
  · exact List.getLast?_concat
  · rw [List.append_nil]

section Kinds

variable {cs : List Constraint} {c d : Constraint}

theorem mem_of_latest? (found : latest? cs d = some c) : c ∈ cs :=
  (List.mem_filter.1 (List.mem_of_getLast? found)).1

private theorem latest?_single (single : d.isSingle = true) :
    latest? cs d = (cs.filter (·.rule = d.rule)).getLast? := by
  have kind : supersedes d = fun c => decide (c.rule = d.rule) := funext fun _ => if_pos single
  rw [latest?, kind]

private theorem latest?_list (many : d.isSingle = false) (list : isList d.value = true) :
    latest? cs d = (cs.filter fun c =>
      c.rule = d.rule && c.severity = d.severity && isList c.value).getLast? := by
  have kind : supersedes d = fun c => c.rule = d.rule && c.severity = d.severity && isList c.value := by
    funext c
    rw [supersedes, many, if_neg Bool.false_ne_true, if_pos list]
  rw [latest?, kind]

private theorem latest?_scalar (many : d.isSingle = false) (scalar : isList d.value = false) :
    latest? cs d = (cs.filter fun c => c.rule = d.rule && c.value = d.value).getLast? := by
  have kind : supersedes d = fun c => c.rule = d.rule && c.value = d.value := by
    funext c
    rw [supersedes, many, scalar, if_neg Bool.false_ne_true, if_neg Bool.false_ne_true]
  rw [latest?, kind]

end Kinds

/-- What stands in a merged list restates the latest contribution that it takes the place of. -/
theorem restates_latest {cs : List Constraint} {d : Constraint} (member : d ∈ mergeAll [] cs) :
    ∃ c, latest? cs d = some c ∧ Restates d c := by
  induction cs using List.reverseRecOn generalizing d with
  | nil => exact absurd member List.not_mem_nil
  | append_singleton cs c ih =>
    have compatible := mergeAll_compatible (cs ++ [c]) List.Pairwise.nil
    rw [mergeAll_concat] at member compatible
    obtain ⟨new, brought, restates, others⟩ := merge_restates (mergeAll [] cs) c
    rw [latest?_concat, ← supersedes_of_restates restates]
    by_cases same : d = new
    · rw [same, supersedes_self, if_pos rfl]
      exact ⟨c, rfl, restates⟩
    · obtain ⟨old, before, kept⟩ := (others d member).resolve_left same
      obtain ⟨first, found, earlier⟩ := ih before
      rw [not_supersedes_of_compatible (compatible_of_ne compatible member brought same),
        if_neg Bool.false_ne_true]
      refine ⟨first, ?_, earlier.trans kept⟩
      rw [latest?, supersedes_restated kept]
      exact found

/-- A rule that nothing lifts has a constraint once it had a contribution. -/
theorem exists_mergeAll_of_unlifted {rule : String} (unlifted : ∀ c : Constraint, c.lifts rule = false)
    {cs : List Constraint} {c : Constraint} (member : c ∈ cs) (own : c.rule = rule) :
    ∃ d ∈ mergeAll [] cs, d.rule = rule := by
  induction cs using List.reverseRecOn with
  | nil => exact absurd member List.not_mem_nil
  | append_singleton cs last ih =>
    rw [mergeAll_concat]
    by_cases same : last.rule = rule
    · obtain ⟨new, brought, restates, -⟩ := merge_restates (mergeAll [] cs) last
      exact ⟨new, brought, restates.rule.trans same⟩
    · have inside : c ∈ cs := by
        rcases List.mem_append.1 member with inside | final
        · exact inside
        · rw [← List.mem_singleton.1 final] at same
          exact absurd own same
      obtain ⟨d, before, named⟩ := ih inside
      refine ⟨d, mem_merge_of_other before (named ▸ Ne.symm same) (named ▸ unlifted last), named⟩

/-- No rule that keeps one constraint is lifted. -/
private theorem unlifted_of_single {rule : String} (single : Rule.isSingleName rule = true)
    (c : Constraint) :
    c.lifts rule = false := by
  refine Constraint.lifts_eq_false (fun allow forbid negates same => ?_) c
  rw [← same, many_of_negates negates] at single
  cases single

/-- Of a rule that keeps one constraint, that is the last contribution, if there is any. -/
private theorem filter_single {rule : String} (single : Rule.isSingleName rule = true)
    (cs : List Constraint) : (mergeAll [] cs).filter (·.rule = rule) =
      (cs.filter (·.rule = rule)).getLast?.toList := by
  have latest {d : Constraint} (member : d ∈ (mergeAll [] cs).filter (·.rule = rule)) :
      (cs.filter (·.rule = rule)).getLast? = some d := by
    obtain ⟨inside, named⟩ := List.mem_filter.1 member
    have named : d.rule = rule := of_decide_eq_true named
    have alone : d.isSingle = true := by rw [Constraint.isSingle, named, single]
    obtain ⟨c, found, restates⟩ := restates_latest inside
    rw [restates.whole (.inl (restates.isSingle ▸ alone)), ← found, latest?_single alone, named]
  have few : ((mergeAll [] cs).filter (·.rule = rule)).length ≤ 1 := by
    apply length_filter_le_one (mergeAll_compatible cs List.Pairwise.nil)
    intro a b likeA likeB pair
    simp only [decide_eq_true_eq] at likeA likeB
    obtain ⟨many, -⟩ := pair (likeA.trans likeB.symm)
    rw [Constraint.isSingle, likeA, single] at many
    cases many
  cases kept : (mergeAll [] cs).filter (·.rule = rule) with
  | nil =>
    cases last : (cs.filter (·.rule = rule)).getLast? with
    | none => rfl
    | some c =>
      obtain ⟨inside, named⟩ := List.mem_filter.1 (List.mem_of_getLast? last)
      obtain ⟨d, stays, same⟩ :=
        exists_mergeAll_of_unlifted (unlifted_of_single single) inside (of_decide_eq_true named)
      have none := List.filter_eq_nil_iff.1 kept d stays
      simp [same] at none
  | cons d rest =>
    rw [kept] at few
    obtain rfl : rest = [] := by simpa using few
    rw [latest (kept ▸ List.mem_singleton_self d)]
    rfl

end Run

end Merge

namespace Resolution

/-- What the constraints of a line of descent give for their source: an architecture of the line, or
a mixin that one of them names. -/
inductive Origin (r : Registry) (options : ResolveOptions) (ids : List String) :
    Option String → Prop where
  | own {id : String} {node : ArchitectureNode} (inLine : id ∈ ids) (found : r.get? id = some node) :
    Origin r options ids (some node.id)
  | mixin {id : String} {node : ArchitectureNode} {ref : MixinRef} {mixin : Mixin} (inLine : id ∈ ids)
    (found : r.get? id = some node) (expands : options.expandMixins = true)
    (named : ref ∈ node.mixins) (defined : r.mixins.find? ref.name = some mixin) :
    Origin r options ids (some ("mixin:" ++ mixin.name))

private theorem origin_of_mem {r : Registry} {options : ResolveOptions} {ids : List String}
    {c : Constraint}
    (member : c ∈ contributions r options ids) : Origin r options ids c.source := by
  obtain ⟨node, inLine, brought⟩ := List.mem_flatMap.1 member
  obtain ⟨id, inside, found⟩ := List.mem_filterMap.1 inLine
  rcases List.mem_append.1 brought with mixed | own
  · obtain ⟨ref, named, given⟩ := List.mem_flatMap.1 mixed
    unfold mixinContribution at given
    split at given
    · rename_i mixin defined
      obtain ⟨_, -, rfl⟩ := List.mem_map.1 given
      cases expands : options.expandMixins with
      | true =>
        rw [expands, if_pos rfl] at named
        exact .mixin inside found expands named defined
      | false =>
        rw [expands, if_neg Bool.false_ne_true] at named
        cases named
    · cases given
  · rw [source_ownConstraints node c own]
    exact .own inside found

/-- The architecture closest to the leaf has its way. A rule that keeps one constraint keeps the last
one contributed. A list has all but its entries from the last list of its rule and severity, and any
other constraint is the last one of its rule and value. So each has its source in the line of descent. -/
theorem constraints_are_latest_contributions {r : Registry} {id : String} {options : ResolveOptions}
    {a : FlattenedArchitecture} (resolved : resolve r id options = .ok a) :
    (∀ rule, Rule.isSingleName rule = true → a.constraints.filter (·.rule = rule) =
      ((contributions r options a.inheritanceChain).filter (·.rule = rule)).getLast?.toList) ∧
    (∀ d ∈ a.constraints, d.isSingle = false → ∀ items, d.value = .list items →
      ∃ c, ((contributions r options a.inheritanceChain).filter fun c =>
          c.rule = d.rule && c.severity = d.severity && Merge.isList c.value).getLast? = some c ∧
        d = { c with value := .list items }) ∧
    (∀ d ∈ a.constraints, d.isSingle = false → Merge.isList d.value = false →
      ((contributions r options a.inheritanceChain).filter fun c =>
        c.rule = d.rule && c.value = d.value).getLast? = some d) ∧
    ∀ d ∈ a.constraints, Origin r options a.inheritanceChain d.source := by
  rw [resolve_constraints resolved]
  refine ⟨fun rule single => Merge.filter_single single _, ?_, ?_, ?_⟩
  · intro d member many items list
    obtain ⟨c, found, restates⟩ := Merge.restates_latest member
    rw [Merge.latest?_list many (by rw [list]; rfl)] at found
    exact ⟨c, found, by rw [← list, restates.fields]⟩
  · intro d member many scalar
    obtain ⟨c, found, restates⟩ := Merge.restates_latest member
    rw [Merge.latest?_scalar many scalar, ← restates.whole (.inr (restates.shape ▸ scalar))] at found
    exact found
  · intro d member
    obtain ⟨c, found, restates⟩ := Merge.restates_latest member
    rw [restates.source]
    exact origin_of_mem (Merge.mem_of_latest? found)

/-- An import is forbidden for a reason, then allowed, then forbidden along with another; the length
of files is capped, and then again by a mixin. -/
def relaid : Registry where
  nodes := .ofList [
    ("base", { id := "base", constraints := [
      { Constraint.ofRule .forbidImport (.list ["axios"]) with why := some "no network" },
      .ofRule .maxFileLines (.number 300)] }),
    ("open", {
      id := "open", inherits := some "base"
      constraints := [.ofRule .allowImport (.list ["axios"])] }),
    ("edge", {
      id := "edge", inherits := some "open", mixins := [.named "small"]
      constraints := [.ofRule .forbidImport (.list ["fs", "axios"])] })]
  mixins := .ofList [
    ("small", { name := "small", constraints := [.ofRule .maxFileLines (.number 90)] })]

theorem constraints_of_relaid : ∃ a, resolve relaid "edge" = .ok a ∧
    a.constraints.filter (·.rule = "max_file_lines") =
      [{ Constraint.ofRule .maxFileLines (.number 90) with source := some "mixin:small" }] ∧
    ∀ d ∈ a.constraints, d.rule = "forbid_import" → ∀ items, d.value = .list items →
      d.source = some "edge" ∧ d.why = none := by
  obtain ⟨a, resolved⟩ : ∃ a, resolve relaid "edge" = .ok a := ⟨_, rfl⟩
  have line : a.inheritanceChain = ["base", "open", "edge"] := by
    cases resolved
    rfl
  obtain ⟨single, lists, -, -⟩ := constraints_are_latest_contributions resolved
  rw [line] at single lists
  refine ⟨a, resolved, (single "max_file_lines" (by decide)).trans (by decide +kernel), ?_⟩
  intro d member rule items list
  have many : d.isSingle = false := by
    rw [Constraint.isSingle, rule]
    decide
  obtain ⟨c, last, same⟩ := lists d member many items list
  rw [rule] at last
  cases level : d.severity with
  | error =>
    rw [level] at last
    have final : ((contributions relaid {} ["base", "open", "edge"]).filter fun c =>
        c.rule = "forbid_import" && c.severity = .error && Merge.isList c.value).getLast? =
          some { Constraint.ofRule .forbidImport (.list ["fs", "axios"]) with
            source := some "edge" } := by
      decide +kernel
    cases final.symm.trans last
    rw [same]
    exact ⟨rfl, rfl⟩
  | warning =>
    rw [level] at last
    have none : ((contributions relaid {} ["base", "open", "edge"]).filter fun c =>
        c.rule = "forbid_import" && c.severity = .warning && Merge.isList c.value).getLast? =
          none := by
      decide +kernel
    cases none.symm.trans last

end Resolution

end Conformance
