import Conformance.Proofs.Pattern
import Conformance.Proofs.Validator.Verdicts
import Mathlib.Data.List.Induction

/-! When the intents of a file are kept. Each intent is checked once for each scope and each
conflicting pair is reported once, and yet a file passes exactly if every intent keeps what its
definition promises: an intent that is skipped would be found wanting where it stood first, and a
conflict that is skipped has been reported. -/
namespace Conformance

namespace FileContext

variable (ctx : FileContext) (i : IntentTag)

/-- The function that an intent speaks about: the first of its name, if its lines are known. -/
def functionOf? : Option FunctionDecl :=
  match i.scope with
  | .function (some name) =>
    (ctx.model.functions.find? fun f => f.name = name).filter fun f => 0 < f.startLine
  | _ => none

/-- The text that an intent speaks about. -/
def textOf : String :=
  match ctx.functionOf? i with
  | some f => Text.span ctx.content f.startLine f.endLine
  | none => ctx.content

def linesBefore : Nat :=
  match ctx.functionOf? i with
  | some f => f.startLine - 1
  | none => 0

end FileContext

namespace IntentTag

/-- The same intent on the same scope, perhaps on another line. -/
def Restates (a b : IntentTag) : Prop := a.name = b.name ∧ a.scope = b.scope

instance (a b : IntentTag) : Decidable (a.Restates b) := inferInstanceAs (Decidable (_ ∧ _))

theorem Restates.refl (a : IntentTag) : a.Restates a := ⟨rfl, rfl⟩

theorem Restates.trans {a b c : IntentTag} (first : a.Restates b) (second : b.Restates c) :
    a.Restates c := ⟨first.1.trans second.1, first.2.trans second.2⟩

/-- An intent of a name is in effect where `i` is: on the file, or on the function that `i` is
bound to. -/
def Sees (i : IntentTag) (intents : List IntentTag) (name : String) : Prop :=
  ∃ other ∈ intents, other.name = name ∧ (other.scope = .file ∨
    ∃ function, i.scope = .function (some function) ∧ other.scope = .function (some function))

/-- What the definition of an intent promises is kept. -/
structure Kept (ctx : FileContext) (i : IntentTag) (d : IntentDefinition) : Prop where
  requires : ∀ pattern ∈ d.requires, ∃ re, Pattern.compile ctx.limits pattern = .ok re ∧
    re.isMatch (ctx.textOf i) = true
  forbids : ∀ pattern ∈ d.forbids, ∃ re, Pattern.compile ctx.limits pattern = .ok re ∧
    re.isMatch (ctx.textOf i) = false
  conflictsWith : ∀ other ∈ d.conflictsWith, ¬i.Sees ctx.intents other
  requiresIntent : ∀ needed ∈ d.requiresIntent, i.Sees ctx.intents needed

variable {a b : IntentTag} {intents : List IntentTag}

theorem Restates.sees_iff (same : a.Restates b) (name : String) :
    a.Sees intents name ↔ b.Sees intents name := by
  rw [Sees, Sees, same.2]

theorem Restates.textOf_eq (same : a.Restates b) (ctx : FileContext) :
    ctx.textOf a = ctx.textOf b := by
  rw [FileContext.textOf, FileContext.textOf, FileContext.functionOf?, FileContext.functionOf?,
    same.2]

theorem Restates.linesBefore_eq (same : a.Restates b) (ctx : FileContext) :
    ctx.linesBefore a = ctx.linesBefore b := by
  rw [FileContext.linesBefore, FileContext.linesBefore, FileContext.functionOf?,
    FileContext.functionOf?, same.2]

theorem Restates.kept {ctx : FileContext} {d : IntentDefinition} (same : a.Restates b)
    (kept : Kept ctx a d) : Kept ctx b d where
  requires pattern listed := same.textOf_eq ctx ▸ kept.requires pattern listed
  forbids pattern listed := same.textOf_eq ctx ▸ kept.forbids pattern listed
  conflictsWith other listed := mt (same.sees_iff other).2 (kept.conflictsWith other listed)
  requiresIntent needed listed := (same.sees_iff needed).1 (kept.requiresIntent needed listed)

/-- Two lists state the same intents on the same scopes. -/
def SameStatements (intents others : List IntentTag) : Prop :=
  ∀ i : IntentTag, (∃ s ∈ intents, s.Restates i) ↔ ∃ s ∈ others, s.Restates i

theorem SameStatements.sees_iff {others : List IntentTag} (same : SameStatements intents others)
    (i : IntentTag) (name : String) : i.Sees intents name ↔ i.Sees others name := by
  have onScope (scope : IntentScope) {l m : List IntentTag} (same : SameStatements l m) :
      (∃ s ∈ l, s.name = name ∧ s.scope = scope) → ∃ s ∈ m, s.name = name ∧ s.scope = scope :=
    (same ⟨name, 0, scope⟩).1
  have oneWay {l m : List IntentTag} (same : SameStatements l m) :
      i.Sees l name → i.Sees m name := by
    rintro ⟨other, member, named, file | ⟨function, bound, own⟩⟩
    · obtain ⟨s, inside, named, file⟩ := onScope .file same ⟨other, member, named, file⟩
      exact ⟨s, inside, named, .inl file⟩
    · obtain ⟨s, inside, named, own⟩ := onScope _ same ⟨other, member, named, own⟩
      exact ⟨s, inside, named, .inr ⟨function, bound, own⟩⟩
  exact ⟨oneWay same, oneWay fun i => (same i).symm⟩

theorem SameStatements.kept_iff {ctx : FileContext} {others : List IntentTag}
    (same : SameStatements others ctx.intents) (i : IntentTag) (d : IntentDefinition) :
    Kept { ctx with intents := others } i d ↔ Kept ctx i d := by
  constructor
  · rintro ⟨requires, forbids, alone, together⟩
    exact ⟨requires, forbids, fun other listed => mt (same.sees_iff i other).2 (alone other listed),
      fun needed listed => (same.sees_iff i needed).1 (together needed listed)⟩
  · rintro ⟨requires, forbids, alone, together⟩
    exact ⟨requires, forbids, fun other listed => mt (same.sees_iff i other).1 (alone other listed),
      fun needed listed => (same.sees_iff i needed).2 (together needed listed)⟩

end IntentTag

namespace Validator

variable {c : Constraint} {ctx : FileContext} {i : IntentTag} {d : IntentDefinition}
  {intents before after : List IntentTag}

section Distinct

/-- An intent is left out if it stands on the same scope before. -/
theorem distinctIntents_concat (intents : List IntentTag) (i : IntentTag) :
    distinctIntents (intents ++ [i]) =
      if ∃ s ∈ distinctIntents intents, s.Restates i then distinctIntents intents
      else distinctIntents intents ++ [i] := by
  unfold distinctIntents
  rw [List.foldl_append, List.foldl_cons, List.foldl_nil]
  simp only [List.mem_reverse, IntentTag.Restates, List.any_eq_true, Bool.and_eq_true,
    decide_eq_true_eq]
  split
  · rfl
  · rw [List.reverse_cons]

theorem mem_of_mem_distinctIntents (member : i ∈ distinctIntents intents) : i ∈ intents := by
  induction intents using List.reverseRecOn with
  | nil => exact member
  | append_singleton intents last ih =>
    rw [distinctIntents_concat] at member
    split at member
    · exact List.mem_append_left _ (ih member)
    · rcases List.mem_append.1 member with earlier | here
      · exact List.mem_append_left _ (ih earlier)
      · exact List.mem_append_right _ here

theorem exists_distinctIntents (member : i ∈ intents) :
    ∃ s ∈ distinctIntents intents, s.Restates i := by
  induction intents using List.reverseRecOn with
  | nil => cases member
  | append_singleton intents last ih =>
    rw [distinctIntents_concat]
    rcases List.mem_append.1 member with earlier | here
    · obtain ⟨s, listed, same⟩ := ih earlier
      refine ⟨s, ?_, same⟩
      split
      · exact listed
      · exact List.mem_append_left _ listed
    · cases List.mem_singleton.1 here
      split
      · assumption
      · exact ⟨i, List.mem_append_right _ (List.mem_singleton_self i), .refl i⟩

/-- Intents that restate those before them change nothing. -/
private theorem distinctIntents_append_again {again : List IntentTag}
    (restated : ∀ i ∈ again, ∃ s ∈ before, s.Restates i) (after : List IntentTag) :
    distinctIntents (before ++ again ++ after) = distinctIntents (before ++ after) := by
  induction after using List.reverseRecOn with
  | nil =>
    rw [List.append_nil, List.append_nil]
    induction again using List.reverseRecOn with
    | nil => rw [List.append_nil]
    | append_singleton again last ih =>
      obtain ⟨first, here⟩ := List.forall_mem_append.1 restated
      obtain ⟨s, member, same⟩ := here last (List.mem_singleton_self last)
      obtain ⟨t, listed, earlier⟩ := exists_distinctIntents member
      have repeated : ∃ s ∈ distinctIntents before, s.Restates last :=
        ⟨t, listed, earlier.trans same⟩
      rw [← List.append_assoc, distinctIntents_concat, ih first, if_pos repeated]
  | append_singleton after last ih =>
    rw [← List.append_assoc, ← List.append_assoc, distinctIntents_concat, distinctIntents_concat, ih]

/-- An intent that stands for the first time on its scope follows those before it. -/
theorem distinctIntents_append_fresh (fresh : ∀ s ∈ before, ¬s.Restates i)
    (after : List IntentTag) :
    ∃ rest, distinctIntents (before ++ i :: after) = distinctIntents before ++ i :: rest := by
  induction after using List.reverseRecOn with
  | nil =>
    refine ⟨[], ?_⟩
    rw [distinctIntents_concat, if_neg]
    rintro ⟨s, listed, same⟩
    exact fresh s (mem_of_mem_distinctIntents listed) same
  | append_singleton after last ih =>
    obtain ⟨rest, listed⟩ := ih
    rw [← List.cons_append, ← List.append_assoc, distinctIntents_concat, listed]
    split
    · exact ⟨rest, rfl⟩
    · exact ⟨rest ++ [last], by simp⟩

end Distinct

section OneIntent

theorem contains_namesInScope (i : IntentTag) (intents : List IntentTag) (name : String) :
    (namesInScope i intents).contains name = true ↔ i.Sees intents name := by
  simp only [List.contains_iff_mem, namesInScope, List.mem_map, List.mem_filter, IntentTag.Sees]
  refine exists_congr fun other => ?_
  have shared : sharesScope i other = true ↔ other.scope = .file ∨
      ∃ function, i.scope = .function (some function) ∧ other.scope = .function (some function) := by
    unfold sharesScope
    cases other.scope with
    | file => simp
    | function b =>
      cases i.scope with
      | file => simp
      | function a => cases a <;> simp [eq_comm]
  rw [shared]
  exact ⟨fun ⟨⟨member, sharing⟩, named⟩ => ⟨member, named, sharing⟩,
    fun ⟨member, named, sharing⟩ => ⟨⟨member, sharing⟩, named⟩⟩

instance (i : IntentTag) (intents : List IntentTag) (name : String) :
    Decidable (i.Sees intents name) :=
  decidable_of_iff _ (contains_namesInScope i intents name)

/-- The text of an intent is found, with as many lines before it as it has. -/
theorem scopeText_eq (fits : ctx.Representable) (i : IntentTag) :
    scopeText ctx i = some (ctx.textOf i, ctx.linesBefore i) := by
  unfold scopeText FileContext.textOf FileContext.linesBefore FileContext.functionOf?
  cases i.scope with
  | file => rfl
  | function bound =>
    cases bound with
    | none => rfl
    | some name =>
      dsimp only
      cases found : ctx.model.functions.find? fun f => f.name = name with
      | none => rfl
      | some f =>
        obtain ⟨first, last⟩ := fits.functions f (List.mem_of_find?_eq_some found)
        by_cases known : 0 < f.startLine
        · have skipped : Count.sub? f.startLine 1 = some (f.startLine - 1) := if_pos known
          simp [known, skipped, span?_eq known first last, Text.span, Option.filter_some]
        · simp [known, Option.filter_some]

theorem unmetPatterns_eq_nil_iff {limits : PatternLimits} {text : String} :
    unmetPatterns c limits i d text = [] ↔
      ∀ pattern ∈ d.requires, Pattern.isMatch limits pattern text = .ok true := by
  rw [unmetPatterns, List.filterMap_eq_nil_iff]
  refine forall₂_congr fun pattern _ => ?_
  split
  · rename_i why tried
    simp [tried]
  · rename_i tried
    simp [tried]
  · rename_i tried
    simp [tried]

theorem brokenPattern_eq_none_iff (c : Constraint) (i : IntentTag) (d : IntentDefinition)
    {limits : PatternLimits} {text : String} (skipped : Nat) (pattern : String) :
    brokenPattern c limits i d text skipped pattern = some none ↔
      Pattern.isMatch limits pattern text = .ok false := by
  rw [← Pattern.findLine_eq_none_iff]
  unfold brokenPattern
  split
  · rename_i why tried
    simp [tried]
  · rename_i tried
    simp [tried]
  · rename_i found tried
    cases Count.add? found skipped <;> simp [tried]

theorem brokenPatterns_eq_nil_iff {limits : PatternLimits} {text : String} {skipped : Nat} :
    brokenPatterns c limits i d text skipped = some [] ↔
      ∀ pattern ∈ d.forbids, Pattern.isMatch limits pattern text = .ok false := by
  simp only [← brokenPattern_eq_none_iff c i d skipped]
  unfold brokenPatterns
  induction d.forbids with
  | nil => simp
  | cons pattern rest ih =>
    rw [List.mapM_cons, List.forall_mem_cons, ← ih]
    cases brokenPattern c limits i d text skipped pattern with
    | none => simp
    | some found =>
      cases found with
      | none => cases List.mapM (brokenPattern c limits i d text skipped) rest <;> simp
      | some diagnostic =>
        cases List.mapM (brokenPattern c limits i d text skipped) rest <;> simp

theorem missingPartners_eq_nil_iff : missingPartners c i d (namesInScope i intents) = [] ↔
    ∀ needed ∈ d.requiresIntent, i.Sees intents needed := by
  rw [missingPartners, List.map_eq_nil_iff, List.filter_eq_nil_iff]
  refine forall₂_congr fun needed _ => ?_
  rw [← contains_namesInScope]
  simp

/-- A conflict of an intent with another one in effect, as the pair of their names in order. -/
def Clashes (ctx : FileContext) (i : IntentTag) (pair : String × String) : Prop :=
  ∃ d, ctx.intentRegistry.find? i.name = some d ∧
    ∃ other ∈ d.conflictsWith, i.Sees ctx.intents other ∧ namePair d.name other = pair

instance (ctx : FileContext) (i : IntentTag) (pair : String × String) :
    Decidable (Clashes ctx i pair) :=
  inferInstanceAs (Decidable (∃ d ∈ ctx.intentRegistry.find? i.name,
    ∃ other ∈ d.conflictsWith, i.Sees ctx.intents other ∧ namePair d.name other = pair))

/-- The finding of a conflict. -/
def conflictFound (c : Constraint) (i : IntentTag) (d : IntentDefinition) (other : String) :
    Diagnostic :=
  (Diagnostic.ofConstraint Code.intentConflict c (.text i.name)
    ("@intent:" ++ d.name ++ " conflicts with @intent:" ++ other)
    "Keep only one of the conflicting intents").onLine i.line

variable {present others : List String} {reported : List (String × String)}
  {pair : String × String}

/-- A pair has been reported after an intent is checked if it had been before or one of its
conflicts makes the pair. -/
theorem mem_reported_iff : pair ∈ (conflicts c i d present others reported).2 ↔
    pair ∈ reported ∨
      ∃ other ∈ others, present.contains other = true ∧ namePair d.name other = pair := by
  induction others generalizing reported with
  | nil => simp [conflicts]
  | cons other rest ih =>
    rw [conflicts]
    split
    · rename_i fresh
      rw [Bool.and_eq_true] at fresh
      rw [ih, List.exists_mem_cons_iff, List.mem_cons, eq_comm, and_iff_right fresh.1, or_assoc,
        or_left_comm]
    · rename_i known
      have covered : present.contains other = true ∧ namePair d.name other = pair →
          pair ∈ reported := by
        rintro ⟨seen, rfl⟩
        simpa [List.contains_iff_mem.1 seen] using known
      rw [ih, List.exists_mem_cons_iff, ← or_assoc, or_iff_left_of_imp covered]

/-- A conflict is found, or another one of the same pair is, unless the pair was reported before. -/
theorem exists_conflictFound {other : String} (listed : other ∈ others)
    (seen : present.contains other = true) (fresh : namePair d.name other ∉ reported) :
    ∃ named ∈ others, present.contains named = true ∧
      namePair d.name named = namePair d.name other ∧
      conflictFound c i d named ∈ (conflicts c i d present others reported).1 := by
  induction others generalizing reported with
  | nil => cases listed
  | cons first rest ih =>
    rw [conflicts]
    split
    · by_cases same : namePair d.name first = namePair d.name other
      · rename_i condition
        exact ⟨first, List.mem_cons_self, (Bool.and_eq_true_iff.1 condition).1, same,
          List.mem_cons_self⟩
      · have inRest : other ∈ rest := by
          rcases List.mem_cons.1 listed with rfl | inside
          · exact absurd rfl same
          · exact inside
        have later : namePair d.name other ∉ namePair d.name first :: reported :=
          List.not_mem_cons_of_ne_of_not_mem (Ne.symm same) fresh
        obtain ⟨named, inside, present, pair, found⟩ := ih inRest later
        exact ⟨named, List.mem_cons_of_mem _ inside, present, pair, List.mem_cons_of_mem _ found⟩
    · rename_i known
      rcases List.mem_cons.1 listed with rfl | inside
      · exact absurd (by simp [List.contains_iff_mem.1 seen, fresh]) known
      · obtain ⟨named, inside, present, pair, found⟩ := ih inside fresh
        exact ⟨named, List.mem_cons_of_mem _ inside, present, pair, found⟩

private theorem reported_of_conflicts_nil
    (none : (conflicts c i d present others reported).1 = []) :
    (conflicts c i d present others reported).2 = reported := by
  induction others generalizing reported with
  | nil => rfl
  | cons other rest ih =>
    rw [conflicts] at none ⊢
    split at none
    · cases none
    · rename_i known
      rw [if_neg known]
      exact ih none

theorem conflicts_eq_nil_iff : conflicts c i d (namesInScope i intents) d.conflictsWith [] = ([], []) ↔
    ∀ other ∈ d.conflictsWith, ¬i.Sees intents other := by
  constructor
  · intro none other listed seen
    obtain ⟨named, -, -, -, found⟩ := exists_conflictFound (c := c) (i := i) listed
      ((contains_namesInScope i intents other).2 seen) List.not_mem_nil
    rw [none] at found
    cases found
  · intro unseen
    generalize d.conflictsWith = others at unseen
    induction others with
    | nil => rfl
    | cons other rest ih =>
      obtain ⟨here, later⟩ := List.forall_mem_cons.1 unseen
      rw [← contains_namesInScope] at here
      rw [conflicts, if_neg (by simpa using here), ih later]

/-- What checking a defined intent gives. -/
theorem checkIntent_defined (fits : ctx.Representable) (c : Constraint)
    (defined : ctx.intentRegistry.find? i.name = some d) (reported : List (String × String)) :
    ∃ broken, brokenPatterns c ctx.limits i d (ctx.textOf i) (ctx.linesBefore i) = some broken ∧
      checkIntent c ctx i reported =
        some (unmetPatterns c ctx.limits i d (ctx.textOf i) ++ broken ++
            (conflicts c i d (namesInScope i ctx.intents) d.conflictsWith reported).1 ++
            missingPartners c i d (namesInScope i ctx.intents),
          (conflicts c i d (namesInScope i ctx.intents) d.conflictsWith reported).2) := by
  obtain ⟨text, skipped, read, room⟩ := scopeText_fits fits i
  rw [scopeText_eq fits i] at read
  cases read
  obtain ⟨broken, searched, -⟩ := brokenPatterns_decides c i d ctx.limits _ _ room
  refine ⟨broken, searched, ?_⟩
  rw [checkIntent, defined]
  dsimp only
  rw [scopeText_eq fits i]
  dsimp only [Option.bind_eq_bind, Option.bind_some]
  rw [searched]
  rfl

theorem checkIntent_undefined (c : Constraint) (undefined : ctx.intentRegistry.find? i.name = none)
    (reported : List (String × String)) :
    checkIntent c ctx i reported = some ([undefinedIntent c ctx i], reported) := by
  rw [checkIntent, undefined]

/-- Nothing is found about an intent, while nothing is reported, exactly if it is kept. -/
theorem checkIntent_eq_nil_iff (fits : ctx.Representable) (c : Constraint) (i : IntentTag) :
    checkIntent c ctx i [] = some ([], []) ↔
      ∃ d, ctx.intentRegistry.find? i.name = some d ∧ i.Kept ctx d := by
  cases defined : ctx.intentRegistry.find? i.name with
  | none => simp [checkIntent_undefined c defined]
  | some d =>
    obtain ⟨broken, searched, checked⟩ := checkIntent_defined fits c defined []
    have kept : i.Kept ctx d ↔
        unmetPatterns c ctx.limits i d (ctx.textOf i) = [] ∧ broken = [] ∧
          conflicts c i d (namesInScope i ctx.intents) d.conflictsWith [] = ([], []) ∧
          missingPartners c i d (namesInScope i ctx.intents) = [] := by
      rw [← Option.some.injEq broken, ← searched, unmetPatterns_eq_nil_iff,
        brokenPatterns_eq_nil_iff, conflicts_eq_nil_iff, missingPartners_eq_nil_iff]
      simp only [Pattern.isMatch_eq_ok_iff]
      exact ⟨fun ⟨requires, forbids, alone, together⟩ => ⟨requires, forbids, alone, together⟩,
        fun ⟨requires, forbids, alone, together⟩ => ⟨requires, forbids, alone, together⟩⟩
    simp only [checked, kept, Option.some.injEq, List.append_eq_nil_iff, exists_eq_left',
      Prod.ext_iff]
    exact ⟨fun ⟨⟨⟨⟨unmet, broken⟩, clashes⟩, missing⟩, reported⟩ =>
        ⟨unmet, broken, ⟨clashes, reported⟩, missing⟩,
      fun ⟨unmet, broken, ⟨clashes, reported⟩, missing⟩ =>
        ⟨⟨⟨⟨unmet, broken⟩, clashes⟩, missing⟩, reported⟩⟩

end OneIntent

section AllIntents

/-- An intent about which nothing is found leaves nothing reported. -/
private theorem reported_of_found_nil {reported : List (String × String)} (fits : ctx.Representable)
    (checked : checkIntent c ctx i [] = some ([], reported)) : reported = [] := by
  cases defined : ctx.intentRegistry.find? i.name with
  | none =>
    rw [checkIntent_undefined c defined] at checked
    cases checked
  | some d =>
    obtain ⟨broken, -, whole⟩ := checkIntent_defined fits c defined []
    rw [whole] at checked
    simp only [Option.some.injEq, Prod.mk.injEq, List.append_eq_nil_iff] at checked
    obtain ⟨⟨⟨-, none⟩, -⟩, rfl⟩ := checked
    exact reported_of_conflicts_nil none

/-- Nothing is found about intents exactly if each is kept. -/
theorem checkIntents_eq_nil_iff (fits : ctx.Representable) (c : Constraint)
    (intents : List IntentTag) : checkIntents c ctx intents [] = some [] ↔
      ∀ i ∈ intents, ∃ d, ctx.intentRegistry.find? i.name = some d ∧ i.Kept ctx d := by
  induction intents with
  | nil => simp [checkIntents]
  | cons i rest ih =>
    rw [List.forall_mem_cons, ← checkIntent_eq_nil_iff fits c i, ← ih]
    obtain ⟨found, reported, checked, -⟩ := checkIntent_decides (c := c) fits i []
    obtain ⟨others, done, -⟩ := checkIntents_decides (c := c) fits rest reported
    have whole : checkIntents c ctx (i :: rest) [] = some (found ++ others) := by
      rw [checkIntents, checked]
      dsimp only [Option.bind_eq_bind, Option.bind_some]
      rw [done]
      rfl
    rw [whole, checked, Option.some.injEq, Option.some.injEq, List.append_eq_nil_iff, Prod.mk.injEq]
    constructor
    · rintro ⟨rfl, rfl⟩
      cases reported_of_found_nil fits checked
      exact ⟨⟨rfl, rfl⟩, done⟩
    · rintro ⟨⟨rfl, rfl⟩, passed⟩
      exact ⟨rfl, Option.some.inj (done.symm.trans passed)⟩

variable {pair : String × String}

/-- The pairs reported after an intent is checked are those before and its conflicts. -/
private theorem mem_reported_of_checkIntent {found : List Diagnostic}
    {reported later : List (String × String)}
    (fits : ctx.Representable) (checked : checkIntent c ctx i reported = some (found, later)) :
    pair ∈ later ↔ pair ∈ reported ∨ Clashes ctx i pair := by
  cases defined : ctx.intentRegistry.find? i.name with
  | none =>
    rw [checkIntent_undefined c defined] at checked
    cases checked
    simp [Clashes, defined]
  | some d =>
    obtain ⟨broken, -, whole⟩ := checkIntent_defined fits c defined reported
    rw [whole] at checked
    cases checked
    simp only [mem_reported_iff, contains_namesInScope, Clashes, defined, Option.some.injEq,
      exists_eq_left']

/-- What is found about one of several intents stands among the findings. When it is checked, the
pairs reported are those of the intents before it. -/
theorem exists_checkIntent (fits : ctx.Representable) (c : Constraint) (before : List IntentTag)
    (i : IntentTag) (after : List IntentTag) (reported : List (String × String)) :
    ∃ lead own tail known later,
      checkIntents c ctx (before ++ i :: after) reported = some (lead ++ own ++ tail) ∧
      checkIntent c ctx i known = some (own, later) ∧
      ∀ pair, pair ∈ known ↔ pair ∈ reported ∨ ∃ k ∈ before, Clashes ctx k pair := by
  induction before generalizing reported with
  | nil =>
    obtain ⟨own, later, checked, -⟩ := checkIntent_decides (c := c) fits i reported
    obtain ⟨tail, done, -⟩ := checkIntents_decides (c := c) fits after later
    refine ⟨[], own, tail, reported, later, ?_, checked, by simp⟩
    rw [List.nil_append, checkIntents, checked]
    dsimp only [Option.bind_eq_bind, Option.bind_some]
    rw [done]
    rfl
  | cons k rest ih =>
    obtain ⟨first, next, checkedFirst, -⟩ := checkIntent_decides (c := c) fits k reported
    obtain ⟨lead, own, tail, known, later, done, checked, pairs⟩ := ih next
    refine ⟨first ++ lead, own, tail, known, later, ?_, checked, fun pair => ?_⟩
    · rw [List.cons_append, checkIntents, checkedFirst]
      dsimp only [Option.bind_eq_bind, Option.bind_some]
      rw [done]
      simp
    · rw [pairs, mem_reported_of_checkIntent fits checkedFirst, List.exists_mem_cons_iff, or_assoc]

/-- What is found does not change with the lines and the order of the intents in effect, nor with how
often they are stated. -/
theorem checkIntents_congr_intents {others : List IntentTag}
    (same : IntentTag.SameStatements others ctx.intents) (c : Constraint) (intents : List IntentTag)
    (reported : List (String × String)) :
    checkIntents c { ctx with intents := others } intents reported =
      checkIntents c ctx intents reported := by
  have present (i : IntentTag) (name : String) :
      (namesInScope i others).contains name = (namesInScope i ctx.intents).contains name := by
    rw [Bool.eq_iff_iff, contains_namesInScope, contains_namesInScope]
    exact same.sees_iff i name
  have clashes (i : IntentTag) (d : IntentDefinition) (names : List String)
      (reported : List (String × String)) :
      conflicts c i d (namesInScope i others) names reported =
        conflicts c i d (namesInScope i ctx.intents) names reported := by
    induction names generalizing reported with
    | nil => rfl
    | cons name rest ih => simp only [conflicts, present, ih]
  induction intents generalizing reported with
  | nil => rfl
  | cons i rest ih =>
    have here : checkIntent c { ctx with intents := others } i reported =
        checkIntent c ctx i reported := by
      simp only [checkIntent, clashes, missingPartners, present]
      rfl
    simp only [checkIntents, here, ih]

end AllIntents

/-- Intents are kept if those that they restate are. -/
theorem kept_of_restated {others : List IntentTag}
    (restated : ∀ i ∈ intents, ∃ s ∈ others, s.Restates i)
    (kept : ∀ s ∈ others, ∃ d, ctx.intentRegistry.find? s.name = some d ∧ s.Kept ctx d) :
    ∀ i ∈ intents, ∃ d, ctx.intentRegistry.find? i.name = some d ∧ i.Kept ctx d := by
  intro i member
  obtain ⟨s, stated, same⟩ := restated i member
  obtain ⟨d, defined, promises⟩ := kept s stated
  exact ⟨d, same.1 ▸ defined, same.kept promises⟩

theorem verifyIntent_passes_iff (fits : ctx.Representable) (c : Constraint) :
    ∃ v, verifyIntent c ctx = some v ∧ (v.passed = true ↔
      ∀ i ∈ ctx.intents, ∃ d, ctx.intentRegistry.find? i.name = some d ∧ i.Kept ctx d) := by
  obtain ⟨found, done, -⟩ := checkIntents_decides (c := c) fits (distinctIntents ctx.intents) []
  refine ⟨.ofViolations found, by rw [verifyIntent, done]; rfl, ?_⟩
  have passed : (Verdict.ofViolations found).passed = true ↔
      checkIntents c ctx (distinctIntents ctx.intents) [] = some [] := by
    rw [done, Option.some.injEq]
    exact List.isEmpty_iff
  rw [passed, checkIntents_eq_nil_iff fits]
  constructor
  · exact kept_of_restated fun i member => exists_distinctIntents member
  · exact fun kept i listed => kept i (mem_of_mem_distinctIntents listed)

/-- A file passes exactly if each of its intents is defined and kept, together with all that are in
effect with it. Stating the same intents more often or in another order changes nothing. -/
theorem every_intent_is_kept (c : Constraint) (ctx : FileContext) (fits : ctx.Representable) :
    ∃ v, verifyIntent c ctx = some v ∧
      (v.passed = true ↔
        ∀ i ∈ ctx.intents, ∃ d, ctx.intentRegistry.find? i.name = some d ∧ i.Kept ctx d) ∧
      (∀ before again after, ctx.intents = before ++ again ++ after →
        (∀ i ∈ again, ∃ s ∈ before, s.Restates i) →
        verifyIntent c { ctx with intents := before ++ after } = some v) ∧
      (∀ others, IntentTag.SameStatements others ctx.intents →
        ∃ w, verifyIntent c { ctx with intents := others } = some w ∧ w.passed = v.passed) := by
  obtain ⟨v, done, verdict⟩ := verifyIntent_passes_iff fits c
  refine ⟨v, done, verdict, ?_, ?_⟩
  · intro before again after stated restated
    have same : IntentTag.SameStatements (before ++ after) ctx.intents := by
      rw [stated]
      intro i
      constructor
      · rintro ⟨s, member, restates⟩
        refine ⟨s, ?_, restates⟩
        rcases List.mem_append.1 member with early | late
        · exact List.mem_append_left _ (List.mem_append_left _ early)
        · exact List.mem_append_right _ late
      · rintro ⟨s, member, restates⟩
        rcases List.mem_append.1 member with early | late
        · rcases List.mem_append.1 early with first | repeated
          · exact ⟨s, List.mem_append_left _ first, restates⟩
          · obtain ⟨t, first, earlier⟩ := restated s repeated
            exact ⟨t, List.mem_append_left _ first, earlier.trans restates⟩
        · exact ⟨s, List.mem_append_right _ late, restates⟩
    rw [← done, verifyIntent, verifyIntent, checkIntents_congr_intents same, stated,
      distinctIntents_append_again restated]
  · intro others same
    have fits' : ({ ctx with intents := others } : FileContext).Representable :=
      ⟨fits.functions, fits.methods, fits.content⟩
    obtain ⟨w, done', verdict'⟩ := verifyIntent_passes_iff fits' c
    refine ⟨w, done', ?_⟩
    rw [Bool.eq_iff_iff, verdict, verdict']
    simp only [same.kept_iff]
    exact ⟨kept_of_restated fun i member => (same i).2 ⟨i, member, .refl i⟩,
      kept_of_restated fun i member => (same i).1 ⟨i, member, .refl i⟩⟩

namespace Stamping

def cached : IntentDefinition := { name := "cached", requires := ["get"] }

def pureIntent : IntentDefinition :=
  { name := "pure", forbids := ["now"], conflictsWith := ["io"], requiresIntent := ["cached"] }

def io : IntentDefinition := { name := "io", conflictsWith := ["pure"] }

def asked : Constraint := .ofRule .verifyIntent (.list [])

/-- Two functions, of which the first keeps off what the second does. -/
def file : FileContext where
  filePath := "a.py"
  archId := "svc"
  model :=
    { functions := [{ name := "load", startLine := 3, endLine := 4 },
        { name := "stamp", startLine := 6, endLine := 6 }] }
  content := "import cache\n# pure\ndef load(k):\n  return get(k)\n# io\ndef stamp(): return now()"
  intents := [⟨"cached", 1, .file⟩, ⟨"pure", 2, .function (some "load")⟩,
    ⟨"io", 5, .function (some "stamp")⟩]
  intentRegistry := .ofList [("cached", cached), ("pure", pureIntent), ("io", io)]
  project := {}
  limits := {}
  testFilePatterns := []

theorem file_representable : file.Representable where
  functions := by simp [file]
  methods := by simp [file]
  content := by decide +kernel

end Stamping

open Stamping in
/-- The function that has to do without the time does, although the file asks for it elsewhere, and
stating its intent again changes nothing. -/
theorem functions_keep_their_intents : ∃ v, verifyIntent asked file = some v ∧ v.passed = true ∧
    verifyIntent asked
      { file with intents := file.intents ++ [⟨"pure", 9, .function (some "load")⟩] } = some v := by
  have get : Pattern.compile {} "get" = .ok ⟨.ofNode (.text "get".toList)⟩ :=
    Pattern.compile_text (by decide) (.of_ungrouped (by decide)) (by decide +kernel)
  have now : Pattern.compile {} "now" = .ok ⟨.ofNode (.text "now".toList)⟩ :=
    Pattern.compile_text (by decide) (.of_ungrouped (by decide)) (by decide +kernel)
  have kept : ∀ i ∈ file.intents, ∃ d, file.intentRegistry.find? i.name = some d ∧ i.Kept file d := by
    refine List.forall_mem_cons.2 ⟨⟨cached, by decide +kernel, ?_, nofun, nofun, nofun⟩,
      List.forall_mem_cons.2 ⟨⟨pureIntent, by decide +kernel, nofun, ?_, ?_, ?_⟩,
        List.forall_mem_singleton.2 ⟨io, by decide +kernel, nofun, nofun, ?_, nofun⟩⟩⟩
    · refine List.forall_mem_singleton.2 ⟨_, get, ?_⟩
      rw [Pattern.isMatch_ofNode]
      decide +kernel
    · refine List.forall_mem_singleton.2 ⟨_, now, ?_⟩
      rw [Pattern.isMatch_ofNode]
      decide +kernel
    all_goals decide +kernel
  let more : FileContext :=
    { file with intents := file.intents ++ [⟨"pure", 9, .function (some "load")⟩] }
  have fits : more.Representable := ⟨file_representable.1, file_representable.2, file_representable.3⟩
  obtain ⟨v, done, -, again, others⟩ := every_intent_is_kept asked more fits
  obtain ⟨w, checked, verdict, -, -⟩ := every_intent_is_kept asked file file_representable
  refine ⟨w, checked, verdict.2 kept, ?_⟩
  have same := again file.intents [⟨"pure", 9, .function (some "load")⟩] [] (by rw [List.append_nil])
    (List.forall_mem_singleton.2 ⟨⟨"pure", 2, .function (some "load")⟩, by decide, rfl, rfl⟩)
  rw [List.append_nil] at same
  exact done.trans (same.symm.trans checked)

end Validator

end Conformance
