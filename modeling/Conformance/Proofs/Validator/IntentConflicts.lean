import Conformance.Proofs.Validator.Intents

/-! Where conflicts of intents are reported. A pair of names is reported once in a file, with the
first intent that clashes with the other one. So a scope whose pair clashes nowhere else gets its
report, and a scope that repeats a pair of another one gets none. -/
namespace Conformance.Validator

variable {c : Constraint} {ctx : FileContext} {i j o : IntentTag} {d : IntentDefinition}
  {pair : String × String} {before after : List IntentTag}

private theorem clashes_of_restates (same : i.Restates j) (clash : Clashes ctx i pair) :
    Clashes ctx j pair := by
  obtain ⟨d, defined, other, listed, seen, named⟩ := clash
  exact ⟨d, same.1 ▸ defined, other, listed, (same.sees_iff other).1 seen, named⟩

/-- Two intents on one scope clash if one of them rules out the other. -/
private theorem clashes_of_same_scope (partner : o ∈ ctx.intents) (same : o.scope = i.scope)
    (bound : i.scope ≠ .function none) (defined : ctx.intentRegistry.find? i.name = some d)
    (listed : o.name ∈ d.conflictsWith) : Clashes ctx i (namePair d.name o.name) := by
  refine ⟨d, defined, o.name, listed, ⟨o, partner, rfl, ?_⟩, rfl⟩
  cases scope : i.scope with
  | file => exact .inl (same.trans scope)
  | function name =>
    cases name with
    | none => exact absurd scope bound
    | some name => exact .inr ⟨name, rfl, same.trans scope⟩

/-- If any intent clashes with a pair, one does so first. -/
theorem exists_first_clash (stated : i ∈ ctx.intents) (clash : Clashes ctx i pair) :
    ∃ before j after, ctx.intents = before ++ j :: after ∧ Clashes ctx j pair ∧
      ∀ k ∈ before, ¬Clashes ctx k pair := by
  have some : (ctx.intents.find? fun k => Clashes ctx k pair).isSome :=
    List.find?_isSome.2 ⟨i, stated, decide_eq_true clash⟩
  obtain ⟨j, found⟩ := Option.isSome_iff_exists.1 some
  obtain ⟨clash, before, after, split, none⟩ := List.find?_eq_some_iff_append.1 found
  exact ⟨before, j, after, split, of_decide_eq_true clash, fun k member =>
    by simpa using none k member⟩

/-- The first intent that clashes with a pair is found to do so. -/
theorem clash_found (fits : ctx.Representable) (c : Constraint)
    (split : ctx.intents = before ++ j :: after) (clash : Clashes ctx j pair)
    (first : ∀ k ∈ before, ¬Clashes ctx k pair) :
    ∃ v, verifyIntent c ctx = some v ∧ ∃ d other, conflictFound c j d other ∈ v.violations := by
  have fresh : ∀ s ∈ before, ¬s.Restates j := fun s member same =>
    first s member (clashes_of_restates ⟨same.1.symm, same.2.symm⟩ clash)
  obtain ⟨rest, listed⟩ := distinctIntents_append_fresh fresh after
  obtain ⟨lead, own, tail, known, later, done, checked, pairs⟩ :=
    exists_checkIntent fits c (distinctIntents before) j rest []
  refine ⟨.ofViolations (lead ++ own ++ tail), by rw [verifyIntent, split, listed, done]; rfl, ?_⟩
  have unknown : pair ∉ known := by
    rw [pairs]
    rintro (none | ⟨k, member, earlier⟩)
    · cases none
    · exact first k (mem_of_mem_distinctIntents member) earlier
  obtain ⟨d, defined, other, conflict, seen, rfl⟩ := clash
  obtain ⟨broken, -, whole⟩ := checkIntent_defined fits c defined known
  rw [whole] at checked
  cases checked
  obtain ⟨named, -, -, -, found⟩ := exists_conflictFound (c := c) (i := j) conflict
    ((contains_namesInScope j ctx.intents other).2 seen) unknown
  refine ⟨d, named, ?_⟩
  simp only [Verdict.ofViolations, List.mem_append]
  exact .inl (.inr (.inl (.inr found)))

private theorem conflictFound_code (c : Constraint) (i : IntentTag) (d : IntentDefinition)
    (other : String) :
    (conflictFound c i d other).code = Code.intentConflict :=
  Diagnostic.code_onLine _ i.line

private theorem conflictFound_line (c : Constraint) (d : IntentDefinition) (other : String)
    (positive : 0 < i.line) : (conflictFound c i d other).line = some i.line := by
  rw [conflictFound, Diagnostic.onLine, if_pos positive]

/-- Each pair of intents that clash is reported on the line of the first intent that clashes with it. So a
scope on which an intent stands beside one that it rules out gets a report on a line of its own, if
the pair clashes on no other scope. -/
theorem first_clash_is_reported (c : Constraint) (ctx : FileContext) (fits : ctx.Representable)
    (positive : ∀ k ∈ ctx.intents, 0 < k.line) :
    ∃ v, verifyIntent c ctx = some v ∧
      (∀ before j after pair, ctx.intents = before ++ j :: after → Clashes ctx j pair →
        (∀ k ∈ before, ¬Clashes ctx k pair) →
        ∃ x ∈ v.violations, x.code = Code.intentConflict ∧ x.line = some j.line) ∧
      (∀ i ∈ ctx.intents, ∀ o ∈ ctx.intents, o.scope = i.scope → i.scope ≠ .function none →
        ∀ d, ctx.intentRegistry.find? i.name = some d → o.name ∈ d.conflictsWith →
        (∀ k ∈ ctx.intents, Clashes ctx k (namePair d.name o.name) → k.scope = i.scope) →
        ∃ s ∈ ctx.intents, s.scope = i.scope ∧
          ∃ x ∈ v.violations, x.code = Code.intentConflict ∧ x.line = some s.line) := by
  obtain ⟨v, done, -⟩ := verifyIntent_passes_iff fits c
  have reported (before : List IntentTag) (j : IntentTag) (after : List IntentTag)
      (pair : String × String) (split : ctx.intents = before ++ j :: after)
      (clash : Clashes ctx j pair) (first : ∀ k ∈ before, ¬Clashes ctx k pair) :
      ∃ x ∈ v.violations, x.code = Code.intentConflict ∧ x.line = some j.line := by
    obtain ⟨w, found, d, other, member⟩ := clash_found fits c split clash first
    cases done.symm.trans found
    have stated : j ∈ ctx.intents := split ▸ List.mem_append_right _ List.mem_cons_self
    exact ⟨_, member, conflictFound_code c j d other, conflictFound_line c d other (positive j stated)⟩
  refine ⟨v, done, reported, ?_⟩
  intro i stated o partner same bound d defined listed alone
  have clash := clashes_of_same_scope partner same bound defined listed
  obtain ⟨before, j, after, split, clash, first⟩ := exists_first_clash stated clash
  have member : j ∈ ctx.intents := split ▸ List.mem_append_right _ List.mem_cons_self
  exact ⟨j, member, alone j member clash, reported before j after _ split clash first⟩

namespace Conflicting

def pureIntent : IntentDefinition := { name := "pure", conflictsWith := ["io", "net"] }

def io : IntentDefinition := { name := "io", conflictsWith := ["pure"] }

/-- Functions of a file with intents on them. -/
def file (intents : List IntentTag) : FileContext where
  filePath := "a.ts"
  archId := "svc"
  model :=
    { functions := [{ name := "f", startLine := 3, endLine := 3 },
        { name := "g", startLine := 5, endLine := 5 }] }
  content := "const a = 1;\n// f\nfunction f()\n// g\nfunction g()"
  intents
  intentRegistry := .ofList [("pure", pureIntent), ("io", io), ("net", { name := "net" })]
  project := {}
  limits := {}
  testFilePatterns := []

theorem file_representable (intents : List IntentTag) : (file intents).Representable where
  functions := by simp [file]
  methods := by simp [file]
  content := by
    have length : "const a = 1;\n// f\nfunction f()\n// g\nfunction g()".length < 2 ^ 63 := by
      decide +kernel
    exact length

def asked : Constraint := .ofRule .verifyIntent (.list [])

def on (function name : String) (line : Nat) : IntentTag := ⟨name, line, .function (some function)⟩

end Conflicting

open Conflicting in
/-- Two functions with a conflict each, of different pairs. -/
theorem conflicts_on_both_functions :
    let ctx := file [on "f" "pure" 2, on "f" "io" 2, on "g" "pure" 4, on "g" "net" 4]
    ∃ v, verifyIntent asked ctx = some v ∧
      ∃ x ∈ v.violations, x.code = "I003" ∧ x.line = some 4 := by
  intro ctx
  obtain ⟨v, done, -, onScopes⟩ := first_clash_is_reported asked ctx (file_representable _) (by decide)
  refine ⟨v, done, ?_⟩
  obtain ⟨s, stated, scope, reported⟩ := onScopes (on "g" "pure" 4) (by decide) (on "g" "net" 4)
    (by decide) rfl (by decide) pureIntent (by decide +kernel) (by decide) (by decide +kernel)
  have line : ∀ s ∈ ctx.intents, s.scope = .function (some "g") → s.line = 4 := by decide
  rwa [line s stated scope] at reported

open Conflicting in
/-- The second function repeats the conflict of the first, and nothing is reported on its line. -/
theorem repeated_conflict_is_silent :
    let ctx := file [on "f" "pure" 2, on "f" "io" 2, on "g" "pure" 4, on "g" "io" 4]
    ctx.intentRegistry.find? "pure" = some pureIntent ∧ "io" ∈ pureIntent.conflictsWith ∧
      (∀ k ∈ ctx.intents, 0 < k.line) ∧
      (verifyIntent asked ctx).map (fun v =>
        v.violations.map fun x => (x.code, x.line)) = some [("I003", some 2)] := by
  decide +kernel

end Conformance.Validator
