import Conformance.Proofs.Validator.Intents

/-! Where the patterns of a function's intent are searched for. An intent is bound to the next function,
and by its name alone, so its patterns are searched for in the lines of that function if no other of
its name comes before it in the list; else in those of the other one. -/
namespace Conformance

section Next

variable {functions : List FunctionDecl} {line : Nat} {f : FunctionDecl}

/-- The first function, in list order, of those that start earliest after a line. -/
structure IsNext (functions : List FunctionDecl) (line : Nat) (f : FunctionDecl) : Prop where
  after : line < f.startLine
  first : ∃ before later, functions = before ++ f :: later ∧
    (∀ g ∈ before, line < g.startLine → f.startLine < g.startLine) ∧
    ∀ g ∈ later, line < g.startLine → f.startLine ≤ g.startLine

theorem firstAfter?_concat (functions : List FunctionDecl) (g : FunctionDecl) (line : Nat) :
    firstAfter? (functions ++ [g]) line =
      if line < g.startLine then
        match firstAfter? functions line with
        | some b => if g.startLine < b.startLine then some g else some b
        | none => some g
      else firstAfter? functions line := by
  unfold firstAfter?
  rw [List.foldl_append, List.foldl_cons, List.foldl_nil]
  generalize functions.foldl _ none = best
  cases best <;> rfl

private theorem firstAfter?_eq_none (none : firstAfter? functions line = none) :
    ∀ g ∈ functions, ¬line < g.startLine := by
  induction functions using List.reverseRecOn with
  | nil => exact nofun
  | append_singleton functions last ih =>
    rw [firstAfter?_concat] at none
    split at none
    · split at none
      · split at none <;> cases none
      · cases none
    · rename_i early
      exact List.forall_mem_append.2 ⟨ih none, List.forall_mem_singleton.2 early⟩

private theorem isNext_of_firstAfter? (found : firstAfter? functions line = some f) :
    IsNext functions line f := by
  induction functions using List.reverseRecOn generalizing f with
  | nil => cases found
  | append_singleton functions last ih =>
    rw [firstAfter?_concat] at found
    split at found
    · rename_i late
      cases best : firstAfter? functions line with
      | none =>
        rw [best] at found
        cases found
        exact ⟨late, functions, [], rfl,
          fun g member later => absurd later (firstAfter?_eq_none best g member), nofun⟩
      | some b =>
        obtain ⟨after, before, later, split, earlier, others⟩ := ih best
        rw [best] at found
        dsimp only at found
        split at found
        · rename_i sooner
          cases found
          refine ⟨late, functions, [], rfl, fun g member later => ?_, nofun⟩
          rw [split, List.mem_append, List.mem_cons] at member
          rcases member with before | rfl | behind
          · exact sooner.trans (earlier g before later)
          · exact sooner
          · exact sooner.trans_le (others g behind later)
        · rename_i notSooner
          cases found
          refine ⟨after, before, later ++ [last], by rw [split]; simp, earlier, ?_⟩
          exact List.forall_mem_append.2 ⟨others,
            List.forall_mem_singleton.2 fun _ => Nat.not_lt.1 notSooner⟩
    · rename_i early
      obtain ⟨after, before, later, split, earlier, others⟩ := ih found
      refine ⟨after, before, later ++ [last], by rw [split]; simp, earlier, ?_⟩
      exact List.forall_mem_append.2 ⟨others,
        List.forall_mem_singleton.2 fun late => absurd late early⟩

end Next

namespace Validator

variable {c : Constraint} {ctx : FileContext} {i : IntentTag} {d : IntentDefinition}
  {f g : FunctionDecl}

theorem functionOf?_eq (bound : i.scope = .function (some f.name))
    (first : ctx.model.functions.find? (fun g => g.name = f.name) = some g)
    (known : 0 < g.startLine) : ctx.functionOf? i = some g := by
  simp [FileContext.functionOf?, bound, first, Option.filter_some, known]

/-- A forbidden pattern is found on a line of the text. -/
private theorem brokenPattern_placed (c : Constraint) (i : IntentTag) (d : IntentDefinition)
    (limits : PatternLimits) {text : String} {skipped : Nat}
    (room : text.toList.count '\n' + 1 + skipped < 2 ^ 64) (pattern : String) :
    ∃ found, brokenPattern c limits i d text skipped pattern = some found ∧
      ∀ x ∈ found, ∀ line, x.line = some line →
        skipped < line ∧ line ≤ text.toList.count '\n' + 1 + skipped := by
  unfold brokenPattern
  split
  · refine ⟨_, rfl, fun x found line placed => ?_⟩
    cases found
    cases placed
  · exact ⟨none, rfl, fun x found => absurd found (Option.not_mem_none x)⟩
  · rename_i hit found
    obtain ⟨position, rfl⟩ := findLine_eq found
    have bound := lineAt_le text position
    have positive : 0 < Text.lineAt text position := Nat.succ_pos _
    rw [Count.add?_eq (by omega)]
    refine ⟨_, rfl, fun x found line placed => ?_⟩
    cases found
    rw [Diagnostic.onLine, if_pos (by omega)] at placed
    cases placed
    omega

private theorem brokenPatterns_placed {limits : PatternLimits} {text : String} {skipped : Nat}
    {broken : List Diagnostic} (room : text.toList.count '\n' + 1 + skipped < 2 ^ 64)
    (searched : brokenPatterns c limits i d text skipped = some broken) :
    ∀ x ∈ broken, ∀ line, x.line = some line →
      skipped < line ∧ line ≤ text.toList.count '\n' + 1 + skipped := by
  obtain ⟨out, done, -, placed⟩ := exists_mapM fun pattern (_ : pattern ∈ d.forbids) =>
    brokenPattern_placed c i d limits room pattern
  rw [brokenPatterns, done] at searched
  cases searched
  intro x member
  obtain ⟨found, inside, same⟩ := List.mem_filterMap.1 member
  exact placed found inside x same

/-- The finding of what an intent forbids. -/
def forbiddenFound (c : Constraint) (i : IntentTag) (d : IntentDefinition) (pattern : String)
    (line : Nat) : Diagnostic :=
  (Diagnostic.ofConstraint Code.intentPattern c (.text i.name)
    ("@intent:" ++ d.name ++ " forbids /" ++ pattern ++ "/")
    "Remove the matching code or drop the intent").onLine line

/-- A single forbidden pattern is reported on the line of the file that its match lies on. -/
theorem brokenPatterns_of_match {limits : PatternLimits} {text pattern : String}
    {skipped line : Nat} (only : d.forbids = [pattern])
    (found : Pattern.findLine limits pattern text = .ok (some line)) (room : line + skipped < 2 ^ 64) :
    brokenPatterns c limits i d text skipped =
      some [forbiddenFound c i d pattern (line + skipped)] := by
  have broken : brokenPattern c limits i d text skipped pattern =
      some (some (forbiddenFound c i d pattern (line + skipped))) := by
    rw [brokenPattern, found]
    dsimp only
    rw [Count.add?_eq room]
    rfl
  rw [brokenPatterns, only, List.mapM_cons, broken]
  rfl

private theorem code_of_mem_conflicts {present others : List String}
    {known : List (String × String)}
    {x : Diagnostic} (member : x ∈ (conflicts c i d present others known).1) :
    x.code = Code.intentConflict := by
  induction others generalizing known with
  | nil => cases member
  | cons other rest ih =>
    rw [conflicts] at member
    split at member
    · rcases List.mem_cons.1 member with rfl | later
      · exact Diagnostic.code_onLine _ i.line
      · exact ih later
    · exact ih member

private theorem code_of_mem_missingPartners {present : List String} {x : Diagnostic}
    (member : x ∈ missingPartners c i d present) : x.code = Code.missingIntent := by
  obtain ⟨needed, -, rfl⟩ := List.mem_map.1 member
  exact Diagnostic.code_onLine _ i.line

/-- What is found about a defined intent, or about one that states the same before it, stands among
the findings. -/
theorem exists_verifyIntent_defined (fits : ctx.Representable) (c : Constraint)
    (stated : i ∈ ctx.intents) (defined : ctx.intentRegistry.find? i.name = some d) :
    ∃ v, verifyIntent c ctx = some v ∧ ∃ shown ∈ ctx.intents, shown.Restates i ∧
      ∃ broken,
        brokenPatterns c ctx.limits shown d (ctx.textOf i) (ctx.linesBefore i) = some broken ∧
        ∃ known lead tail, v.violations = lead ++
          (unmetPatterns c ctx.limits shown d (ctx.textOf i) ++ broken ++
            (conflicts c shown d (namesInScope shown ctx.intents) d.conflictsWith known).1 ++
            missingPartners c shown d (namesInScope shown ctx.intents)) ++ tail := by
  obtain ⟨shown, listed, same⟩ := exists_distinctIntents stated
  obtain ⟨before, after, split⟩ := List.append_of_mem listed
  obtain ⟨lead, own, tail, known, later, done, checked, -⟩ :=
    exists_checkIntent fits c before shown after []
  rw [← split] at done
  refine ⟨.ofViolations (lead ++ own ++ tail), by rw [verifyIntent, done]; rfl, shown,
    mem_of_mem_distinctIntents listed, same, ?_⟩
  obtain ⟨broken, searched, whole⟩ := checkIntent_defined fits c (same.1 ▸ defined) known
  rw [whole] at checked
  cases checked
  rw [same.textOf_eq, same.linesBefore_eq] at searched
  rw [same.textOf_eq]
  exact ⟨broken, searched, known, lead, tail, rfl⟩

/-- An intent on no function yet is bound to the next one, and what its definition requires and forbids
is searched for in the lines of the first function of that name. -/
theorem next_function_is_searched_by_name (c : Constraint) (fits : ctx.Representable)
    (unbound : i.scope = .function none) (next : firstAfter? ctx.model.functions i.line = some f)
    (stated : i.bind ctx.model ∈ ctx.intents)
    (defined : ctx.intentRegistry.find? i.name = some d) :
    IsNext ctx.model.functions i.line f ∧ (i.bind ctx.model).scope = .function (some f.name) ∧
    ∃ g, ctx.model.functions.find? (fun h => h.name = f.name) = some g ∧ (0 < g.startLine →
      ∃ v, verifyIntent c ctx = some v ∧ ∃ shown ∈ ctx.intents, shown.Restates (i.bind ctx.model) ∧
        ∃ lead broken others tail, v.violations = lead ++
            (unmetPatterns c ctx.limits shown d (Text.span ctx.content g.startLine g.endLine) ++
              broken ++ others) ++ tail ∧
          brokenPatterns c ctx.limits shown d (Text.span ctx.content g.startLine g.endLine)
            (g.startLine - 1) = some broken ∧
          (∀ x ∈ broken, ∀ line, x.line = some line →
            g.startLine ≤ line ∧ line ≤ max g.startLine g.endLine) ∧
          ∀ x ∈ others, x.code = Code.intentConflict ∨ x.code = Code.missingIntent) := by
  have isNext := isNext_of_firstAfter? next
  have bound : (i.bind ctx.model).scope = .function (some f.name) := by
    rw [IntentTag.bind, unbound, next]
    rfl
  refine ⟨isNext, bound, ?_⟩
  obtain ⟨g, named⟩ : ∃ g, ctx.model.functions.find? (fun h => h.name = f.name) = some g := by
    obtain ⟨before, later, split, -, -⟩ := isNext.first
    refine Option.isSome_iff_exists.1 (List.find?_isSome.2 ⟨f, ?_, decide_eq_true rfl⟩)
    exact split ▸ List.mem_append_right _ List.mem_cons_self
  refine ⟨g, named, fun known => ?_⟩
  have target := functionOf?_eq bound named known
  have text : ctx.textOf (i.bind ctx.model) = Text.span ctx.content g.startLine g.endLine := by
    rw [FileContext.textOf, target]
  have skipped : ctx.linesBefore (i.bind ctx.model) = g.startLine - 1 := by
    rw [FileContext.linesBefore, target]
  have name : (i.bind ctx.model).name = i.name := by
    rw [IntentTag.bind, unbound]
  obtain ⟨v, done, shown, member, same, broken, searched, clashes, lead, tail, found⟩ :=
    exists_verifyIntent_defined fits c stated (name.symm ▸ defined)
  rw [text, skipped] at searched
  rw [text, List.append_assoc (_ ++ broken)] at found
  have feeds := Text.count_span ctx.content g.startLine g.endLine
  obtain ⟨low, high⟩ := fits.functions g (List.mem_of_find?_eq_some named)
  refine ⟨v, done, shown, member, same, lead, broken, _, tail, found, searched, ?_, ?_⟩
  · intro x reported line placed
    obtain ⟨above, below⟩ := brokenPatterns_placed (by omega) searched x reported line placed
    omega
  · exact List.forall_mem_append.2 ⟨fun x clash => .inl (code_of_mem_conflicts clash),
      fun x missing => .inr (code_of_mem_missingPartners missing)⟩

def Stamping.onStamp : IntentTag := ⟨"pure", 5, .function (some "stamp")⟩

open Stamping in
/-- The function that is to do without the time asks for it, and is reported on its own line. -/
theorem stamp_is_searched_for_its_intent :
    let ctx := { file with intents := [onStamp] }
    ∃ v, verifyIntent asked ctx = some v ∧ ∃ x ∈ v.violations, x.code = "I002" ∧ x.line = some 6 := by
  intro ctx
  have fits : ctx.Representable := ⟨file_representable.1, file_representable.2, file_representable.3⟩
  obtain ⟨-, -, g, named, checked⟩ := next_function_is_searched_by_name asked fits
    (i := ⟨"pure", 5, .function none⟩) (f := { name := "stamp", startLine := 6, endLine := 6 })
    (d := pureIntent) rfl rfl (by decide) (by decide +kernel)
  cases named
  obtain ⟨v, done, shown, member, -, lead, broken, others, tail, reported, searched, -⟩ :=
    checked (by decide)
  cases List.mem_singleton.1 member
  have now : Pattern.compile ctx.limits "now" = .ok ⟨.ofNode (.text "now".toList)⟩ :=
    Pattern.compile_text (by decide) (.of_ungrouped (by decide)) (by decide +kernel)
  have found : Pattern.findLine ctx.limits "now" (Text.span ctx.content 6 6) = .ok (some 1) := by
    rw [Pattern.findLine_ofNode now]
    decide +kernel
  rw [brokenPatterns_of_match rfl found (by decide)] at searched
  cases searched
  refine ⟨v, done, forbiddenFound asked onStamp pureIntent "now" 6, ?_, Diagnostic.code_onLine _ _, rfl⟩
  rw [reported]
  simp

namespace Overloading

def keepsTime : IntentDefinition := { name := "pure", forbids := ["now"] }

def bound : IntentTag := ⟨"pure", 3, .function (some "save")⟩

/-- Two functions of one name. The intent is written above the second, and the first does what it
forbids. -/
def file : FileContext where
  filePath := "a.py"
  archId := "svc"
  model :=
    { functions := [{ name := "save", startLine := 1, endLine := 2 },
        { name := "save", startLine := 4, endLine := 5 }] }
  content := "def save():\n  now()\n# pure\ndef save(x):\n  return x"
  intents := [bound]
  intentRegistry := .ofList [("pure", keepsTime)]
  project := {}
  limits := {}
  testFilePatterns := []

end Overloading

open Overloading in
/-- An intent above the second function of a name is looked for in the first one, and what it forbids is
reported there. -/
theorem earlier_namesake_is_searched_instead :
    let unbound : IntentTag := ⟨"pure", 3, .function none⟩
    file.intents = [unbound.bind file.model] ∧
    firstAfter? file.model.functions 3 = some { name := "save", startLine := 4, endLine := 5 } ∧
    Pattern.isMatch file.limits "now" (Text.span file.content 4 5) = .ok false ∧
    (verifyIntent Stamping.asked file).map (fun v => v.violations.map fun x => (x.code, x.line)) =
      some [("I002", some 2)] := by
  have compiled : Pattern.compile file.limits "now" = .ok ⟨.ofNode (.text "now".toList)⟩ :=
    Pattern.compile_text (by decide) (.of_ungrouped (by decide)) (by decide +kernel)
  refine ⟨by decide +kernel, by decide +kernel, ?_, ?_⟩
  · rw [Pattern.isMatch_eq_ok_iff]
    refine ⟨_, compiled, ?_⟩
    rw [Pattern.isMatch_ofNode]
    decide +kernel
  · have found : Pattern.findLine file.limits "now" (Text.span file.content 1 2) = .ok (some 2) := by
      rw [Pattern.findLine_ofNode compiled]
      decide +kernel
    have searched : brokenPatterns Stamping.asked file.limits bound keepsTime
        (Text.span file.content 1 2) 0 = some [forbiddenFound Stamping.asked bound keepsTime "now" 2] :=
      brokenPatterns_of_match rfl found (by decide)
    have defined : file.intentRegistry.find? bound.name = some keepsTime := by decide +kernel
    have scope : scopeText file bound = some (Text.span file.content 1 2, 0) := by decide +kernel
    have checked : checkIntent Stamping.asked file bound [] =
        some ([forbiddenFound Stamping.asked bound keepsTime "now" 2], []) := by
      rw [checkIntent, defined]
      dsimp only
      rw [scope]
      dsimp only [Option.bind_eq_bind, Option.bind_some]
      rw [searched]
      rfl
    have distinct : distinctIntents file.intents = [bound] := by decide +kernel
    rw [verifyIntent, distinct, checkIntents, checked]
    rfl

end Validator

end Conformance
