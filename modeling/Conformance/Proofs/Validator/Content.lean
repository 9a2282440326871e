import Conformance.Proofs.Pattern
import Conformance.Proofs.Source.BlockComments
import Conformance.Validator.Content

/-! Texts searched without their comments, against the lines that count as code. A searched text keeps
its lines in place, each as it is or empty. It keeps the lines that count as code, less those that
count for what stands behind the end of a comment: a line is blanked as a whole. -/
namespace Conformance.Validator

open BlockComment
open LineCount (blockOpen blockClose isLineComment inBlockAfter)

section Lines

variable {line : List Char}

/-- A line that starts with an opening mark and a slash, and has no end mark after it: the star of the
opening mark is no part of an end mark. -/
def Slashed (line : List Char) : Prop :=
  ∃ body, Chars.trim line = blockOpen ++ '/' :: body ∧ Chars.contains body blockClose = false

theorem startsWith_trimStart {lead : List Char} (solid : ∀ c ∈ lead, Chars.isBlank c = false)
    (line : List Char) :
    Chars.startsWith (Chars.trimStart line) lead = Chars.startsWith (Chars.trim line) lead := by
  obtain ⟨after, written, blank⟩ := Chars.exists_trimStart line
  rw [written, Chars.startsWith_append solid blank]

private theorem contains_trimStart (line : List Char) :
    Chars.contains (Chars.trimStart line) blockClose = Chars.contains (Chars.trim line) blockClose := by
  obtain ⟨after, written, blank⟩ := Chars.exists_trimStart line
  have given : blockClose ≠ [] := List.cons_ne_nil _ _
  rw [written, Chars.contains_append given solid_blockClose blank]

private theorem isLineComment_trimStart (line : List Char) :
    isLineComment (Chars.trimStart line) = isLineComment (Chars.trim line) := by
  rw [isLineComment, isLineComment, startsWith_trimStart (by simp [Chars.isBlank]),
    startsWith_trimStart (by simp [Chars.isBlank]), startsWith_trimStart (by simp [Chars.isBlank])]

/-- The end of a comment is looked for from the star of its opening mark on. -/
private theorem commentStep_inBlock (inBlock : Bool) (line : List Char) :
    (commentStep inBlock line).2 = next ('*' :: ·) inBlock line := by
  unfold commentStep
  dsimp only
  rw [contains_trimStart, startsWith_trimStart solid_blockOpen, ← Chars.isSome_strip?]
  cases inBlock with
  | true => rfl
  | false =>
    rw [if_neg Bool.false_ne_true]
    cases opened : opened? line with
    | none =>
      rw [next_of_unopened opened, show Chars.strip? blockOpen (Chars.trim line) = none from opened]
      rfl
    | some body =>
      have written : Chars.trim line = '/' :: '*' :: body := Chars.strip?_eq_some opened
      rw [next_of_opened opened, show Chars.strip? blockOpen (Chars.trim line) = some body from opened,
        written, Chars.contains_cons]
      rfl

private theorem commentStep_comment (inBlock : Bool) (line : List Char) :
    (commentStep inBlock line).1 = (inBlock || (opened? line).isSome || isLineComment (Chars.trim line)) := by
  unfold commentStep
  dsimp only
  rw [startsWith_trimStart solid_blockOpen, isLineComment_trimStart, ← Chars.isSome_strip?, ← opened?]
  cases inBlock with
  | true => rfl
  | false =>
    rw [if_neg Bool.false_ne_true, Bool.false_or]
    split
    · rename_i opened
      rw [opened]
      rfl
    · rename_i unopened
      rw [Bool.eq_false_iff.2 unopened, Bool.false_or]

/-- A line that is not blank is kept exactly if it counts as code and is in no block comment at its
start. -/
theorem kept_iff (inBlock : Bool) (given : (Chars.trim line).isEmpty = false) :
    (commentStep inBlock line).1 = false ↔
      (LineCount.step inBlock line).1 = true ∧ inBlock = false ∧ opened? line = none := by
  rw [commentStep_comment]
  cases inBlock with
  | true => simp
  | false =>
    cases opened : opened? line with
    | some body => simp
    | none =>
      unfold LineCount.step
      rw [opened?] at opened
      cases comment : isLineComment (Chars.trim line) <;> simp [given, opened, comment]

/-- The reader that blanks lines and the counter differ after a line outside comments exactly if the line is
slashed. -/
theorem differ_iff_slashed : next ('*' :: ·) false line ≠ next id false line ↔ Slashed line := by
  simp only [Slashed, ← opened?_eq_some_iff]
  cases opened : opened? line with
  | none => simp [next_of_unopened opened]
  | some body =>
    rw [next_of_opened opened, next_of_opened opened, id, Chars.contains_cons]
    cases body with
    | nil => simp [blockClose]
    | cons c body =>
      by_cases slash : c = '/'
      · subst slash
        rw [contains_slash]
        simp [blockClose]
      · simp [blockClose, slash, Ne.symm slash]

instance (line : List Char) : Decidable (Slashed line) := decidable_of_iff _ differ_iff_slashed

end Lines

section Texts

theorem blankComments_getElem? (inBlock : Bool) (lines : List (List Char)) (k : Nat) :
    (blankComments inBlock lines)[k]? = lines[k]?.map fun line =>
      if (commentStep ((lines.take k).foldl (next ('*' :: ·)) inBlock) line).1 then [] else line := by
  induction lines generalizing inBlock k with
  | nil => rfl
  | cons line rest ih =>
    cases k with
    | zero => rfl
    | succ k =>
      rw [List.take_succ_cons, List.foldl_cons, ← commentStep_inBlock]
      exact ih (commentStep inBlock line).2 k

theorem length_blankComments (inBlock : Bool) (lines : List (List Char)) :
    (blankComments inBlock lines).length = lines.length := by
  induction lines generalizing inBlock with
  | nil => rfl
  | cons line rest ih => exact congrArg Nat.succ (ih _)

theorem blankComments_cases {lines : List (List Char)} {k : Nat} {line : List Char}
    (here : lines[k]? = some line) :
    (blankComments false lines)[k]? = some line ∨ (blankComments false lines)[k]? = some [] := by
  rw [blankComments_getElem?, here, Option.map_some]
  split
  · exact .inr rfl
  · exact .inl rfl

private theorem not_mem_of_mem_blankComments {content : String} {line : List Char}
    (member : line ∈ blankComments false (Chars.lines content.toList)) : '\n' ∉ line := by
  obtain ⟨k, bound, rfl⟩ := List.mem_iff_getElem.1 member
  have inside : k < (Chars.lines content.toList).length := by rwa [length_blankComments] at bound
  have here := List.getElem?_eq_getElem bound
  rcases blankComments_cases (List.getElem?_eq_getElem inside) with kept | blanked
  · rw [Option.some.inj (here.symm.trans kept)]
    exact Chars.not_mem_of_mem_lines (List.getElem_mem inside)
  · rw [Option.some.inj (here.symm.trans blanked)]
    exact List.not_mem_nil

/-- As long as no line outside comments is slashed, a line that is not blank is kept exactly if it counts
as code and no block comment reaches into it or starts it. -/
private theorem blankComments_kept {lines : List (List Char)} {n : Nat}
    (straight : ∀ k < n, ∀ line ∈ lines[k]?, inBlockAfter (lines.take k) = false → ¬Slashed line)
    {k : Nat} (inside : k < n) {line : List Char} (here : lines[k]? = some line)
    (given : (Chars.trim line).isEmpty = false) :
    (blankComments false lines)[k]? = some line ↔
      (LineCount.codeFlags false lines)[k]? = some true ∧ inBlockAfter (lines.take k) = false ∧
        opened? line = none := by
  simp only [LineCount.inBlockAfter_eq, ← differ_iff_slashed, not_not] at straight
  have agree := agree_iff.2 straight k inside.le
  have nonempty : line ≠ [] := by
    rintro rfl
    cases given
  rw [blankComments_getElem?, LineCount.codeFlags_getElem?, here, Option.map_some, Option.map_some,
    ← openAfter, ← openAfter, agree, ← LineCount.inBlockAfter_eq, Option.some_inj, Option.some_inj,
    ← kept_iff _ given]
  cases (commentStep (inBlockAfter (lines.take k)) line).1 with
  | true => simp [nonempty.symm]
  | false => simp

/-- Entries are looked for in the searched text, whatever text the file has. -/
theorem anyPresent_eq (c : Constraint) (ctx : FileContext) (content text : String)
    (entries : List String) :
    anyPresent { c with excludeComments := false } { ctx with content } text entries =
      anyPresent c ctx text entries := by
  induction entries with
  | nil => rfl
  | cons entry rest ih =>
    rw [anyPresent, ih]
    rfl

/-- A rule that leaves out comments finds in a file what the same rule without the exception finds in the
searched text. -/
private theorem run_searchable (c : Constraint) (ctx : FileContext) :
    ∀ v ∈ [forbidPattern, requirePattern, requireOneOf], v c ctx =
      v { c with excludeComments := false } { ctx with content := searchable c ctx.content } := by
  refine List.forall_mem_cons.2 ⟨rfl, List.forall_mem_cons.2 ⟨rfl, List.forall_mem_singleton.2 ?_⟩⟩
  unfold requireOneOf onList
  cases c.value.toList? with
  | none => rfl
  | some entries =>
    dsimp only
    rw [anyPresent_eq]
    rfl

end Texts

/-- A text searched without comments keeps its line numbers. As long as no line outside comments is
slashed, it keeps the lines that count as code, less those that a block comment touches. -/
theorem blanked_as_counted (c : Constraint) (without : c.excludeComments = true) (content : String) :
    let lines := Chars.lines content.toList
    let shown := blankComments false lines
    ((searchable c content).toList = shown.flatMap (· ++ ['\n']) ∧
      Chars.lines (searchable c content).toList = shown.map (Chars.dropFinal '\r')) ∧
    (shown.length = lines.length ∧
      ∀ k : Nat, ∀ line ∈ lines[k]?, shown[k]? = some line ∨ shown[k]? = some []) ∧
    (∀ n : Nat, (∀ k < n, ∀ line ∈ lines[k]?, inBlockAfter (lines.take k) = false → ¬Slashed line) →
      ∀ k < n, ∀ line ∈ lines[k]?, (Chars.trim line).isEmpty = false →
        (shown[k]? = some line ↔
          (LineCount.codeFlags false lines)[k]? = some true ∧ inBlockAfter (lines.take k) = false ∧
            Chars.startsWith (Chars.trim line) blockOpen = false)) ∧
    ∀ ctx, ∀ v ∈ [forbidPattern, requirePattern, requireOneOf], v c ctx =
      v { c with excludeComments := false } { ctx with content := searchable c ctx.content } := by
  intro lines shown
  have written : (searchable c content).toList = shown.flatMap (· ++ ['\n']) := by
    rw [searchable, if_pos without, String.toList_ofList]
  refine ⟨⟨written, ?_⟩, ⟨length_blankComments false lines, fun _ _ => blankComments_cases⟩, ?_,
    run_searchable c⟩
  · rw [written]
    exact Chars.lines_written fun line => not_mem_of_mem_blankComments
  · intro n straight k inside line here given
    rw [← Chars.isSome_strip?, ← opened?, Option.isSome_eq_false_iff, Option.isNone_iff_eq_none]
    exact blankComments_kept straight inside here given

namespace Commented

/-- A source file of one text. -/
def file (content : String) : FileContext where
  filePath := "a.ts"
  archId := "svc"
  model := {}
  content
  intents := []
  intentRegistry := ∅
  project := {}
  limits := {}
  testFilePatterns := []

/-- No call of `run` outside comments. -/
def noRun : Constraint :=
  { Constraint.ofRule .forbidPattern (.text "run") with excludeComments := true }

end Commented

open Commented in
/-- A call below comments is kept and counted, and one behind the end of a comment only counted. -/
theorem calls_below_and_behind_comments :
    let content := "// run\n/* run\n */ run();\nrun();\n"
    let lines := Chars.lines content.toList
    let shown := blankComments false lines
    (lines.map fun line => (Chars.trim line).isEmpty) = [false, false, false, false] ∧
      LineCount.codeFlags false lines = [false, false, true, true] ∧
      shown[2]? = some [] ∧ shown[3]? = some "run();".toList := by
  intro content lines shown
  obtain ⟨-, ⟨-, placed⟩, kept, -⟩ := blanked_as_counted noRun rfl content
  have kept (k : Nat) := kept 4 (by decide +kernel) k
  refine ⟨by decide +kernel, by decide +kernel, ?_, ?_⟩
  · refine (placed 2 " */ run();".toList (by decide +kernel)).resolve_left ?_
    rw [kept 2 (by decide) _ (by decide +kernel) (by decide +kernel)]
    decide +kernel
  · rw [kept 3 (by decide) _ (by decide +kernel) (by decide +kernel)]
    decide +kernel

open Commented in
/-- A call behind a comment on its line counts as code, and no rule that leaves out comments finds it. A
call in a comment whose opening mark is followed by a slash does not count, and is searched. -/
theorem call_behind_comment_is_missed :
    let content := "/* x */ run();\n"
    let lines := Chars.lines content.toList
    LineCount.count content = (1, 1) ∧ LineCount.codeFlags false lines = [true] ∧
      blankComments false lines = [[]] ∧
      Pattern.findLine {} "run" content = .ok (some 1) ∧
      forbidPattern noRun (file content) = some .pass ∧
      LineCount.count "/*/\nrun();\n*/\n" = (3, 0) ∧
      searchable noRun "/*/\nrun();\n*/\n" = "\nrun();\n*/\n" := by
  intro content lines
  have compiled : Pattern.compile {} "run" = .ok ⟨.ofNode (.text "run".toList)⟩ :=
    Pattern.compile_text (by decide) (.of_ungrouped (by decide)) (by decide +kernel)
  have hidden : Pattern.findLine {} "run" (searchable noRun content) = .ok none := by
    rw [Pattern.findLine_ofNode compiled]
    decide +kernel
  refine ⟨by decide +kernel, by decide +kernel, by decide +kernel, ?_, ?_, by decide +kernel,
    by decide +kernel⟩
  · rw [Pattern.findLine_ofNode compiled]
    decide +kernel
  · have listed : noRun.value.toList? = some ["run"] := rfl
    rw [forbidPattern, onList, listed]
    dsimp only [file]
    rw [List.filterMap_cons, hidden]
    rfl

end Conformance.Validator
