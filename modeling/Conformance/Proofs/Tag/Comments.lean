import Conformance.Proofs.Source.BlockComments
import Conformance.Proofs.Tag.Scanning

/-! Where the tag scanner reads comments, against where the line counter does. Both are in a block
comment after the same lines, until a line outside comments starts with a comment of stars alone. The
scanner drops the stars before it looks for the end mark, so it misses the end of that comment. -/
namespace Conformance.TagScan

open Scanner BlockComment
open LineCount (blockOpen blockClose inBlockAfter)

section Lines

variable {line : List Char}

/-- A line that starts with a block comment of stars alone, and has no end mark after it. -/
def Hollow (line : List Char) : Prop :=
  ∃ stars body, Chars.trim line = blockOpen ++ (List.replicate (stars + 1) '*' ++ '/' :: body) ∧
    Chars.contains body blockClose = false

/-- A line that starts with the mark of a comment of either kind. -/
def StartsComment (line : List Char) : Prop :=
  Chars.startsWith (Chars.trim line) blockOpen = true ∨
    LineCount.isLineComment (Chars.trim line) = true

instance (line : List Char) : Decidable (StartsComment line) :=
  inferInstanceAs (Decidable (_ ∨ _))

/-- The scanner looks for the end of a comment behind the stars after the opening mark. -/
private theorem classify_inBlock (inBlock : Bool) (line : List Char) :
    (classify inBlock line).2 = next (Chars.dropLeading '*') inBlock line := by
  unfold classify
  dsimp only
  cases inBlock with
  | true =>
    rw [if_pos rfl, next, if_pos rfl, Chars.contains, ← blockClose]
    cases Chars.cut? blockClose (Chars.trim line) <;> rfl
  | false =>
    rw [if_neg Bool.false_ne_true]
    split
    · rename_i empty
      rw [next_of_unopened]
      rw [opened?, List.isEmpty_iff.1 empty]
      rfl
    split
    · rename_i rest stripped
      rw [next_of_unopened]
      exact LineCount.strip?_blockOpen (by rw [Chars.strip?_eq_some stripped]; rfl)
    split
    · rename_i body opened
      rw [next_of_opened opened, Chars.contains, ← blockClose]
      cases Chars.cut? blockClose (Chars.dropLeading '*' body) <;> rfl
    · rename_i unopened
      rw [next_of_unopened unopened]
      split
      · rfl
      · split <;> rfl

/-- Outside block comments only a line that starts a comment is read as one. -/
private theorem startsComment_of_classify {text : List Char}
    (read : (classify false line).1 = .comment text) : StartsComment line := by
  unfold classify at read
  dsimp only at read
  rw [if_neg Bool.false_ne_true] at read
  unfold StartsComment LineCount.isLineComment
  split at read
  · cases read
  split at read
  · rename_i stripped
    simp [← Chars.isSome_strip?, stripped]
  split at read
  · rename_i opened
    simp [← Chars.isSome_strip?, blockOpen, opened]
  split at read
  · rename_i mark
    simp [(Bool.and_eq_true_iff.1 mark).1]
  split at read
  · rename_i stripped
    simp [← Chars.isSome_strip? ['-', '-'], stripped]
  · cases read

theorem contains_stars (stars : Nat) (rest : List Char) :
    Chars.contains (List.replicate (stars + 1) '*' ++ rest) blockClose =
      (Chars.startsWith rest ['/'] || Chars.contains rest blockClose) := by
  induction stars with
  | zero => simp [Chars.contains_cons, blockClose]
  | succ stars ih =>
    rw [List.replicate_succ, List.cons_append, Chars.contains_cons, ih, List.replicate_succ]
    simp [blockClose]

private theorem exists_stars (body : List Char) :
    ∃ stars, body = List.replicate stars '*' ++ Chars.dropLeading '*' body := by
  refine ⟨(body.takeWhile (· == '*')).length, ?_⟩
  have stars : ∀ c ∈ body.takeWhile (· == '*'), c = '*' := by
    intro c member
    simpa using List.mem_takeWhile_imp member
  rw [← List.eq_replicate_of_mem stars]
  exact List.takeWhile_append_dropWhile.symm

private theorem dropLeading_stars (stars : Nat) (body : List Char) :
    Chars.dropLeading '*' (List.replicate stars '*' ++ '/' :: body) = '/' :: body := by
  rw [Chars.dropLeading, List.dropWhile_append_of_pos (by simp)]
  rfl

/-- The scanner and the counter differ after a line outside comments exactly if it is hollow. -/
theorem differ_iff_hollow :
    next (Chars.dropLeading '*') false line ≠ next id false line ↔ Hollow line := by
  constructor
  · intro differ
    cases opened : opened? line with
    | none => exact absurd (by rw [next_of_unopened opened, next_of_unopened opened]) differ
    | some body =>
      rw [next_of_opened opened, next_of_opened opened, id] at differ
      obtain ⟨stars, written⟩ := exists_stars body
      cases stars with
      | zero => exact absurd (by rw [← show body = Chars.dropLeading '*' body from written]) differ
      | succ stars =>
        rw [written, contains_stars, ← written] at differ
        cases rest : Chars.dropLeading '*' body with
        | nil => simp [rest] at differ
        | cons c tail =>
          rw [rest] at differ written
          obtain ⟨unclosed, slash⟩ :
              Chars.contains (c :: tail) blockClose = false ∧ '/' = c := by
            simpa using differ
          subst slash
          refine ⟨stars, tail, ?_, contains_slash tail ▸ unclosed⟩
          rw [← written]
          exact opened?_eq_some_iff.1 opened
  · rintro ⟨stars, body, written, unclosed⟩
    have opened := opened?_eq_some_iff.2 written
    rw [next_of_opened opened, next_of_opened opened, id, dropLeading_stars, contains_stars,
      contains_slash, unclosed]
    simp

instance (line : List Char) : Decidable (Hollow line) := decidable_of_iff _ differ_iff_hollow

end Lines

namespace Scanner

variable {s s' : Scanner} {line : Nat} {tag rest text : List Char}

/-- What a line without tags leaves as it is: all that has been found so far. -/
structure Untagged (s s' : Scanner) : Prop where
  collected : s'.collected = s.collected
  arch : s'.tags.arch = s.tags.arch
  intents : s'.tags.intents = s.tags.intents
  errors : s'.tags.errors = s.tags.errors

theorem Closes.untagged {closed : Scanner} (closes : Closes s closed) : Untagged s closed where
  collected := by simp [collected, closes.pending, closes.tags]
  arch := by rw [closes.tags]
  intents := by rw [closes.tags]
  errors := by rw [closes.tags]

/-- Only comments are searched for tags. -/
theorem Steps.untagged (taken : Steps s line text s')
    (plain : ∀ body, (classify s.inBlock text).1 ≠ .comment body) : Untagged s s' := by
  cases taken with
  | field kind => exact absurd kind (plain _)
  | code kind closes =>
    obtain ⟨collected, arch, intents, errors⟩ := closes.untagged
    exact ⟨collected, arch, intents, errors⟩
  | blank kind closes => exact closes.untagged
  | comment kind => exact absurd kind (plain _)

end Scanner

section Runs

variable {lines : List (List Char)}

private theorem after_take_succ {k : Nat} {line : List Char} (here : lines[k]? = some line) :
    after (lines.take (k + 1)) = (after (lines.take k)).step (k + 1) line := by
  obtain ⟨inside, -⟩ := List.getElem?_eq_some_iff.1 here
  rw [List.take_add_one, here, Option.toList_some, after_concat, List.length_take,
    Nat.min_eq_left inside.le]

theorem inBlock_after (lines : List (List Char)) :
    (after lines).inBlock = openAfter (Chars.dropLeading '*') lines := by
  induction lines using List.reverseRecOn with
  | nil => rfl
  | append_singleton lines line ih =>
    rw [after_concat, inBlock_step, classify_inBlock, ih, openAfter, openAfter, List.foldl_append]
    rfl

end Runs

/-- The scanner and the line counter are in a block comment after the same lines up to the first hollow
line, and where they agree no tag is read on a line that is outside comments for the counter. -/
theorem comments_read_as_counted (content : String) :
    let lines := Chars.lines content.toList
    (∀ n, (∀ k ≤ n, (after (lines.take k)).inBlock = inBlockAfter (lines.take k)) ↔
      ∀ k < n, ∀ line ∈ lines[k]?, inBlockAfter (lines.take k) = false → ¬Hollow line) ∧
    ∀ k, ∀ line ∈ lines[k]?, (after (lines.take k)).inBlock = inBlockAfter (lines.take k) →
      inBlockAfter (lines.take k) = false → ¬StartsComment line →
        (∀ text, (classify (after (lines.take k)).inBlock line).1 ≠ .comment text) ∧
        Untagged (after (lines.take k)) (after (lines.take (k + 1))) := by
  intro lines
  refine ⟨fun n => ?_, fun k line here agree outside plain => ?_⟩
  · simp only [inBlock_after, LineCount.inBlockAfter_eq, ← differ_iff_hollow, not_not]
    exact agree_iff
  · have unread (text : List Char) :
        (classify (after (lines.take k)).inBlock line).1 ≠ .comment text := by
      rw [agree, outside]
      exact fun read => plain (startsComment_of_classify read)
    refine ⟨unread, ?_⟩
    rw [after_take_succ here]
    exact (steps (sound_after _).settled (k + 1) line).untagged unread

/-- After a header comment the code is not searched for tags. -/
theorem code_below_header_is_not_searched :
    let lines := Chars.lines "/**\n * @arch core\n */\nlog('@arch other');\n".toList
    (∀ k ≤ 4, (after (lines.take k)).inBlock = inBlockAfter (lines.take k)) ∧
      inBlockAfter (lines.take 2) = true ∧ inBlockAfter (lines.take 3) = false ∧
      Untagged (after (lines.take 3)) (after (lines.take 4)) := by
  intro lines
  obtain ⟨agree, untagged⟩ :=
    comments_read_as_counted "/**\n * @arch core\n */\nlog('@arch other');\n"
  have same := (agree 4).2 (by decide +kernel)
  have code := untagged 3 "log('@arch other');".toList (by decide +kernel) (same 3 (by decide))
    (by decide +kernel) (by decide +kernel)
  exact ⟨same, by decide +kernel, by decide +kernel, code.2⟩

/-- After a comment of two stars the code is searched for tags. -/
theorem code_below_empty_comment_is_searched :
    let content := "/**/\nlog('add @arch core to a file');\n"
    let lines := Chars.lines content.toList
    inBlockAfter (lines.take 1) = false ∧ (after (lines.take 1)).inBlock = true ∧
      lines[1]?.map (fun line => decide (StartsComment line)) = some false ∧
      LineCount.codeFlags false lines = [false, true] ∧
      (extract content).arch = some { id := "core", line := 2 } := by
  decide +kernel

end Conformance.TagScan
