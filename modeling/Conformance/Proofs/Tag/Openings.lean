import Conformance.Proofs.Source.BlockComments
import Conformance.Proofs.Tag.Steps
import Mathlib.Data.List.DropRight
import Mathlib.Data.List.Infix

/-! How a line that opens an override is written, said without the scanner. The marks at its start make a
line a comment, or a block comment that is open before it. In the text of a comment the tags stand one
behind the other, and an override is reached unless a tag before it ends the search or takes it for a
name. The scanner opens an override on a line exactly if it is written so. -/
namespace Conformance

namespace Chars

variable {s lead body behind word rest needle : List Char} {c : Char}

theorem contains_iff : contains s needle = true ↔ needle <:+: s := by
  induction s with
  | nil =>
    rw [List.infix_nil]
    by_cases empty : needle = [] <;> simp [contains, cut?, empty]
  | cons c s ih =>
    rw [contains_cons, List.infix_cons_iff, Bool.or_eq_true, ih, startsWith,
      List.isPrefixOf_iff_prefix]

theorem dropLeading_eq_iff :
    dropLeading c s = body ↔ ∃ n, s = List.replicate n c ++ body ∧ body.head? ≠ some c := by
  induction s with
  | nil =>
    constructor
    · rintro rfl
      exact ⟨0, rfl, nofun⟩
    · rintro ⟨n, written, -⟩
      exact (List.append_eq_nil_iff.1 written.symm).2.symm
  | cons d s ih =>
    by_cases same : d = c
    · subst same
      have dropped : dropLeading d (d :: s) = dropLeading d s := by simp [dropLeading]
      rw [dropped, ih]
      constructor
      · rintro ⟨n, rfl, stops⟩
        exact ⟨n + 1, rfl, stops⟩
      · rintro ⟨n, written, stops⟩
        cases n with
        | zero =>
          rw [List.replicate_zero, List.nil_append] at written
          exact absurd (by rw [← written]; rfl) stops
        | succ n => exact ⟨n, (List.cons.inj written).2, stops⟩
    · have kept : dropLeading c (d :: s) = d :: s := by simp [dropLeading, same]
      rw [kept]
      constructor
      · rintro rfl
        exact ⟨0, rfl, by simpa using same⟩
      · rintro ⟨n, written, -⟩
        cases n with
        | zero => exact written
        | succ n => exact absurd (List.cons.inj written).1 same

/-- Where a word ends: at a blank or at the end of the text. -/
def EndsWord (rest : List Char) : Prop := ∀ c ∈ rest.head?, isBlank c = true

instance : (rest : List Char) → Decidable (EndsWord rest)
  | [] => .isTrue nofun
  | c :: _ => decidable_of_iff (isBlank c = true) (by simp [EndsWord])

theorem spanToken_eq_iff : spanToken s = (word, rest) ↔
    s = word ++ rest ∧ (∀ c ∈ word, isBlank c = false) ∧ EndsWord rest := by
  constructor
  · intro read
    cases read
    refine ⟨List.takeWhile_append_dropWhile.symm, fun c => solid_of_mem_spanToken, fun c first => ?_⟩
    have stops := List.head?_dropWhile_not (fun c => !isBlank c) s
    rw [Option.mem_def.1 first] at stops
    simpa using stops
  · rintro ⟨rfl, solid, ends⟩
    have inWord : ∀ c ∈ word, (!isBlank c) = true := by simpa using solid
    rw [spanToken, List.takeWhile_append_of_pos inWord, List.dropWhile_append_of_pos inWord]
    cases rest with
    | nil => simp
    | cons c rest => simp [ends c rfl]

theorem spanToken_parts (s : List Char) : s = (spanToken s).1 ++ (spanToken s).2 ∧
    (∀ c ∈ (spanToken s).1, isBlank c = false) ∧ EndsWord (spanToken s).2 :=
  spanToken_eq_iff.1 rfl

private theorem trim_trimStart (s : List Char) : trim (trimStart s) = trim s :=
  congrArg trimEnd (List.dropWhile_idempotent _ s)

/-- Blanks at the end of a text are no part of its first word. -/
theorem spanToken_padded {after : List Char} (blank : ∀ c ∈ after, isBlank c = true)
    (s : List Char) : spanToken (s ++ after) = ((spanToken s).1, (spanToken s).2 ++ after) := by
  obtain ⟨written, solid, ends⟩ := spanToken_parts s
  refine spanToken_eq_iff.2 ⟨?_, solid, fun c first => ?_⟩
  · rw [← List.append_assoc, ← written]
  · cases rest : (spanToken s).2 with
    | nil =>
      rw [rest, List.nil_append] at first
      exact blank c (List.mem_of_mem_head? first)
    | cons d behind =>
      rw [rest] at first ends
      exact ends c first

theorem cut?_blockClose_iff : cut? LineCount.blockClose s = some (body, behind) ↔
    s = body ++ (LineCount.blockClose ++ behind) ∧ ¬LineCount.blockClose <:+: body := by
  constructor
  · intro cut
    induction s generalizing body with
    | nil => cases cut
    | cons c s ih =>
      rw [cut?] at cut
      split at cut
      · rename_i rest stripped
        cases cut
        have written := strip?_eq_some stripped
        exact ⟨written, by simp [LineCount.blockClose]⟩
      · rename_i missed
        obtain ⟨⟨before, rest⟩, found, same⟩ := Option.map_eq_some_iff.1 cut
        cases same
        obtain ⟨rfl, absent⟩ := ih found
        refine ⟨rfl, fun inside => ?_⟩
        rcases List.infix_cons_iff.1 inside with ⟨tail, start⟩ | later
        · rw [← List.cons_append, ← start, List.append_assoc, strip?_eq_some_iff.2 rfl] at missed
          cases missed
        · exact absent later
  · rintro ⟨rfl, absent⟩
    induction body with
    | nil => rfl
    | cons c body ih =>
      have missed : strip? LineCount.blockClose
          (c :: body ++ (LineCount.blockClose ++ behind)) = none := by
        rw [Option.eq_none_iff_forall_ne_some]
        intro rest stripped
        have written := strip?_eq_some stripped
        cases body with
        | nil => simp [LineCount.blockClose] at written
        | cons d body =>
          obtain ⟨rfl, rfl, -⟩ : '*' = c ∧ '/' = d ∧ True := by
            simp [LineCount.blockClose] at written
            exact ⟨written.1.symm, written.2.1.symm, trivial⟩
          exact absent ⟨[], body, rfl⟩
      have within := ih fun inside => absent (List.infix_cons_iff.2 (.inr inside))
      rw [List.cons_append] at missed ⊢
      rw [cut?, missed, within]
      rfl

end Chars

namespace TagScan

open LineCount (blockOpen blockClose)
open Scanner

section Forms

/-- A line is a comment with a text, by the mark that it starts with or because a block comment is open
before it. The last argument is whether one is open behind it. -/
inductive ReadsAs : Bool → List Char → List Char → Bool → Prop where
  | slashes {line body : List Char} {n : Nat}
    (written : Chars.trim line = List.replicate (n + 2) '/' ++ body) (stops : body.head? ≠ some '/') :
    ReadsAs false line (Chars.trim body) false
  | hashes {line body : List Char} {n : Nat}
    (written : Chars.trim line = List.replicate (n + 1) '#' ++ body) (stops : body.head? ≠ some '#')
    (noAttribute : n = 0 → body.head? ≠ some '[') : ReadsAs false line (Chars.trim body) false
  | dashes {line body : List Char} (written : Chars.trim line = '-' :: '-' :: body) :
    ReadsAs false line (Chars.trim body) false
  | oneLine {line body behind : List Char} {n : Nat}
    (written : Chars.trim line =
      blockOpen ++ (List.replicate n '*' ++ (body ++ (blockClose ++ behind))))
    (stops : (body ++ blockClose).head? ≠ some '*') (first : ¬blockClose <:+: body) :
    ReadsAs false line (Chars.trim body) false
  | opening {line body : List Char} {n : Nat}
    (written : Chars.trim line = blockOpen ++ (List.replicate n '*' ++ body))
    (stops : body.head? ≠ some '*') (unclosed : ¬blockClose <:+: body) :
    ReadsAs false line (Chars.trim body) true
  | closing {line body behind : List Char} {n : Nat}
    (written : Chars.trim line = List.replicate n '*' ++ body ++ (blockClose ++ behind))
    (stops : body.head? ≠ some '*') (first : ¬blockClose <:+: List.replicate n '*' ++ body) :
    ReadsAs true line (Chars.trim body) false
  | within {line body : List Char} {n : Nat} (written : Chars.trim line = List.replicate n '*' ++ body)
    (stops : body.head? ≠ some '*') (unclosed : ¬blockClose <:+: Chars.trim line) :
    ReadsAs true line (Chars.trim body) true

/-- Whether a block comment is open behind the lines of a text so far. -/
inductive BlockAfter : List (List Char) → Bool → Prop where
  | start : BlockAfter [] false
  | comment {lines : List (List Char)} {line text : List Char} {inBlock behind : Bool}
    (before : BlockAfter lines inBlock) (read : ReadsAs inBlock line text behind) :
    BlockAfter (lines ++ [line]) behind
  | plain {lines : List (List Char)} {line : List Char} {inBlock : Bool}
    (before : BlockAfter lines inBlock) (other : ∀ text behind, ¬ReadsAs inBlock line text behind) :
    BlockAfter (lines ++ [line]) inBlock

/-- A rule and a value with the first colon between them, and blanks around them. -/
structure RuleAndValue (text rule value : List Char) : Prop where
  written : ∃ before behind, text = before ++ ':' :: behind ∧ ':' ∉ before ∧
    Chars.trim before = rule ∧ Chars.trim behind = value
  rule : rule ≠ []
  value : value ≠ []

/-- A text without blanks that is not empty. -/
structure Solid (word : List Char) : Prop where
  nonempty : word ≠ []
  solid : ∀ c ∈ word, Chars.isBlank c = false

theorem solid_iff {word : List Char} :
    Solid word ↔ word ≠ [] ∧ (word.all fun c => !Chars.isBlank c) = true := by
  constructor
  · intro ⟨nonempty, solid⟩
    exact ⟨nonempty, by simpa using solid⟩
  · intro ⟨nonempty, solid⟩
    exact ⟨nonempty, by simpa using solid⟩

instance (word : List Char) : Decidable (Solid word) := decidable_of_iff' _ solid_iff

/-- The words of tags that are not just passed over. -/
def tagWords : List String :=
  ["override", "arch", "intent", "reason", "expires", "ticket", "approved_by", "approved-by",
    "approvedBy"]

/-- A comment holds an override with a rule and a value: it stands behind nothing but tags of other
words, and tags that take one word for a name. -/
inductive HoldsOverride : (text rule value : List Char) → Prop where
  | here {text lead rest rule value : List Char}
    (written : text = lead ++ '@' :: ("override".toList ++ rest)) (noTag : '@' ∉ lead)
    (ends : Chars.EndsWord rest) (formed : RuleAndValue rest rule value) :
    HoldsOverride text rule value
  | past {text lead word rest rule value : List Char} (written : text = lead ++ '@' :: (word ++ rest))
    (noTag : '@' ∉ lead) (solid : Solid word) (ends : Chars.EndsWord rest)
    (other : String.ofList word ∉ tagWords) (onward : HoldsOverride rest rule value) :
    HoldsOverride text rule value
  | named {text lead word gap name rest rule value : List Char}
    (written : text = lead ++ '@' :: (word ++ (gap ++ (name ++ rest)))) (noTag : '@' ∉ lead)
    (takes : String.ofList word = "arch" ∨ String.ofList word = "intent") (gapped : gap ≠ [])
    (blank : ∀ c ∈ gap, Chars.isBlank c = true) (solid : Solid name) (ends : Chars.EndsWord rest)
    (onward : HoldsOverride rest rule value) : HoldsOverride text rule value

/-- A line behind others opens an override: it is a comment that holds one. -/
def OpensOverride (before : List (List Char)) (line rule value : List Char) : Prop :=
  ∃ inBlock text behind, BlockAfter before inBlock ∧ ReadsAs inBlock line text behind ∧
    HoldsOverride text rule value

end Forms

section Comments

variable {inBlock behind : Bool} {line text : List Char}

theorem unclosed_of_cut? {s : List Char} (cut : Chars.cut? blockClose s = none) :
    ¬blockClose <:+: s := by
  intro inside
  rw [← Chars.contains_iff, Chars.contains, cut] at inside
  cases inside

theorem cut?_of_unclosed {s : List Char} (unclosed : ¬blockClose <:+: s) :
    Chars.cut? blockClose s = none := by
  rw [← Chars.contains_iff, Chars.contains] at unclosed
  simpa using unclosed

theorem readsAs_of_classify (read : classify inBlock line = (.comment text, behind)) :
    ReadsAs inBlock line text behind := by
  have stars (s : List Char) := Chars.dropLeading_eq_iff.1 (rfl : Chars.dropLeading '*' s = _)
  unfold classify at read
  dsimp only at read
  cases inBlock with
  | true =>
    rw [if_pos rfl, ← blockClose] at read
    split at read
    · rename_i body rest cut
      cases read
      obtain ⟨written, first⟩ := Chars.cut?_blockClose_iff.1 cut
      obtain ⟨n, starred, stops⟩ := stars body
      rw [starred] at written first
      exact .closing written stops first
    · rename_i cut
      cases read
      obtain ⟨n, starred, stops⟩ := stars (Chars.trim line)
      exact .within starred stops (unclosed_of_cut? cut)
  | false =>
    rw [if_neg Bool.false_ne_true] at read
    split at read
    · cases read
    split at read
    · rename_i rest stripped
      cases read
      have written := Chars.strip?_eq_some stripped
      obtain ⟨n, slashed, stops⟩ := Chars.dropLeading_eq_iff.1 (rfl : Chars.dropLeading '/' rest = _)
      rw [slashed] at written
      exact .slashes written stops
    split at read
    · rename_i rest stripped
      have written := Chars.strip?_eq_some stripped
      obtain ⟨n, starred, stops⟩ := stars rest
      rw [starred] at written
      rw [← blockClose] at read
      split at read
      · rename_i body after cut
        cases read
        obtain ⟨parts, first⟩ := Chars.cut?_blockClose_iff.1 cut
        rw [parts] at written stops
        refine .oneLine written ?_ first
        cases body with
        | nil => exact stops
        | cons => exact stops
      · rename_i cut
        cases read
        exact .opening written stops (unclosed_of_cut? cut)
    split at read
    · rename_i mark
      cases read
      rw [Bool.and_eq_true, Bool.not_eq_true'] at mark
      obtain ⟨first, second⟩ := mark
      obtain ⟨rest, written⟩ := List.isPrefixOf_iff_prefix.1 first
      obtain ⟨n, hashed, stops⟩ := Chars.dropLeading_eq_iff.1 (rfl : Chars.dropLeading '#' rest = _)
      have dropped : Chars.dropLeading '#' (Chars.trim line) = Chars.dropLeading '#' rest := by
        rw [← written]
        simp [Chars.dropLeading]
      rw [dropped]
      have whole : Chars.trim line =
          List.replicate (n + 1) '#' ++ Chars.dropLeading '#' rest :=
        written.symm.trans (congrArg ('#' :: ·) hashed)
      refine .hashes whole stops fun none bracket => ?_
      rw [none, List.replicate_zero, List.nil_append] at hashed
      rw [← hashed] at bracket
      obtain ⟨tail, rfl⟩ := List.head?_eq_some_iff.1 bracket
      rw [← written] at second
      simp at second
    split at read
    · rename_i stripped
      cases read
      exact .dashes (Chars.strip?_eq_some stripped)
    · cases read

/-- A comment that starts with the opening mark ends at the first closing one, if there is any. -/
private theorem classify_of_blockOpen {rest : List Char} {n : Nat}
    (written : Chars.trim line = blockOpen ++ (List.replicate n '*' ++ rest))
    (stops : rest.head? ≠ some '*') :
    classify false line = match Chars.cut? blockClose rest with
      | some (body, _) => (.comment (Chars.trim body), false)
      | none => (.comment (Chars.trim rest), true) := by
  have dropped : Chars.dropLeading '*' (List.replicate n '*' ++ rest) = rest :=
    Chars.dropLeading_eq_iff.2 ⟨n, rfl, stops⟩
  have stripped : Chars.strip? ['/', '*'] (Chars.trim line) =
      some (List.replicate n '*' ++ rest) := Chars.strip?_eq_some_iff.2 written
  have other : Chars.strip? ['/', '/'] (Chars.trim line) = none := by
    rw [written]
    rfl
  unfold classify
  dsimp only
  rw [if_neg Bool.false_ne_true, other, stripped, written]
  dsimp only
  rw [dropped]
  rfl

theorem classify_of_readsAs (reads : ReadsAs inBlock line text behind) :
    classify inBlock line = (.comment text, behind) := by
  cases reads with
  | slashes written stops =>
    rename_i body n
    have dropped : Chars.dropLeading '/' (List.replicate n '/' ++ body) = body :=
      Chars.dropLeading_eq_iff.2 ⟨n, rfl, stops⟩
    have stripped : Chars.strip? ['/', '/'] (Chars.trim line) =
        some (List.replicate n '/' ++ body) := Chars.strip?_eq_some_iff.2 written
    unfold classify
    dsimp only
    rw [if_neg Bool.false_ne_true, stripped, written]
    dsimp only
    rw [dropped]
    rfl
  | hashes written stops noAttribute =>
    rename_i body n
    have dropped : Chars.dropLeading '#' (Chars.trim line) = body :=
      Chars.dropLeading_eq_iff.2 ⟨n + 1, written, stops⟩
    have hash : (Chars.startsWith (Chars.trim line) ['#'] &&
        !Chars.startsWith (Chars.trim line) ['#', '[']) = true := by
      cases n with
      | zero =>
        cases body with
        | nil => rw [written]; rfl
        | cons c body => simpa [written] using (noAttribute rfl).symm
      | succ n => simp [written, List.replicate_succ]
    have other (c d : Char) (differ : c ≠ '#') : Chars.strip? [c, d] (Chars.trim line) = none := by
      rw [written, List.replicate_succ, List.cons_append, Chars.strip?, if_neg differ]
    unfold classify
    dsimp only
    rw [if_neg Bool.false_ne_true, other '/' '/' (by decide), other '/' '*' (by decide)]
    dsimp only
    rw [hash, if_pos rfl, dropped, written]
    rfl
  | dashes written =>
    rw [classify, written]
    rfl
  | oneLine written stops first =>
    rename_i body rest n
    have here : (body ++ (blockClose ++ rest)).head? ≠ some '*' := by
      cases body with
      | nil => exact stops
      | cons => exact stops
    rw [classify_of_blockOpen written here, Chars.cut?_blockClose_iff.2 ⟨rfl, first⟩]
  | opening written stops unclosed =>
    rw [classify_of_blockOpen written stops, cut?_of_unclosed unclosed]
  | closing written stops first =>
    rename_i body rest n
    have dropped : Chars.dropLeading '*' (List.replicate n '*' ++ body) = body :=
      Chars.dropLeading_eq_iff.2 ⟨n, rfl, stops⟩
    rw [classify, if_pos rfl, ← blockClose, Chars.cut?_blockClose_iff.2 ⟨written, first⟩]
    dsimp only
    rw [dropped]
  | within written stops unclosed =>
    rename_i body n
    rw [classify, if_pos rfl, ← blockClose, cut?_of_unclosed unclosed]
    dsimp only
    rw [Chars.dropLeading_eq_iff.2 ⟨n, written, stops⟩]

theorem classify_eq_comment_iff :
    classify inBlock line = (.comment text, behind) ↔ ReadsAs inBlock line text behind :=
  ⟨readsAs_of_classify, classify_of_readsAs⟩

/-- A line that is no comment opens none and closes none. -/
theorem classify_of_plain (other : ∀ text behind, ¬ReadsAs inBlock line text behind) :
    (classify inBlock line).2 = inBlock := by
  have plain (text : List Char) (behind : Bool) :
      classify inBlock line ≠ (.comment text, behind) :=
    fun read => other text behind (readsAs_of_classify read)
  unfold classify at plain ⊢
  dsimp only at plain ⊢
  cases inBlock with
  | true =>
    rw [if_pos rfl] at plain ⊢
    cases cut : Chars.cut? ['*', '/'] (Chars.trim line) with
    | none => rfl
    | some parts =>
      rw [cut] at plain
      exact absurd rfl (plain _ _)
  | false =>
    rw [if_neg Bool.false_ne_true] at plain ⊢
    split
    · rfl
    rename_i given
    rw [if_neg given] at plain
    split
    · rfl
    rename_i slashes
    rw [slashes] at plain
    dsimp only at plain
    split
    · rename_i rest opened
      rw [opened] at plain
      dsimp only at plain
      split
      · rfl
      · rename_i cut
        rw [cut] at plain
        exact absurd rfl (plain _ _)
    · split
      · rfl
      · split <;> rfl

end Comments

section Tags

variable {text tag word lead rest after rule value : List Char}

theorem fromAt_of_mem (noTag : '@' ∉ lead) : fromAt (lead ++ '@' :: rest) = '@' :: rest := by
  have passed : ∀ c ∈ lead, (c != '@') = true := by
    intro c member
    exact bne_iff_ne.2 fun same => noTag (same ▸ member)
  rw [fromAt, List.dropWhile_append_of_pos passed]
  rfl

theorem fromAt_of_not_mem (noTag : '@' ∉ text) : fromAt text = [] := by
  refine List.dropWhile_eq_nil_iff.2 fun c member => ?_
  exact bne_iff_ne.2 fun same => noTag (same ▸ member)

/-- The first tag of a text is a word right behind the first at sign. -/
theorem splitTag?_fromAt_eq_some_iff : splitTag? (fromAt text) = some (word, rest) ↔
    ∃ lead after, text = lead ++ '@' :: (word ++ after) ∧ '@' ∉ lead ∧ Solid word ∧
      Chars.EndsWord after ∧ rest = Chars.trim after := by
  constructor
  · intro read
    by_cases tagged : '@' ∈ text
    · obtain ⟨lead, body, rfl, noTag⟩ := List.eq_append_cons_of_mem tagged
      rw [fromAt_of_mem noTag] at read
      obtain ⟨_, start, given, rfl, rfl⟩ := splitTag?_eq_some read
      rw [Chars.trimStart_cons rfl] at start
      cases start
      obtain ⟨written, solid, ends⟩ := Chars.spanToken_parts body
      exact ⟨lead, _, by rw [← written], noTag, ⟨given, solid⟩, ends, rfl⟩
    · rw [fromAt_of_not_mem tagged] at read
      cases read
  · rintro ⟨lead, after, rfl, noTag, solid, ends, rfl⟩
    have span := Chars.spanToken_eq_iff.2 ⟨rfl, solid.solid, ends⟩
    rw [fromAt_of_mem noTag, splitTag?, Chars.trimStart_cons rfl]
    simp [span, solid.nonempty]

/-- Blanks around a text do not matter for its first tag. -/
theorem splitTag?_fromAt_trim (text : List Char) :
    splitTag? (fromAt (Chars.trim text)) = splitTag? (fromAt text) := by
  obtain ⟨before, after, written, leading, trailing⟩ := Chars.exists_trim text
  generalize Chars.trim text = s at written
  subst written
  have beforeTag : '@' ∉ before := Chars.not_mem_of_blank leading rfl
  have afterTag : '@' ∉ after := Chars.not_mem_of_blank trailing rfl
  by_cases tagged : '@' ∈ s
  · obtain ⟨lead, body, rfl, noTag⟩ := List.eq_append_cons_of_mem tagged
    have whole : before ++ (lead ++ '@' :: body) ++ after =
        before ++ lead ++ '@' :: (body ++ after) := by
      simp
    have none : '@' ∉ before ++ lead := List.not_mem_append beforeTag noTag
    have padded : Chars.trim ((Chars.spanToken body).2 ++ after) = Chars.trim (Chars.spanToken body).2 :=
      Chars.trim_append_blank trailing _
    rw [whole, fromAt_of_mem noTag, fromAt_of_mem none, splitTag?, splitTag?,
      Chars.trimStart_cons rfl, Chars.trimStart_cons rfl]
    simp [Chars.spanToken_padded trailing, padded]
  · have none : '@' ∉ before ++ s ++ after :=
      List.not_mem_append (List.not_mem_append beforeTag tagged) afterTag
    rw [fromAt_of_not_mem tagged, fromAt_of_not_mem none]

private theorem tagsIn_trim (text : List Char) : tagsIn (Chars.trim text) = tagsIn text := by
  cases read : splitTag? (fromAt text) with
  | none => rw [tagsIn_of_none read, tagsIn_of_none ((splitTag?_fromAt_trim text).trans read)]
  | some tag => rw [tagsIn_of_some read, tagsIn_of_some ((splitTag?_fromAt_trim text).trans read)]

theorem openedIn?_trim (text : List Char) : openedIn? (Chars.trim text) = openedIn? text := by
  rw [openedIn?, openedIn?, tagsIn_trim]

/-- Nothing is read behind the tag of a field. -/
theorem afterTag_of_field (field : isField (String.ofList word) = true) : afterTag word rest = [] := by
  have other (name : String) (none : isField name = false) : (String.ofList word == name) = false := by
    refine beq_eq_false_iff_ne.2 fun same => ?_
    rw [same, none] at field
    cases field
  rw [afterTag, applyTag]
  simp [other "arch" (by decide), other "override" (by decide), field]

/-- A tag with a name ends behind the name. -/
theorem afterTag_of_named (takes : String.ofList word = "arch" ∨ String.ofList word = "intent") :
    afterTag word rest = (firstToken rest).2 := by
  rcases takes with arch | intent
  · rw [afterTag, applyTag, arch]
    exact archTag_snd {} 0 rest
  · rw [afterTag, applyTag, intent]
    rfl

/-- Other tags end behind their word. -/
theorem afterTag_of_other (other : String.ofList word ∉ tagWords) : afterTag word rest = rest := by
  have unlike (name : String) (listed : name ∈ tagWords) : (String.ofList word == name) = false :=
    beq_eq_false_iff_ne.2 fun same => other (same ▸ listed)
  have field : isField (String.ofList word) = false := by
    refine Bool.eq_false_iff.2 fun field => other ?_
    exact List.mem_of_mem_drop (i := 3) (List.contains_iff_mem.1 field)
  rw [afterTag, applyTag]
  simp only [unlike "arch" (by decide), unlike "override" (by decide), field,
    unlike "intent" (by decide)]
  cases Chars.strip? "intent:".toList word <;> rfl

theorem ruleValue?_eq_some_iff :
    ruleValue? rest = some (rule, value) ↔ RuleAndValue rest rule value := by
  constructor
  · intro read
    obtain ⟨given, -, -, givenToo, -⟩ := ruleValue?_eq_some read
    refine ⟨?_, given, givenToo⟩
    unfold ruleValue? at read
    split at read
    · rename_i before behind cut
      dsimp only at read
      split at read
      · cases read
      · cases read
        obtain ⟨written, absent⟩ := Chars.cut?_eq_some cut
        exact ⟨before, behind, written, absent, rfl, rfl⟩
    · cases read
  · rintro ⟨⟨before, behind, rfl, absent, rfl, rfl⟩, given, givenToo⟩
    rw [ruleValue?, Chars.cut?_append absent]
    simp [given, givenToo]

/-- Blanks around a rule and a value do not matter. -/
theorem ruleAndValue_trim_iff :
    RuleAndValue (Chars.trim rest) rule value ↔ RuleAndValue rest rule value := by
  obtain ⟨lead, tail, written, leading, trailing⟩ := Chars.exists_trim rest
  generalize Chars.trim rest = s at written
  subst written
  have before := Chars.trim_blank_append leading
  have behind := Chars.trim_append_blank trailing
  have leadColon : ':' ∉ lead := Chars.not_mem_of_blank leading rfl
  have tailColon : ':' ∉ tail := Chars.not_mem_of_blank trailing rfl
  constructor
  · rintro ⟨⟨first, second, rfl, absent, rfl, rfl⟩, given, givenToo⟩
    refine ⟨⟨lead ++ first, second ++ tail, by simp, ?_, before first, behind second⟩, given, givenToo⟩
    exact List.not_mem_append leadColon absent
  · rintro ⟨⟨first, second, parts, absent, rfl, rfl⟩, given, givenToo⟩
    have colon : ':' ∈ s := by
      have member : ':' ∈ lead ++ s ++ tail := by simp [parts]
      simpa [leadColon, tailColon] using member
    obtain ⟨start, rest, rfl, none⟩ := List.eq_append_cons_of_mem colon
    have moved : lead ++ (start ++ ':' :: rest) ++ tail = lead ++ start ++ ':' :: (rest ++ tail) := by
      simp
    rw [moved] at parts
    obtain rfl := Chars.eq_of_append_eq (List.not_mem_append leadColon none) absent parts
    obtain rfl := (List.cons.inj (List.append_cancel_left parts)).2
    rw [before] at given ⊢
    rw [behind] at givenToo ⊢
    exact ⟨⟨start, rest, rfl, none, rfl, rfl⟩, given, givenToo⟩

/-- The word behind a tag, and what is read on from there. -/
theorem openedIn?_firstToken {after name behind : List Char}
    (span : Chars.spanToken (Chars.trimStart after) = (name, behind)) :
    openedIn? (firstToken (Chars.trim after)).2 = openedIn? behind := by
  obtain ⟨tail, written, blank⟩ := Chars.exists_trimStart after
  have trimmed : Chars.trimStart (Chars.trim after) = Chars.trim after :=
    Chars.trimStart_eq_self (Chars.trim_trim after)
  rw [written, Chars.spanToken_padded blank] at span
  cases span
  have tailed : Chars.trim ((Chars.spanToken (Chars.trim after)).2 ++ tail) =
      Chars.trim (Chars.spanToken (Chars.trim after)).2 :=
    Chars.trim_append_blank blank _
  calc openedIn? (firstToken (Chars.trim after)).2
    _ = openedIn? (Chars.trimStart (Chars.spanToken (Chars.trim after)).2) := by
      rw [firstToken, trimmed]
    _ = openedIn? (Chars.spanToken (Chars.trim after)).2 := by
      rw [← openedIn?_trim, Chars.trim_trimStart, openedIn?_trim]
    _ = openedIn? ((Chars.spanToken (Chars.trim after)).2 ++ tail) := by
      rw [← openedIn?_trim (_ ++ tail), tailed, openedIn?_trim]

theorem openedIn?_nil : openedIn? [] = none := by
  rw [openedIn?, tagsIn_of_none rfl]
  rfl

/-- No text starts at a blank once those at its start are trimmed away. -/
theorem eq_nil_of_endsWord (ends : Chars.EndsWord (Chars.trimStart after)) :
    Chars.trimStart after = [] := by
  have first := List.head?_dropWhile_not Chars.isBlank after
  rw [← Chars.trimStart] at first
  cases start : Chars.trimStart after with
  | nil => rfl
  | cons c rest =>
    rw [start] at first ends
    exact absurd (ends c rfl) (by simpa using first)

/-- What a tag with a name leaves to be read is behind a gap and the name. -/
private theorem exists_name (ends : Chars.EndsWord after)
    (opened : openedIn? (firstToken (Chars.trim after)).2 = some (rule, value)) :
    ∃ gap name behind, after = gap ++ (name ++ behind) ∧ gap ≠ [] ∧
      (∀ c ∈ gap, Chars.isBlank c = true) ∧ Solid name ∧ Chars.EndsWord behind ∧
        openedIn? behind = some (rule, value) := by
  obtain ⟨written, solid, stops⟩ := Chars.spanToken_parts (Chars.trimStart after)
  rw [openedIn?_firstToken rfl] at opened
  have some : Chars.trimStart after ≠ [] := by
    intro empty
    rw [empty] at opened
    cases openedIn?_nil.symm.trans opened
  have whole : after = after.takeWhile Chars.isBlank ++ Chars.trimStart after :=
    List.takeWhile_append_dropWhile.symm
  refine ⟨after.takeWhile Chars.isBlank, _, _, ?_, fun empty => some ?_,
    fun c => List.mem_takeWhile_imp, ⟨fun empty => some ?_, solid⟩, stops, opened⟩
  · rw [← written]
    exact whole
  · rw [empty, List.nil_append] at whole
    exact eq_nil_of_endsWord (whole ▸ ends)
  · rw [empty, List.nil_append] at written
    exact eq_nil_of_endsWord (written.symm ▸ stops)

theorem holds_of_openedIn? (opened : openedIn? text = some (rule, value)) :
    HoldsOverride text rule value := by
  induction size : text.length using Nat.strong_induction_on generalizing text with
  | _ size ih =>
    subst size
    cases read : splitTag? (fromAt text) with
    | none =>
      rw [openedIn?, tagsIn_of_none read] at opened
      cases opened
    | some tag =>
      obtain ⟨word, rest⟩ := tag
      rw [openedIn?_of_read read] at opened
      obtain ⟨lead, after, rfl, noTag, solid, ends, rfl⟩ := splitTag?_fromAt_eq_some_iff.1 read
      by_cases override : String.ofList word = "override"
      · rw [if_pos override, ruleValue?_eq_some_iff, ruleAndValue_trim_iff] at opened
        obtain rfl : word = "override".toList := by rw [← override, String.toList_ofList]
        exact .here rfl noTag ends opened
      · rw [if_neg override] at opened
        by_cases takes : String.ofList word = "arch" ∨ String.ofList word = "intent"
        · rw [afterTag_of_named takes] at opened
          obtain ⟨gap, name, behind, rfl, gapped, blank, named, stops, opened⟩ := exists_name ends opened
          refine .named rfl noTag takes gapped blank named stops (ih _ ?_ opened rfl)
          simp only [List.length_append, List.length_cons]
          omega
        · by_cases field : isField (String.ofList word) = true
          · rw [afterTag_of_field field] at opened
            cases openedIn?_nil.symm.trans opened
          · obtain ⟨arch, intent⟩ := not_or.1 takes
            have other : String.ofList word ∉ tagWords := by
              simpa [tagWords, isField, override, arch, intent] using field
            rw [afterTag_of_other other, openedIn?_trim] at opened
            refine .past rfl noTag solid ends other (ih _ ?_ opened rfl)
            simp only [List.length_append, List.length_cons]
            omega

/-- No word of a tag has a blank. -/
private theorem solid_of_mem_tagWords {word : List Char} (member : String.ofList word ∈ tagWords) :
    Solid word := by
  have all : ∀ name ∈ tagWords, Solid name.toList := by decide
  have solid := all (String.ofList word) member
  rwa [String.toList_ofList] at solid

theorem openedIn?_of_holds (holds : HoldsOverride text rule value) :
    openedIn? text = some (rule, value) := by
  induction holds with
  | here written noTag ends formed =>
    have own : Solid "override".toList := solid_of_mem_tagWords (by decide)
    have read := splitTag?_fromAt_eq_some_iff.2 ⟨_, _, written, noTag, own, ends, rfl⟩
    rw [openedIn?_of_read read, if_pos (String.ofList_toList ..), ruleValue?_eq_some_iff,
      ruleAndValue_trim_iff]
    exact formed
  | @past text lead word rest rule value written noTag solid ends other onward ih =>
    have read := splitTag?_fromAt_eq_some_iff.2 ⟨_, _, written, noTag, solid, ends, rfl⟩
    have unlike : String.ofList word ≠ "override" := fun same => other (same ▸ List.mem_cons_self)
    rw [openedIn?_of_read read, if_neg unlike, afterTag_of_other other, openedIn?_trim]
    exact ih
  | @named text lead word gap name rest rule value written noTag takes gapped blank solid ends _ ih =>
    have unlike : String.ofList word ≠ "override" := by
      intro same
      rw [same] at takes
      exact absurd takes (by decide)
    have own : Solid word := by
      apply solid_of_mem_tagWords
      rcases takes with arch | intent
      · simp [tagWords, arch]
      · simp [tagWords, intent]
    have gapEnds : Chars.EndsWord (gap ++ (name ++ rest)) := by
      obtain ⟨c, gap, rfl⟩ := List.exists_cons_of_ne_nil gapped
      intro d first
      cases first
      exact blank c List.mem_cons_self
    have start : Chars.trimStart (gap ++ (name ++ rest)) = name ++ rest := by
      rw [Chars.trimStart, List.dropWhile_append_of_pos blank]
      obtain ⟨c, name, rfl⟩ := List.exists_cons_of_ne_nil solid.nonempty
      exact Chars.trimStart_cons (solid.solid c List.mem_cons_self) _
    have span := Chars.spanToken_eq_iff.2 ⟨rfl, solid.solid, ends⟩
    rw [← start] at span
    have read := splitTag?_fromAt_eq_some_iff.2 ⟨_, _, written, noTag, own, gapEnds, rfl⟩
    rw [openedIn?_of_read read, if_neg unlike, afterTag_of_named takes, openedIn?_firstToken span]
    exact ih

end Tags

namespace Scanner

section Lines

variable {s : Scanner} {line : Nat} {tag rest text rule value : List Char}

/-- A field line holds no override: nothing is read behind its tag. -/
private theorem openedIn?_of_field {filled : Scanner} (read : s.field? line text = some filled) :
    openedIn? text = none := by
  unfold field? at read
  split at read
  · rename_i word rest pending found _
    dsimp only at read
    split at read
    · rename_i field
      obtain ⟨body, start, given, rfl, rfl⟩ := splitTag?_eq_some found
      obtain ⟨written, solid, ends⟩ := Chars.spanToken_parts body
      have whole : text = text.takeWhile Chars.isBlank ++
          '@' :: ((Chars.spanToken body).1 ++ (Chars.spanToken body).2) := by
        rw [← written, ← start]
        exact List.takeWhile_append_dropWhile.symm
      have noTag : '@' ∉ text.takeWhile Chars.isBlank :=
        Chars.not_mem_of_blank (fun c => List.mem_takeWhile_imp) rfl
      have first := splitTag?_fromAt_eq_some_iff.2 ⟨_, _, whole, noTag, ⟨given, solid⟩, ends, rfl⟩
      have other : String.ofList (Chars.spanToken body).1 ≠ "override" := by
        intro same
        rw [same] at field
        cases field
      rw [openedIn?_of_read first, if_neg other, afterTag_of_field field, openedIn?_nil]
    · cases read
  · cases read

/-- A line opens the override that it holds as a comment. -/
theorem openedBy?_eq_some_iff : s.openedBy? line text = some (rule, value) ↔
    ∃ body behind, ReadsAs s.inBlock text body behind ∧ HoldsOverride body rule value := by
  have holds (body : List Char) :
      openedIn? body = some (rule, value) ↔ HoldsOverride body rule value :=
    ⟨holds_of_openedIn?, openedIn?_of_holds⟩
  unfold openedBy?
  cases read : classify s.inBlock text with
  | mk kind behind =>
    constructor
    · intro opened
      cases kind with
      | blank => cases opened
      | code => cases opened
      | comment body =>
        dsimp only at opened
        split at opened
        · cases opened
        · exact ⟨body, behind, classify_eq_comment_iff.1 read, (holds body).1 opened⟩
    · rintro ⟨body, behind', reads, held⟩
      cases read.symm.trans (classify_eq_comment_iff.2 reads)
      dsimp only
      rw [if_neg, (holds body).2 held]
      rintro ⟨-, field⟩
      obtain ⟨filled, field⟩ := Option.isSome_iff_exists.1 field
      cases (openedIn?_of_field field).symm.trans ((holds body).2 held)

private theorem inBlock_archTag (s : Scanner) (line : Nat) (rest : List Char) :
    (s.archTag line rest).1.inBlock = s.inBlock := by
  unfold archTag
  dsimp only
  split
  · rfl
  · split <;> rfl

theorem inBlock_addIntent (s : Scanner) (line : Nat) (name : List Char) :
    (s.addIntent line name).inBlock = s.inBlock := by
  unfold addIntent
  split <;> rfl

private theorem inBlock_overrideTag (s : Scanner) (line : Nat) (rest : List Char) :
    (s.overrideTag line rest).inBlock = s.inBlock := by
  unfold overrideTag
  dsimp only
  split <;> rfl

theorem Applies.inBlock {result : Scanner × List Char} (taken : Applies s line tag rest result) :
    result.1.inBlock = s.inBlock := by
  cases taken with
  | arch => exact inBlock_archTag s line rest
  | override => exact inBlock_overrideTag s line rest
  | strayField => rfl
  | intent => exact inBlock_addIntent s line _
  | inlineIntent => exact inBlock_addIntent s line _
  | other => rfl

theorem inBlock_comment (fuel : Nat) (s : Scanner) (line : Nat) (text : List Char) :
    (comment fuel s line text).inBlock = s.inBlock := by
  induction fuel generalizing s text with
  | zero => rfl
  | succ fuel ih =>
    rw [comment]
    split
    · exact (ih _ _).trans (applies s line _ _).inBlock
    · rfl

private theorem inBlock_field? {filled : Scanner} (read : s.field? line text = some filled) :
    filled.inBlock = s.inBlock := by
  obtain ⟨field, rfl⟩ | ⟨pending, field, value, -, -, -, rfl⟩ := field?_cases read <;> rfl

/-- Whether a block comment is open after a line is decided when the line is classified. -/
theorem inBlock_step (s : Scanner) (line : Nat) (text : List Char) :
    (s.step line text).inBlock = (classify s.inBlock text).2 := by
  unfold step
  cases classify s.inBlock text with
  | mk kind inBlock =>
    cases kind with
    | code => rfl
    | blank =>
      dsimp only
      split <;> rfl
    | comment body =>
      dsimp only
      split
      · split
        · rename_i read
          exact inBlock_field? read
        · refine (inBlock_comment _ _ line body).trans ?_
          split <;> rfl
      · refine (inBlock_comment _ _ line body).trans ?_
        split <;> rfl

end Lines

end Scanner

end TagScan

end Conformance
