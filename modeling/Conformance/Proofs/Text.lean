import Conformance.Text.Basic
import Mathlib.Data.List.Basic
import Mathlib.Data.List.TakeWhile

/-! What trimming, cutting and splitting do to a text put together from pieces. -/
namespace Conformance

namespace Chars

theorem trimStart_eq_self {s : List Char} (same : trim s = s) : trimStart s = s := by
  have suffix : trimStart s <:+ s := List.dropWhile_suffix isBlank
  have shorter : (trim s).length ≤ (trimStart s).length := by
    have dropped := (List.dropWhile_suffix isBlank (l := (trimStart s).reverse)).length_le
    simpa only [trim, trimEnd, List.length_reverse] using dropped
  rw [same] at shorter
  exact suffix.eq_of_length_le shorter

theorem trimEnd_eq_self {s : List Char} (same : trim s = s) : trimEnd s = s := by
  rw [← trimStart_eq_self same, ← trim.eq_def, same, trimStart_eq_self same]

theorem trimStart_append {s : List Char} (nonempty : s ≠ []) (same : trimStart s = s)
    (rest : List Char) : trimStart (s ++ rest) = s ++ rest := by
  rw [trimStart] at same
  rw [trimStart, List.dropWhile_append, same, if_neg (by simpa using nonempty)]

theorem trimEnd_append {s : List Char} (nonempty : s ≠ []) (same : trimEnd s = s)
    (lead : List Char) : trimEnd (lead ++ s) = lead ++ s := by
  have reversed : trimStart s.reverse = s.reverse := by
    rw [← List.reverse_reverse (trimStart s.reverse)]
    exact congrArg List.reverse same
  rw [trimEnd, List.reverse_append]
  rw [← trimStart.eq_def, trimStart_append (by simpa using nonempty) reversed]
  simp

theorem trimStart_cons {c : Char} (solid : isBlank c = false) (s : List Char) :
    trimStart (c :: s) = c :: s :=
  List.dropWhile_cons_of_neg (by simp [solid])

theorem trim_cons_of_blank {c : Char} (blank : isBlank c = true) (s : List Char) :
    trim (c :: s) = trim s := by
  rw [trim, trimStart, List.dropWhile_cons_of_pos blank, ← trimStart.eq_def, ← trim.eq_def]

theorem isEmpty_trim_iff {s : List Char} :
    (trim s).isEmpty = true ↔ ∀ c ∈ s, isBlank c = true := by
  have solid : trimStart s = [] ↔ ∀ c ∈ trimStart s, isBlank c = true := by
    refine ⟨fun empty => by simp [empty], fun blank => ?_⟩
    by_contra nonempty
    have first := List.head_dropWhile_not isBlank nonempty
    exact Bool.false_ne_true (first.symm.trans (blank _ (List.head_mem nonempty)))
  rw [List.isEmpty_iff, trim, trimEnd, List.reverse_eq_nil_iff, List.dropWhile_eq_nil_iff]
  simp only [List.mem_reverse]
  rw [← solid, trimStart, List.dropWhile_eq_nil_iff]

/-- Blanks around a text are trimmed away with those of the text itself. -/
theorem trim_padded {before after : List Char} (leading : ∀ c ∈ before, isBlank c = true)
    (trailing : ∀ c ∈ after, isBlank c = true) (s : List Char) :
    trim (before ++ s ++ after) = trim s := by
  have reversed : ∀ c ∈ after.reverse, isBlank c = true := by simpa using trailing
  rw [trim, trimStart, List.append_assoc, List.dropWhile_append_of_pos leading,
    List.dropWhile_append]
  split
  · rename_i nothing
    have empty : trimStart s = [] := List.isEmpty_iff.1 nothing
    rw [List.dropWhile_eq_nil_iff.2 trailing, trim, empty]
  · rw [trimEnd, List.reverse_append, List.dropWhile_append_of_pos reversed]
    rfl

theorem trim_blank_append {before : List Char} (blank : ∀ c ∈ before, isBlank c = true)
    (s : List Char) : trim (before ++ s) = trim s := by
  simpa using trim_padded blank (List.forall_mem_nil _) s

theorem trim_append_blank {after : List Char} (blank : ∀ c ∈ after, isBlank c = true)
    (s : List Char) : trim (s ++ after) = trim s := by
  simpa using trim_padded (List.forall_mem_nil _) blank s

/-- Blanks have nothing else among them. -/
theorem not_mem_of_blank {blanks : List Char} (blank : ∀ c ∈ blanks, isBlank c = true) {c : Char}
    (solid : isBlank c = false) : c ∉ blanks := by
  intro member
  exact Bool.false_ne_true (solid.symm.trans (blank c member))

/-- Only blanks around a text are trimmed away. -/
theorem exists_trim (s : List Char) : ∃ before after, s = before ++ trim s ++ after ∧
    (∀ c ∈ before, isBlank c = true) ∧ ∀ c ∈ after, isBlank c = true := by
  refine ⟨s.takeWhile isBlank, ((trimStart s).reverse.takeWhile isBlank).reverse, ?_,
    fun c member => List.mem_takeWhile_imp member,
    fun c member => List.mem_takeWhile_imp (List.mem_reverse.1 member)⟩
  rw [List.append_assoc, trim, trimEnd, ← List.reverse_append, List.takeWhile_append_dropWhile,
    List.reverse_reverse, trimStart, List.takeWhile_append_dropWhile]

theorem trim_trim (s : List Char) : trim (trim s) = trim s := by
  obtain ⟨before, after, split, leading, trailing⟩ := exists_trim s
  calc trim (trim s)
    _ = trim (before ++ trim s ++ after) := (trim_padded leading trailing (trim s)).symm
    _ = trim s := by rw [← split]

theorem length_trim_le (s : List Char) : (trim s).length ≤ s.length := by
  obtain ⟨before, after, split, -, -⟩ := exists_trim s
  have length := congrArg List.length split
  simp only [List.length_append] at length
  omega

theorem solid_of_mem_spanToken {s : List Char} {c : Char} (member : c ∈ (spanToken s).1) :
    isBlank c = false := by
  simpa using List.mem_takeWhile_imp member

theorem spanToken_append {word : List Char} (solid : word.any isBlank = false)
    {c : Char} (blank : isBlank c = true) (rest : List Char) :
    spanToken (word ++ c :: rest) = (word, c :: rest) := by
  have inWord : ∀ c ∈ word, (!isBlank c) = true := by simpa using solid
  rw [spanToken, List.takeWhile_append_of_pos inWord, List.dropWhile_append_of_pos inWord]
  simp [blank]

theorem strip?_eq_some {lead s rest : List Char} (stripped : strip? lead s = some rest) :
    s = lead ++ rest := by
  induction lead generalizing s with
  | nil => exact Option.some.inj stripped
  | cons d lead ih =>
    cases s with
    | nil => cases stripped
    | cons c s =>
      rw [strip?] at stripped
      split at stripped
      · rename_i same
        rw [same, ih stripped, List.cons_append]
      · cases stripped

theorem cut?_append {sep : Char} {lead : List Char} (absent : sep ∉ lead) (rest : List Char) :
    cut? [sep] (lead ++ sep :: rest) = some (lead, rest) := by
  induction lead with
  | nil => simp [cut?, strip?]
  | cons c lead ih =>
    obtain ⟨other, absent⟩ := List.ne_and_not_mem_of_not_mem_cons absent
    simp [cut?, strip?, other, ih absent]

/-- Two texts with the same first copy of a mark agree before it. -/
theorem eq_of_append_eq {sep : Char} {a b x y : List Char} (absent : sep ∉ a) (absentToo : sep ∉ b)
    (same : a ++ sep :: x = b ++ sep :: y) : a = b := by
  have first := cut?_append absent x
  rw [same, cut?_append absentToo y] at first
  exact (Prod.mk.inj (Option.some.inj first)).1.symm

theorem splitOn_append {sep : Char} {piece : List Char} (absent : sep ∉ piece)
    (rest : List Char) : splitOn sep (piece ++ sep :: rest) = piece :: splitOn sep rest := by
  induction piece with
  | nil => simp [splitOn]
  | cons c piece ih =>
    obtain ⟨other, absent⟩ := List.ne_and_not_mem_of_not_mem_cons absent
    calc splitOn sep (c :: piece ++ sep :: rest)
      _ = pushFirst c (splitOn sep (piece ++ sep :: rest)) := if_neg other.symm
      _ = pushFirst c (piece :: splitOn sep rest) := by rw [ih absent]
      _ = (c :: piece) :: splitOn sep rest := rfl

theorem splitOn_eq (sep : Char) (s : List Char) : splitOn sep s = s.splitOn sep := by
  induction s with
  | nil => rfl
  | cons c s ih =>
    have unfolded : splitOn sep (c :: s) =
        if c = sep then [] :: splitOn sep s else pushFirst c (splitOn sep s) := rfl
    rw [unfolded, ih, List.splitOn_cons_eq_if_modifyHead]
    by_cases same : c = sep
    · rw [if_pos same, if_pos (beq_iff_eq.2 same)]
    · rw [if_neg same, if_neg (by simpa using same)]
      cases pieces : s.splitOn sep with
      | nil => exact absurd pieces (List.splitOn_ne_nil sep s)
      | cons piece pieces => rfl

private theorem dropFinal_eq_self {c : Char} (blank : isBlank c = true) {s : List Char}
    (same : trimEnd s = s) : dropFinal c s = s := by
  rw [dropFinal, if_neg]
  intro final
  obtain ⟨lead, rfl⟩ := List.getLast?_eq_some_iff.mp final
  have length := congrArg List.length same
  have dropped := (List.dropWhile_suffix isBlank (l := lead.reverse)).length_le
  simp only [trimEnd, List.reverse_append, List.reverse_cons, List.reverse_nil, List.nil_append,
    List.singleton_append, List.dropWhile_cons_of_pos blank, List.length_reverse,
    List.length_append, List.length_singleton] at length dropped
  omega

/-- Lines written one after the other, each with its line feed, are read back up to a carriage return at
the end. -/
theorem lines_written {ls : List (List Char)} (oneLine : ∀ l ∈ ls, '\n' ∉ l) :
    lines (ls.flatMap (· ++ ['\n'])) = ls.map (dropFinal '\r') := by
  have pieces : splitOn '\n' (ls.flatMap (· ++ ['\n'])) = ls ++ [[]] := by
    induction ls with
    | nil => rfl
    | cons l ls ih =>
      have later := ih fun other member => oneLine other (List.mem_cons_of_mem l member)
      rw [List.flatMap_cons, List.append_assoc, List.singleton_append,
        splitOn_append (oneLine l List.mem_cons_self), later, List.cons_append]
  simp [lines, pieces]

theorem lines_flatMap {ls : List (List Char)}
    (proper : ∀ l ∈ ls, '\n' ∉ l ∧ trimEnd l = l) :
    lines (ls.flatMap (· ++ ['\n'])) = ls := by
  rw [lines_written fun l member => (proper l member).1]
  refine (List.map_congr_left fun l member => ?_).trans (List.map_id ls)
  exact dropFinal_eq_self rfl (proper l member).2

theorem not_mem_of_mem_splitOn {sep : Char} {s piece : List Char} (member : piece ∈ splitOn sep s) :
    sep ∉ piece := by
  induction s generalizing piece with
  | nil =>
    cases List.mem_singleton.mp member
    exact List.not_mem_nil
  | cons c s ih =>
    have unfolded : splitOn sep (c :: s) =
        if c = sep then [] :: splitOn sep s else pushFirst c (splitOn sep s) := rfl
    rw [unfolded] at member
    split at member
    · rcases List.mem_cons.mp member with rfl | later
      · exact List.not_mem_nil
      · exact ih later
    · rename_i other
      cases pieces : splitOn sep s with
      | nil =>
        rw [pieces, pushFirst] at member
        cases List.mem_singleton.mp member
        simpa using Ne.symm other
      | cons first rest =>
        rw [pieces] at ih member
        rcases List.mem_cons.mp member with rfl | later
        · simp [Ne.symm other, ih List.mem_cons_self]
        · exact ih (List.mem_cons_of_mem _ later)

private theorem dropFinal_subset (c : Char) (s : List Char) : dropFinal c s ⊆ s := by
  unfold dropFinal
  split
  · exact (List.dropLast_sublist s).subset
  · exact List.Subset.refl s

/-- A line holds no line feed. -/
theorem not_mem_of_mem_lines {s line : List Char} (member : line ∈ lines s) : '\n' ∉ line := by
  have ended : ∀ line ∈ (splitOn '\n' s).dropLast.map (dropFinal '\r'), '\n' ∉ line := by
    intro line member inside
    obtain ⟨piece, among, rfl⟩ := List.mem_map.mp member
    exact not_mem_of_mem_splitOn ((List.dropLast_sublist _).subset among)
      (dropFinal_subset _ _ inside)
  unfold lines at member
  dsimp only at member
  split at member
  · rename_i c cs last
    rcases List.mem_append.mp member with before | final
    · exact ended line before
    · cases List.mem_singleton.mp final
      exact not_mem_of_mem_splitOn (List.mem_of_getLast? last)
  · exact ended line member

/-- Joined lines have a line feed less than lines. -/
private theorem count_intercalate {lines : List (List Char)}
    (proper : ∀ line ∈ lines, '\n' ∉ line) :
    (['\n'].intercalate lines).count '\n' = lines.length - 1 := by
  induction lines with
  | nil => rfl
  | cons line rest ih =>
    obtain ⟨here, later⟩ := List.forall_mem_cons.mp proper
    cases rest with
    | nil => simpa using List.count_eq_zero.mpr here
    | cons next rest =>
      rw [List.intercalate_cons_cons, List.count_append, List.count_append, ih later,
        List.count_eq_zero.mpr here]
      simp [Nat.add_comm]

theorem utf8ByteSize_cons (c : Char) (s : List Char) :
    (String.ofList (c :: s)).utf8ByteSize = c.utf8Size + (String.ofList s).utf8ByteSize := by
  rw [String.ofList_cons, String.utf8ByteSize_append, String.utf8ByteSize_singleton]

/-- A text can be cut between any two of its characters. -/
theorem splitAtByte?_append (before after : List Char) :
    splitAtByte? (String.ofList before).utf8ByteSize (before ++ after) = some (before, after) := by
  induction before with
  | nil =>
    rw [show (String.ofList []).utf8ByteSize = 0 from rfl, List.nil_append]
    cases after <;> rfl
  | cons c before ih =>
    obtain ⟨offset, positive⟩ := Nat.exists_eq_add_of_lt c.utf8Size_pos
    have size : (String.ofList (c :: before)).utf8ByteSize =
        (offset + (String.ofList before).utf8ByteSize) + 1 := by
      rw [utf8ByteSize_cons]
      omega
    have rest : offset + (String.ofList before).utf8ByteSize + 1 - c.utf8Size =
        (String.ofList before).utf8ByteSize := by omega
    rw [size, List.cons_append, splitAtByte?, if_pos (by omega), rest, ih]
    rfl

/-- The offset of a character is where the text before it ends. -/
theorem offsetOf?_cases (sep : Char) (s : List Char) :
    sep ∉ s ∧ offsetOf? sep s = none ∨
      ∃ before after, s = before ++ sep :: after ∧ sep ∉ before ∧
        offsetOf? sep s = some (String.ofList before).utf8ByteSize := by
  induction s with
  | nil => exact .inl ⟨List.not_mem_nil, rfl⟩
  | cons c s ih =>
    rw [offsetOf?]
    split
    · rename_i same
      subst same
      exact .inr ⟨[], s, rfl, List.not_mem_nil, rfl⟩
    · rename_i other
      rcases ih with ⟨absent, none⟩ | ⟨before, after, rfl, absent, found⟩
      · refine .inl ⟨?_, ?_⟩
        · simp [Ne.symm other, absent]
        · rw [none]
          rfl
      · refine .inr ⟨c :: before, after, rfl, ?_, ?_⟩
        · simp [Ne.symm other, absent]
        · rw [found, utf8ByteSize_cons]
          rfl

theorem cutLast?_append {sep : Char} {after : List Char} (absent : sep ∉ after)
    (before : List Char) :
    cutLast? sep (before ++ sep :: after) = some (before, after) := by
  have other : ∀ c ∈ after.reverse, (c != sep) = true := by
    intro c member
    rw [bne_iff_ne]
    rintro rfl
    exact absent (List.mem_reverse.1 member)
  have reversed : (before ++ sep :: after).reverse = after.reverse ++ sep :: before.reverse := by
    simp
  rw [cutLast?, if_pos (by simp), afterLast, reversed,
    List.dropWhile_append_of_pos other, List.takeWhile_append_of_pos other]
  simp

theorem cutLast?_eq_none {sep : Char} {s : List Char} (absent : sep ∉ s) :
    cutLast? sep s = none :=
  if_neg (by simpa using absent)

theorem utf8ByteSize_le {s : String} {before after : List Char} (parts : s.toList = before ++ after) :
    (String.ofList before).utf8ByteSize ≤ s.utf8ByteSize := by
  have size : s.utf8ByteSize =
      (String.ofList before).utf8ByteSize + (String.ofList after).utf8ByteSize := by
    rw [← String.utf8ByteSize_append, ← String.ofList_append, ← parts, String.ofList_toList]
  omega

theorem length_le_utf8ByteSize (s : List Char) : s.length ≤ (String.ofList s).utf8ByteSize := by
  induction s with
  | nil => exact Nat.zero_le _
  | cons c s ih =>
    have positive := c.utf8Size_pos
    rw [utf8ByteSize_cons, List.length_cons]
    omega

section Replacing

variable {needle value : List Char}

/-- Nothing is replaced where no copy begins. -/
theorem replaceFrom_pass {passed rest : List Char}
    (absent : ∀ before after, passed = before ++ after → after ≠ [] → ¬ needle <+: after ++ rest) :
    replaceFrom needle value 0 (passed ++ rest) = passed ++ replaceFrom needle value 0 rest := by
  induction passed with
  | nil => rfl
  | cons c passed ih =>
    have here : ¬ needle <+: c :: (passed ++ rest) := absent [] (c :: passed) rfl nofun
    rw [List.cons_append, replaceFrom, if_neg (by simpa using here), List.cons_append]
    refine congrArg (c :: ·) (ih fun before after split nonempty => ?_)
    exact absent (c :: before) after (congrArg (c :: ·) split) nonempty

private theorem replaceFrom_skip (passed rest : List Char) :
    replaceFrom needle value passed.length (passed ++ rest) = replaceFrom needle value 0 rest := by
  induction passed with
  | nil => rfl
  | cons c passed ih => exact ih

theorem replaceFrom_copy (nonempty : needle ≠ []) (rest : List Char) :
    replaceFrom needle value 0 (needle ++ rest) = value ++ replaceFrom needle value 0 rest := by
  obtain ⟨c, more, rfl⟩ := List.exists_cons_of_ne_nil nonempty
  have whole : (c :: more).isPrefixOf (c :: (more ++ rest)) = true := by simp
  rw [List.cons_append, replaceFrom, if_pos whole, List.length_cons, Nat.add_sub_cancel,
    replaceFrom_skip]

end Replacing

end Chars

namespace Text

/-- The lines of a text from one to another, of which there is at least one. -/
def span (s : String) (first last : Nat) : String :=
  join "\n" (((lines s).drop (first - 1)).take (last - first + 1))

/-- A span has no more lines than its numbers say. -/
theorem count_span (s : String) (first last : Nat) :
    (span s first last).toList.count '\n' ≤ last - first := by
  unfold span
  generalize body : ((lines s).drop (first - 1)).take (last - first + 1) = shown
  have length : shown.length ≤ last - first + 1 := by
    rw [← body]
    exact List.length_take_le _ _
  have proper : ∀ line ∈ shown.map String.toList, '\n' ∉ line := by
    intro line member
    obtain ⟨text, inside, rfl⟩ := List.mem_map.1 member
    rw [← body] at inside
    obtain ⟨chars, among, rfl⟩ := List.mem_map.1 (List.mem_of_mem_drop (List.mem_of_mem_take inside))
    rw [String.toList_ofList]
    exact Chars.not_mem_of_mem_lines among
  rw [join, String.toList_intercalate]
  refine (Chars.count_intercalate proper).trans_le ?_
  rw [List.length_map]
  omega

theorem splitOn_eq (sep : Char) (s : String) :
    splitOn sep s = (s.toList.splitOn sep).map String.ofList := by
  rw [splitOn, Chars.splitOn_eq]

section Joining

variable {sep : Char} {mark : String}

theorem toList_join (single : mark.toList = [sep]) (parts : List String) :
    (join mark parts).toList = [sep].intercalate (parts.map String.toList) := by
  rw [join, String.toList_intercalate, single]

theorem join_splitOn (single : mark.toList = [sep]) (s : String) :
    join mark (splitOn sep s) = s := by
  rw [← String.toList_inj, toList_join single, splitOn_eq, List.map_map]
  simp [Function.comp_def, List.intercalate_splitOn]

theorem splitOn_join (single : mark.toList = [sep]) {parts : List String} (nonempty : parts ≠ [])
    (free : ∀ part ∈ parts, sep ∉ part.toList) : splitOn sep (join mark parts) = parts := by
  have pieces : (parts.map String.toList).map String.ofList = parts := by
    simp [Function.comp_def]
  rw [splitOn_eq, toList_join single,
    List.splitOn_intercalate sep (by simpa using free) (by simpa using nonempty), pieces]

theorem not_mem_of_mem_splitOn {s piece : String} (member : piece ∈ splitOn sep s) :
    sep ∉ piece.toList := by
  obtain ⟨chars, among, rfl⟩ := List.mem_map.1 member
  rw [String.toList_ofList]
  exact Chars.not_mem_of_mem_splitOn among

end Joining

section Blanks

theorem isBlank_iff {s : String} : isBlank s = true ↔ ∀ c ∈ s.toList, Chars.isBlank c = true :=
  Chars.isEmpty_trim_iff

theorem trim_eq_empty_iff {s : String} : trim s = "" ↔ isBlank s = true := by
  rw [← String.toList_inj, trim, onChars, String.toList_ofList, isBlank, List.isEmpty_iff]
  rfl

theorem trim_padded {before after : String} (leading : isBlank before = true)
    (trailing : isBlank after = true) (s : String) : trim (before ++ s ++ after) = trim s := by
  rw [trim, onChars, onChars, String.toList_append, String.toList_append,
    Chars.trim_padded (isBlank_iff.1 leading) (isBlank_iff.1 trailing)]

end Blanks

section Commas

variable {pieces : List String}

theorem commaParts_join (free : ∀ piece ∈ pieces, ',' ∉ piece.toList) :
    commaParts (join "," pieces) = (pieces.map trim).filter (· ≠ "") := by
  cases pieces with
  | nil => rfl
  | cons first rest => rw [commaParts, splitOn_join rfl (List.cons_ne_nil first rest) free]

/-- A text without commas is its only part, unless it is blank. -/
theorem commaParts_eq_singleton_iff {s text : String} (free : ',' ∉ s.toList) (nonempty : text ≠ "") :
    commaParts s = [text] ↔ trim s = text := by
  have alone : join "," [s] = s := rfl
  have whole : commaParts (join "," [s]) = [trim s].filter (· ≠ "") :=
    commaParts_join (List.forall_mem_singleton.2 free)
  rw [alone] at whole
  rw [whole]
  by_cases blank : trim s = ""
  · simp [blank, nonempty.symm]
  · simp [blank]

end Commas

end Text

end Conformance
