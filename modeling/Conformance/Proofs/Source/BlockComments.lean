import Conformance.Proofs.Text
import Conformance.Source.LineCount

/-! Block comments from line to line. All readers of a text agree where a comment opens, and that a
line inside a comment ends it if it has an end mark. They differ on the line that opens a comment:
each looks for the end in a text of its own, made from what follows the opening mark. So two readers
agree up to the first line, outside comments, for which only one of their texts has an end mark. -/
namespace Conformance

namespace Chars

variable {s lead needle after : List Char}

@[simp] theorem startsWith_nil (s : List Char) : startsWith s [] = true := rfl

@[simp] theorem startsWith_nil_cons (p : Char) (lead : List Char) :
    startsWith [] (p :: lead) = false := rfl

@[simp] theorem startsWith_cons_cons (c p : Char) (s lead : List Char) :
    startsWith (c :: s) (p :: lead) = (p == c && startsWith s lead) := rfl

theorem isSome_strip? (lead s : List Char) : (strip? lead s).isSome = startsWith s lead := by
  induction lead generalizing s with
  | nil => rfl
  | cons p lead ih =>
    cases s with
    | nil => rfl
    | cons c s =>
      by_cases same : p = c
      · simp [strip?, same, ih]
      · simp [strip?, same]

theorem strip?_eq_some_iff {rest : List Char} : strip? lead s = some rest ↔ s = lead ++ rest := by
  refine ⟨strip?_eq_some, ?_⟩
  rintro rfl
  induction lead with
  | nil => rfl
  | cons p lead ih => simpa [strip?] using ih

theorem contains_nil (given : needle ≠ []) : contains [] needle = false := by
  simp [contains, cut?, given]

theorem contains_cons (c : Char) (s needle : List Char) :
    contains (c :: s) needle = (startsWith (c :: s) needle || contains s needle) := by
  rw [contains, cut?, ← isSome_strip?]
  cases strip? needle (c :: s) with
  | some rest => rfl
  | none => simp [contains]

theorem startsWith_append (solid : ∀ c ∈ lead, isBlank c = false)
    (blank : ∀ c ∈ after, isBlank c = true) (s : List Char) :
    startsWith (s ++ after) lead = startsWith s lead := by
  induction lead generalizing s with
  | nil => rfl
  | cons p lead ih =>
    obtain ⟨first, later⟩ := List.forall_mem_cons.1 solid
    cases s with
    | cons c s => simp [ih later]
    | nil =>
      cases after with
      | nil => rfl
      | cons a after =>
        have other : p ≠ a := by
          rintro rfl
          exact Bool.false_ne_true (first.symm.trans (blank p List.mem_cons_self))
        simp [other]

/-- What has no blanks is not found in blanks at the end of a text. -/
theorem contains_append (given : needle ≠ []) (solid : ∀ c ∈ needle, isBlank c = false)
    (blank : ∀ c ∈ after, isBlank c = true) (s : List Char) :
    contains (s ++ after) needle = contains s needle := by
  induction s with
  | cons c s ih =>
    rw [List.cons_append, contains_cons, contains_cons, ← List.cons_append,
      startsWith_append solid blank, ih]
  | nil =>
    rw [List.nil_append, contains_nil given]
    induction after with
    | nil => exact contains_nil given
    | cons a after ih =>
      have atStart : startsWith (a :: after) needle = false := by
        obtain ⟨p, rest, rfl⟩ := List.exists_cons_of_ne_nil given
        exact startsWith_append solid blank []
      rw [contains_cons, atStart, ih fun c member => blank c (List.mem_cons_of_mem a member)]
      rfl

/-- Trimming the start of a line leaves the trimmed line and blanks. -/
theorem exists_trimStart (s : List Char) :
    ∃ after, trimStart s = trim s ++ after ∧ ∀ c ∈ after, isBlank c = true := by
  refine ⟨((trimStart s).reverse.takeWhile isBlank).reverse, ?_,
    fun c member => List.mem_takeWhile_imp (List.mem_reverse.1 member)⟩
  rw [trim, trimEnd, ← List.reverse_append, List.takeWhile_append_dropWhile, List.reverse_reverse]

end Chars

namespace BlockComment

open LineCount (blockOpen blockClose)

variable {view view' : List Char → List Char} {body line : List Char}

/-- What follows the opening mark of a comment at the start of a line. -/
def opened? (line : List Char) : Option (List Char) := Chars.strip? blockOpen (Chars.trim line)

/-- Whether a comment is open after a line, for a reader that looks for the end of a comment in `view` of
what follows its opening mark. -/
def next (view : List Char → List Char) (inBlock : Bool) (line : List Char) : Bool :=
  if inBlock then !Chars.contains (Chars.trim line) blockClose
  else (opened? line).any fun body => !Chars.contains (view body) blockClose

/-- Whether a comment is open after the lines of a text so far. -/
def openAfter (view : List Char → List Char) (lines : List (List Char)) : Bool :=
  lines.foldl (next view) false

theorem solid_blockOpen : ∀ c ∈ blockOpen, Chars.isBlank c = false := by
  simp [blockOpen, Chars.isBlank]

theorem solid_blockClose : ∀ c ∈ blockClose, Chars.isBlank c = false := by
  simp [blockClose, Chars.isBlank]

theorem opened?_eq_some_iff : opened? line = some body ↔ Chars.trim line = blockOpen ++ body :=
  Chars.strip?_eq_some_iff

theorem next_of_opened (opened : opened? line = some body) :
    next view false line = !Chars.contains (view body) blockClose := by
  rw [next, opened]
  rfl

theorem next_of_unopened (unopened : opened? line = none) : next view false line = false := by
  rw [next, unopened]
  rfl

theorem openAfter_take_succ (view : List Char → List Char) {lines : List (List Char)} {k : Nat}
    (here : lines[k]? = some line) :
    openAfter view (lines.take (k + 1)) = next view (openAfter view (lines.take k)) line := by
  rw [List.take_add_one, here, openAfter, List.foldl_append]
  rfl

/-- Two readers agree along a text exactly if there is no line outside comments after which they differ. -/
theorem agree_iff {lines : List (List Char)} {n : Nat} :
    (∀ k ≤ n, openAfter view (lines.take k) = openAfter view' (lines.take k)) ↔
      ∀ k < n, ∀ line ∈ lines[k]?, openAfter view' (lines.take k) = false →
        next view false line = next view' false line := by
  constructor
  · intro agree k inside line here outside
    have after := agree (k + 1) inside
    rwa [openAfter_take_succ view here, openAfter_take_succ view' here, agree k (Nat.le_of_lt inside),
      outside] at after
  · intro same k within
    induction k with
    | zero => rfl
    | succ k ih =>
      have before := ih (Nat.le_of_lt within)
      cases here : lines[k]? with
      | none => rwa [List.take_add_one, here, Option.toList_none, List.append_nil]
      | some line =>
        rw [openAfter_take_succ view here, openAfter_take_succ view' here, before]
        cases outside : openAfter view' (lines.take k) with
        | true => rfl
        | false => exact same k within line here outside

/-- A slash is not the beginning of an end mark. -/
theorem contains_slash (body : List Char) :
    Chars.contains ('/' :: body) blockClose = Chars.contains body blockClose := by
  simp [Chars.contains_cons, blockClose]

end BlockComment

namespace LineCount

open BlockComment

/-- Whether the line counter is in a block comment after lines. -/
def inBlockAfter (lines : List (List Char)) : Bool :=
  lines.foldl (fun inBlock line => (step inBlock line).2) false

theorem isSome_afterBlock? (s : List Char) : (afterBlock? s).isSome = Chars.contains s blockClose :=
  Option.isSome_map

/-- A line comment opens no block. -/
theorem strip?_blockOpen {s : List Char} (comment : isLineComment s = true) :
    Chars.strip? blockOpen s = none := by
  rw [← Option.not_isSome_iff_eq_none, Chars.isSome_strip?]
  intro opens
  match s with
  | [] => cases comment
  | [_] => simp [blockOpen] at opens
  | c :: d :: s =>
    simp [blockOpen] at opens
    simp [isLineComment, ← opens.1, ← opens.2] at comment

/-- The counter looks for the end of a comment right after the opening mark. -/
theorem step_inBlock (inBlock : Bool) (line : List Char) :
    (step inBlock line).2 = next id inBlock line := by
  unfold step
  dsimp only
  cases inBlock with
  | true =>
    rw [if_pos rfl, next, if_pos rfl, ← isSome_afterBlock?]
    cases afterBlock? (Chars.trim line) <;> rfl
  | false =>
    rw [if_neg Bool.false_ne_true]
    split
    · rename_i plain
      rw [next_of_unopened]
      rcases Bool.or_eq_true_iff.1 plain with empty | comment
      · rw [opened?, List.isEmpty_iff.1 empty]
        rfl
      · exact strip?_blockOpen comment
    · split
      · rename_i body opened
        rw [next_of_opened opened, id, ← isSome_afterBlock?]
        cases afterBlock? body <;> rfl
      · rename_i unopened
        rw [next_of_unopened unopened]

theorem inBlockAfter_eq (lines : List (List Char)) : inBlockAfter lines = openAfter id lines := by
  rw [inBlockAfter, openAfter]
  exact congrArg (List.foldl · false lines) (funext₂ step_inBlock)

theorem codeFlags_getElem? (inBlock : Bool) (lines : List (List Char)) (k : Nat) :
    (codeFlags inBlock lines)[k]? = lines[k]?.map fun line =>
      (step ((lines.take k).foldl (next id) inBlock) line).1 := by
  induction lines generalizing inBlock k with
  | nil => rfl
  | cons line rest ih =>
    cases k with
    | zero => rfl
    | succ k =>
      rw [List.take_succ_cons, List.foldl_cons, ← step_inBlock]
      exact ih (step inBlock line).2 k

end LineCount

end Conformance
