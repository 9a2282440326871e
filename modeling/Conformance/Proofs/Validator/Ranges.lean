import Conformance.Proofs.Validator.Verdicts

/-! Names, lines, wildcards and distances once more, read by index and byte offset and added up in
64 bits, where each step may fail. None of them does, and all agree with the functions that the
validators call. -/
namespace Conformance

namespace Ranged
open Validator (lineAt_le)

/-- A list from an index on; nothing past the end. -/
def from? {α : Type} (i : Nat) (items : List α) : Option (List α) :=
  if i ≤ items.length then some (items.drop i) else none

/-- The byte offset of the last copy of a character. -/
def lastOffsetOf? (sep : Char) : List Char → Option Nat
  | [] => none
  | c :: cs =>
    match lastOffsetOf? sep cs with
    | some offset => some (c.utf8Size + offset)
    | none => if c = sep then some 0 else none

/-- The texts before a byte offset and after the one byte there. -/
def cutAt? (offset : Nat) (s : String) : Option (String × String) := do
  let next ← Count.add? offset 1
  let (before, _) ← Chars.splitAtByte? offset s.toList
  let (_, after) ← Chars.splitAtByte? next s.toList
  return (String.ofList before, String.ofList after)

/-- The directory and the file name, around the last slash. -/
def split? (path : String) : Option (String × String) :=
  match lastOffsetOf? '/' path.toList with
  | some offset => cutAt? offset path
  | none => some ("", path)

/-- The stem and the extension, around the last dot if it is not the first character. -/
def splitName? (file : String) : Option (String × String) :=
  match lastOffsetOf? '.' file.toList with
  | some offset => if offset > 0 then cutAt? offset file else some (file, "")
  | none => some (file, "")

/-- The line of a byte offset. -/
def lineAt? (text : String) (offset : Nat) : Option Nat := do
  let before ← Text.upTo? (min offset text.utf8ByteSize) text
  Count.add? (before.toList.count '\n') 1

/-- The second answer is wanted if the first is no. -/
def either? (first second : Option Bool) : Option Bool :=
  first.bind fun yes => if yes then some true else second

/-- The second answer is wanted if the first is yes. -/
def both? (first second : Option Bool) : Option Bool :=
  first.bind fun yes => if yes then second else some false

/-- Ask about the rest of a text from each index in turn, until one holds or a character stops
it. -/
def scan? (holds : List Char → Option Bool) (stops : Char → Bool) (text : List Char) :
    List Nat → Option Bool
  | [] => some false
  | i :: later =>
    either? ((from? i text).bind holds)
      ((both? (some (i < text.length)) (text[i]?.map stops)).bind fun stopped =>
        if stopped then some false else scan? holds stops text later)

/-- Whether a pattern matches a text. Every call drops something of the pattern. -/
def glob? (sep : Char) : (fuel : Nat) → (pattern text : List Char) → Option Bool
  | 0, _, _ => none
  | fuel + 1, pattern, text =>
    match pattern[0]? with
    | none => some text.isEmpty
    | some '*' =>
      if pattern[1]? = some '*' then
        (from? 2 pattern).bind fun rest =>
          if rest.isEmpty then some true
          else
            either? (both? (rest[0]?.map (· == sep))
                ((from? 1 rest).bind fun tail => glob? sep fuel tail text))
              (scan? (glob? sep fuel rest) (fun _ => false) text (List.range (text.length + 1)))
      else
        (from? 1 pattern).bind fun rest =>
          scan? (glob? sep fuel rest) (· == sep) text (List.range (text.length + 1))
    | some '?' =>
      both? (some (!text.isEmpty)) (both? (text[0]?.map (· != sep))
        ((from? 1 pattern).bind fun rest => (from? 1 text).bind (glob? sep fuel rest)))
    | some c =>
      both? (some (text[0]? == some c))
        ((from? 1 pattern).bind fun rest => (from? 1 text).bind (glob? sep fuel rest))

/-- Put a number in the place of another. -/
def set? (i n : Nat) (row : List Nat) : Option (List Nat) :=
  if i < row.length then some (row.set i n) else none

/-- Fill the cells of a row from left to right, the one after index `j` first. -/
def fillRow? (a : Char) (above : List Nat) : List Char → (j : Nat) → List Nat → Option (List Nat)
  | [], _, row => some row
  | b :: bs, j, row => do
    let replaced ← Count.add? (← above[j]?) (if a = b then 0 else 1)
    let removed ← Count.add? (← above[j + 1]?) 1
    let inserted ← Count.add? (← row[j]?) 1
    let row ← set? (j + 1) (min (min replaced removed) inserted) row
    fillRow? a above bs (j + 1) row

/-- Fill the rows of the distance table, of which `i` are above the first of them. -/
def fillRows? (target : List Char) : List Char → (i : Nat) → List Nat → Option (List Nat)
  | [], _, above => some above
  | a :: source, i, above => do
    let first ← Count.add? i 1
    let width ← Count.add? target.length 1
    let row ← fillRow? a above target 0 (List.replicate width first)
    fillRows? target source first row

/-- The last cell of the last row. -/
def distance? (source target : List Char) : Option Nat := do
  let last ← fillRows? target source 0 (List.range (target.length + 1))
  last[target.length]?

section Offsets

/-- The offset of the last copy of a character is where the text before it ends. -/
theorem lastOffsetOf?_cases (sep : Char) (s : List Char) :
    sep ∉ s ∧ lastOffsetOf? sep s = none ∨
      ∃ before after, s = before ++ sep :: after ∧ sep ∉ after ∧
        lastOffsetOf? sep s = some (String.ofList before).utf8ByteSize := by
  induction s with
  | nil => exact .inl ⟨List.not_mem_nil, rfl⟩
  | cons c s ih =>
    rw [lastOffsetOf?]
    rcases ih with ⟨absent, none⟩ | ⟨before, after, rfl, absent, found⟩
    · rw [none]
      dsimp only
      split
      · rename_i same
        subst same
        exact .inr ⟨[], s, rfl, absent, rfl⟩
      · rename_i other
        exact .inl ⟨by simp [Ne.symm other, absent], rfl⟩
    · rw [found]
      exact .inr ⟨c :: before, after, rfl, absent, by rw [Chars.utf8ByteSize_cons]⟩

/-- A text can be cut around any one-byte character. -/
theorem cutAt?_eq {sep : Char} {s : String} {before after : List Char}
    (parts : s.toList = before ++ sep :: after) (narrow : sep.utf8Size = 1)
    (fits : s.utf8ByteSize < 2 ^ 63) :
    cutAt? (String.ofList before).utf8ByteSize s =
      some (String.ofList before, String.ofList after) := by
  have upTo : (String.ofList (before ++ [sep])).utf8ByteSize =
      (String.ofList before).utf8ByteSize + 1 := by
    rw [String.ofList_append, String.utf8ByteSize_append, Chars.utf8ByteSize_cons, narrow]
    rfl
  have whole : s.toList = (before ++ [sep]) ++ after :=
    parts.trans (List.append_cons before sep after)
  have size : (String.ofList before).utf8ByteSize + 1 ≤ s.utf8ByteSize :=
    upTo ▸ Chars.utf8ByteSize_le whole
  have next : Count.add? (String.ofList before).utf8ByteSize 1 =
      some ((String.ofList before).utf8ByteSize + 1) :=
    if_pos (show (String.ofList before).utf8ByteSize + 1 < 2 ^ 64 by omega)
  have left := Chars.splitAtByte?_append before (sep :: after)
  have right := Chars.splitAtByte?_append (before ++ [sep]) after
  rw [← parts] at left
  rw [← whole, upTo] at right
  rw [cutAt?, next]
  dsimp only [Option.bind_eq_bind, Option.bind_some]
  rw [left]
  dsimp only [Option.bind_some]
  rw [right]
  rfl

theorem split?_eq {path : String} (fits : path.utf8ByteSize < 2 ^ 63) :
    split? path = some (Path.split path) := by
  rw [split?, Path.split, Text.cutLast?]
  rcases lastOffsetOf?_cases '/' path.toList with
    ⟨absent, none⟩ | ⟨before, after, parts, absent, found⟩
  · rw [none, Chars.cutLast?_eq_none absent]
    rfl
  · rw [found, parts, Chars.cutLast?_append absent]
    exact cutAt?_eq parts rfl fits

theorem splitName?_eq {file : String} (fits : file.utf8ByteSize < 2 ^ 63) :
    splitName? file = some (Path.splitName file) := by
  rw [splitName?, Path.splitName, Text.cutLast?]
  rcases lastOffsetOf?_cases '.' file.toList with
    ⟨absent, none⟩ | ⟨before, after, parts, absent, found⟩
  · rw [none, Chars.cutLast?_eq_none absent]
    rfl
  · rw [found, parts, Chars.cutLast?_append absent]
    dsimp only [Option.map_some]
    have leading : (String.ofList before).isEmpty = true ↔
        ¬(String.ofList before).utf8ByteSize > 0 := by
      rw [String.isEmpty_iff_utf8ByteSize_eq_zero]
      omega
    split
    · rename_i positive
      rw [if_neg (mt leading.1 (not_not_intro positive))]
      exact cutAt?_eq parts rfl fits
    · rename_i first
      rw [if_pos (leading.2 first)]

/-- The byte offset of a character position. -/
def byteOf (text : String) (position : Nat) : Nat :=
  (String.ofList (text.toList.take position)).utf8ByteSize

theorem lineAt?_eq {text : String} (fits : text.utf8ByteSize < 2 ^ 63) (position : Nat) :
    lineAt? text (byteOf text position) = some (Text.lineAt text position) := by
  have parts := List.take_append_drop position text.toList
  have inside : byteOf text position ≤ text.utf8ByteSize := Chars.utf8ByteSize_le parts.symm
  have cut := Chars.splitAtByte?_append (text.toList.take position) (text.toList.drop position)
  rw [parts] at cut
  have short := Chars.length_le_utf8ByteSize text.toList
  have few := lineAt_le text position
  have feeds := List.count_le_length (a := '\n') (l := text.toList)
  rw [String.ofList_toList] at short
  have line : (text.toList.take position).count '\n' + 1 = Text.lineAt text position := by
    rw [Text.lineAt, List.count, List.countP_eq_length_filter]
  rw [lineAt?, Nat.min_eq_left inside, Text.upTo?, byteOf, cut]
  dsimp only [Option.bind_eq_bind, Option.map_some, Option.bind_some]
  rw [String.toList_ofList, Count.add?, line]
  exact if_pos (show Text.lineAt text position < 2 ^ 64 by omega)

end Offsets

section Wildcards

@[simp] theorem either?_some (a b : Bool) : either? (some a) (some b) = some (a || b) := by
  cases a <;> rfl

@[simp] theorem both?_some (a b : Bool) : both? (some a) (some b) = some (a && b) := by
  cases a <;> rfl

@[simp] theorem both?_false (second : Option Bool) : both? (some false) second = some false := rfl

theorem from?_append {α : Type} (before after : List α) :
    from? before.length (before ++ after) = some after := by
  rw [from?, if_pos (by simp), List.drop_left]

/-- What is left of a text at each index up to a character that stops. -/
def rests (stops : Char → Bool) : List Char → List (List Char)
  | [] => [[]]
  | c :: cs => (c :: cs) :: if stops c then [] else rests stops cs

private theorem rests_false (text : List Char) :
    rests (fun _ => false) text = Glob.suffixes text := by
  induction text with
  | nil => rfl
  | cons c cs ih => rw [rests, Glob.suffixes, if_neg Bool.false_ne_true, ih]

private theorem rests_separator (sep : Char) (text : List Char) :
    rests (· == sep) text = Glob.segmentSuffixes sep text := by
  induction text with
  | nil => rfl
  | cons c cs ih => simp only [rests, Glob.segmentSuffixes, beq_iff_eq, ih]

/-- A scan in progress, with what it has gone past before its first index. -/
private theorem scan?_range' {holds : List Char → Option Bool} {answer : List Char → Bool}
    (decided : ∀ text, holds text = some (answer text)) (stops : Char → Bool)
    (past text : List Char) :
    scan? holds stops (past ++ text) (List.range' past.length (text.length + 1)) =
      some ((rests stops text).any answer) := by
  induction text generalizing past with
  | nil =>
    have rest := from?_append past []
    rw [List.append_nil] at rest ⊢
    rw [List.length_nil, Nat.zero_add, List.range'_one, scan?, rest, Option.bind_some, decided]
    simp [rests, scan?]
  | cons c cs ih =>
    have later := ih (past ++ [c])
    rw [List.append_assoc, List.singleton_append, List.length_append,
      List.length_singleton] at later
    have here : (past ++ c :: cs)[past.length]? = some c := by simp
    have inside : decide (past.length < (past ++ c :: cs).length) = true := by simp
    rw [List.length_cons, List.range'_succ, scan?, from?_append, Option.bind_some, decided, here,
      later, inside, Option.map_some, both?_some, Bool.true_and, Option.bind_some, rests]
    cases stops c <;> simp

theorem scan?_eq {holds : List Char → Option Bool} {answer : List Char → Bool}
    (decided : ∀ text, holds text = some (answer text)) (stops : Char → Bool) (text : List Char) :
    scan? holds stops text (List.range (text.length + 1)) =
      some ((rests stops text).any answer) := by
  rw [List.range_eq_range']
  exact scan?_range' decided stops [] text

theorem from?_cons {α : Type} (a : α) (items : List α) : from? 1 (a :: items) = some items :=
  from?_append [a] items

/-- A pattern of fewer characters than calls is matched to the end. -/
theorem glob?_eq (sep : Char) {fuel : Nat} (pattern text : List Char)
    (enough : pattern.length < fuel) :
    glob? sep fuel pattern text = some (Glob.matchChars sep pattern text) := by
  induction fuel generalizing pattern text with
  | zero => omega
  | succ fuel ih =>
    -- The cases are those of the total function: its patterns overlap and the first one counts.
    unfold Glob.matchChars
    split
    · rfl
    · rfl
    · rename_i c rest
      simp only [List.length_cons] at enough
      have after : from? 2 ('*' :: '*' :: c :: rest) = some (c :: rest) :=
        from?_append ['*', '*'] (c :: rest)
      have skipped := ih rest text (by omega)
      have inside (t : List Char) := ih (c :: rest) t (by simp only [List.length_cons]; omega)
      have spanned := scan?_eq inside (fun _ => false) text
      rw [rests_false] at spanned
      simp [glob?, after, from?_cons, skipped, spanned]
    · rename_i rest alone wide
      simp only [List.length_cons] at enough
      have single : ¬rest[0]? = some '*' := by
        intro star
        cases rest with
        | nil => cases star
        | cons d rest =>
          cases star
          cases rest with
          | nil => exact alone rfl
          | cons c rest => exact wide c rest rfl
      have inside (t : List Char) := ih rest t (by omega)
      have spanned := scan?_eq inside (· == sep) text
      rw [rests_separator] at spanned
      simp [glob?, single, from?_cons, spanned]
    · rename_i rest
      simp only [List.length_cons] at enough
      cases text with
      | nil => rfl
      | cons t ts => simp [glob?, from?_cons, ih rest ts (by omega)]
    · rename_i c rest _ _ star mark
      simp only [List.length_cons] at enough
      cases text with
      | nil => simp [glob?]
      | cons t ts => simp [glob?, from?_cons, ih rest ts (by omega)]

end Wildcards

section Distances

open Similarity (rowCells nextRow editDistance)

private theorem set?_append (past : List Nat) (left old new : Nat) (later : List Nat) :
    set? (past.length + 1) new (past ++ left :: old :: later) =
      some (past ++ left :: new :: later) := by
  rw [set?, if_pos (by simp)]
  simp [List.set_append_right]

/-- A row in progress: its cells up to `left` are filled, as many as cells above are passed. -/
theorem fillRow?_eq (a : Char) {bs : List Char} (past above done later : List Nat) {left most : Nat}
    (level : past.length = done.length) (width : above.length = bs.length + 1)
    (unfilled : later.length = bs.length) (low : ∀ n ∈ above, n ≤ most) (small : left ≤ most + 1)
    (room : most + 2 < 2 ^ 64) :
    fillRow? a (past ++ above) bs done.length (done ++ left :: later) =
      some (done ++ left :: rowCells a bs above left) := by
  induction bs generalizing past above done later left with
  | nil =>
    cases List.eq_nil_of_length_eq_zero unfilled
    simp [fillRow?, rowCells]
  | cons b bs ih =>
    obtain ⟨diagonal, up, above, rfl⟩ : ∃ d u rest, above = d :: u :: rest := by
      match above, width with
      | d :: u :: rest, _ => exact ⟨d, u, rest, rfl⟩
    obtain ⟨old, later, rfl⟩ : ∃ o rest, later = o :: rest := by
      match later, unfilled with
      | o :: rest, _ => exact ⟨o, rest, rfl⟩
    obtain ⟨lowDiagonal, lowUp⟩ : diagonal ≤ most ∧ ∀ n ∈ up :: above, n ≤ most :=
      List.forall_mem_cons.1 low
    have smallUp := lowUp up List.mem_cons_self
    have here : (past ++ diagonal :: up :: above)[done.length]? = some diagonal := by simp [← level]
    have next : (past ++ diagonal :: up :: above)[done.length + 1]? = some up := by simp [← level]
    have last : (done ++ left :: old :: later)[done.length]? = some left := by simp
    have replaced : Count.add? diagonal (if a = b then 0 else 1) =
        some (diagonal + if a = b then 0 else 1) := Count.add?_eq (by split <;> omega)
    have removed : Count.add? up 1 = some (up + 1) := Count.add?_eq (by omega)
    have inserted : Count.add? left 1 = some (left + 1) := Count.add?_eq (by omega)
    rw [fillRow?, here, next, last]
    simp only [Option.bind_eq_bind, Option.bind_some, replaced, removed, inserted, set?_append]
    generalize cell : min (min (diagonal + if a = b then 0 else 1) (up + 1)) (left + 1) = new
    have rest := ih (past ++ [diagonal]) (up :: above) (done ++ [left]) later
      (by simp [level]) (by simpa using width) (by simpa using unfilled) lowUp
      (show new ≤ most + 1 by omega)
    simp only [List.append_assoc, List.singleton_append, List.length_append,
      List.length_singleton] at rest
    rw [rest, rowCells]
    simp only [cell]

private theorem length_rowCells (a : Char) {bs : List Char} {above : List Nat}
    (width : above.length = bs.length + 1) (left : Nat) :
    (rowCells a bs above left).length = bs.length := by
  induction bs generalizing above left with
  | nil => simp [rowCells]
  | cons b bs ih =>
    match above, width with
    | diagonal :: up :: above, width =>
      simp only [rowCells, List.length_cons]
      rw [ih (by simpa using width)]

private theorem rowCells_le (a : Char) {bs : List Char} {above : List Nat} {most : Nat}
    (low : ∀ n ∈ above, n ≤ most) (left : Nat) : ∀ n ∈ rowCells a bs above left, n ≤ most + 1 := by
  induction bs generalizing above left with
  | nil => simp [rowCells]
  | cons b bs ih =>
    match above with
    | [] => simp [rowCells]
    | [_] => simp [rowCells]
    | diagonal :: up :: above =>
      have later := (List.forall_mem_cons.1 low).2
      have smallUp := later up List.mem_cons_self
      refine List.forall_mem_cons.2 ⟨by omega, ih later _⟩

/-- A row of the distance table, with as many rows before it. -/
structure IsRow (target : List Char) (i : Nat) (row : List Nat) : Prop where
  width : row.length = target.length + 1
  first : row.head? = some i
  low : ∀ n ∈ row, n ≤ target.length + i

private theorem isRow_range (target : List Char) :
    IsRow target 0 (List.range (target.length + 1)) where
  width := List.length_range
  first := by simp [List.range_succ_eq_map]
  low n member := Nat.le_of_lt_succ (List.mem_range.1 member)

theorem nextRow_eq {target : List Char} {i : Nat} {row : List Nat} (is : IsRow target i row)
    (a : Char) : nextRow target row a = (i + 1) :: rowCells a target row (i + 1) := by
  rw [nextRow, List.headD_eq_head?_getD, is.first, Option.getD_some]

theorem IsRow.next {target : List Char} {i : Nat} {row : List Nat} (is : IsRow target i row)
    (a : Char) : IsRow target (i + 1) (nextRow target row a) := by
  rw [nextRow_eq is]
  refine ⟨?_, rfl, List.forall_mem_cons.2 ⟨Nat.le_add_left _ _, rowCells_le a is.low _⟩⟩
  rw [List.length_cons, length_rowCells a is.width]

/-- Row by row, no cell exceeds the length of both texts together. -/
theorem fillRows?_eq {target : List Char} (source : List Char) {i : Nat} {row : List Nat}
    (is : IsRow target i row) (room : target.length + i + source.length + 1 < 2 ^ 64) :
    fillRows? target source i row = some (source.foldl (nextRow target) row) ∧
      (source.foldl (nextRow target) row).length = target.length + 1 := by
  induction source generalizing i row with
  | nil => exact ⟨rfl, is.width⟩
  | cons a source ih =>
    rw [List.length_cons] at room
    have filled : fillRow? a row target 0 (List.replicate (target.length + 1) (i + 1)) =
        some (nextRow target row a) := by
      rw [nextRow_eq is, List.replicate_succ]
      exact fillRow?_eq a [] row [] _ rfl is.width List.length_replicate is.low (by omega)
        (by omega)
    rw [fillRows?, Count.add?_eq (by omega), Count.add?_eq (by omega)]
    simp only [Option.bind_eq_bind, Option.bind_some, filled]
    exact ih (is.next a) (by omega)

theorem distance?_eq {source target : List Char}
    (room : source.length + target.length + 1 < 2 ^ 64) :
    distance? source target = some (editDistance source target) := by
  obtain ⟨filled, width⟩ := fillRows?_eq source (isRow_range target) (by omega)
  rw [distance?, filled, editDistance, List.getLastD_eq_getLast?]
  dsimp only [Option.bind_eq_bind, Option.bind_some]
  rw [List.getLast?_eq_getElem?, width, Nat.add_sub_cancel]
  rw [List.getElem?_eq_getElem (by omega), Option.getD_some]

end Distances

end Ranged

namespace Catalogue
open Ranged

/-- No finding is about a validator that broke down. -/
private theorem breakdown_not_found {c : Constraint} {ctx : FileContext} (fits : ctx.Representable)
    {d : Diagnostic} (member : d ∈ (builtin.run c ctx).violations) :
    ¬(d.code = Code.malformedConstraint ∧ d.message = (breakdown c).message) := by
  rintro ⟨code, message⟩
  by_cases named : ∃ r : Rule, c.rule = r.name
  · obtain ⟨r, named⟩ := named
    exact ((run_of_rule fits named).2 d member).working code message
  · rw [run_of_unknown (not_exists.1 named)] at member
    cases List.mem_singleton.1 member
    have unknown : (unknownRule c).code = Code.unknownRule := rfl
    rw [unknown] at code
    exact absurd code (by decide)

/-- Whatever the constraint, and whatever 64-bit line numbers and texts of less than 2^63 bytes a file
has, each validator comes to a verdict: what it indexes is there, and its sums stay in range. -/
theorem validators_stay_in_range (c : Constraint) (ctx : FileContext) (fits : ctx.Representable) :
    (∀ r : Rule, ∃ v, r.validator c ctx = some v) ∧
      (∀ d ∈ (builtin.run c ctx).violations,
        ¬(d.code = Code.malformedConstraint ∧ d.message = (breakdown c).message)) ∧
      (∀ text : String, text.utf8ByteSize < 2 ^ 63 →
        split? text = some (Path.split text) ∧ splitName? text = some (Path.splitName text) ∧
          ∀ position, lineAt? text (byteOf text position) = some (Text.lineAt text position)) ∧
      (∀ (sep : Char) (pattern text : List Char),
        glob? sep (pattern.length + 1) pattern text = some (Glob.matchChars sep pattern text)) ∧
      (∀ name other : String, name.utf8ByteSize < 2 ^ 63 → other.utf8ByteSize < 2 ^ 63 →
        distance? name.toList other.toList =
          some (Similarity.editDistance name.toList other.toList)) := by
  refine ⟨?_, fun d member => breakdown_not_found fits member, ?_, ?_, ?_⟩
  · intro r
    obtain ⟨v, done, -⟩ := Validator.validator_decides fits r c
    exact ⟨v, done⟩
  · intro text short
    exact ⟨split?_eq short, splitName?_eq short, lineAt?_eq short⟩
  · intro sep pattern text
    exact glob?_eq sep pattern text (Nat.lt_succ_self _)
  · intro name other short short'
    refine distance?_eq ?_
    have few := Chars.length_le_utf8ByteSize name.toList
    have few' := Chars.length_le_utf8ByteSize other.toList
    rw [String.ofList_toList] at few few'
    omega

open Outermost in
theorem last_line_is_measured :
    let c := Constraint.ofRule .maxFunctionLines (.number 0)
    (builtin.run c ctx).violations.map (·.line) = [some (2 ^ 64 - 1)] ∧
      (∀ r : Rule, (r.validator c ctx).isSome) ∧
      (∀ d ∈ (builtin.run c ctx).violations,
        ¬(d.code = "S003" ∧ d.message = "validator for 'max_function_lines' failed on this file")) ∧
      splitName? "é.d.ts" = some (Path.splitName "é.d.ts") := by
  intro c
  obtain ⟨verdicts, working, texts, -⟩ := validators_stay_in_range c ctx ctx_representable
  refine ⟨by decide +kernel, ?_, working, (texts "é.d.ts" (by decide)).2.1⟩
  intro r
  obtain ⟨v, done⟩ := verdicts r
  rw [done, Option.isSome_some]

end Catalogue
end Conformance
