import Conformance.Proofs.Document.Scalars

/-! Indented text is read as the document it was written from. Integers out of range are read as
other numbers or not at all, and a part without a value is read as null. -/
namespace Conformance

namespace Document

mutual

/-- Whether lists and records nest at most so deep, and numbers are integers. -/
def fits : (depth : Nat) → Document → Bool
  | _, decimal _ _ => false
  | 0, list _ | 0, record _ => false
  | depth + 1, list items => allFit depth items
  | depth + 1, record fields => fieldsFit depth fields
  | _, _ => true

def allFit (depth : Nat) : List Document → Bool
  | [] => true
  | d :: rest => d.fits depth && allFit depth rest

def fieldsFit (depth : Nat) : List (String × Document) → Bool
  | [] => true
  | (_, d) :: rest => d.fits depth && fieldsFit depth rest

end

mutual

/-- What a written document is read as. -/
def image : Document → Document
  | int n => Json.readInt n
  | list items => list (images items)
  | record fields => record (fieldImages fields)
  | unreadable => null
  | d => d

def images : List Document → List Document
  | [] => []
  | d :: rest => d.image :: images rest

def fieldImages : List (String × Document) → List (String × Document)
  | [] => []
  | (name, d) :: rest => (name, d.image) :: fieldImages rest

end

end Document

namespace Json

theorem skipSpace_gap {gap : List Char} (blank : gap.all isSpace = true) (s : List Char) :
    skipSpace (gap ++ s) = skipSpace s := by
  rw [List.all_eq_true] at blank
  exact List.dropWhile_append_of_pos blank

theorem skipSpace_cons {c : Char} (mark : isSpace c = false) (s : List Char) :
    skipSpace (c :: s) = c :: s := by
  simp [skipSpace, mark]

theorem value?_gap (gap : List Char) (blank : gap.all isSpace = true) (fuel depth : Nat)
    (s : List Char) : value? fuel depth (gap ++ s) = value? fuel depth s := by
  cases fuel with
  | zero => simp [value?]
  | succ fuel => rw [value?, value?, skipSpace_gap blank]

/-- What opens no list or record is a scalar. -/
theorem value?_scalar {c : Char} (mark : isSpace c = false) (list : c ≠ '[') (record : c ≠ '\x7b')
    (fuel depth : Nat) (s : List Char) :
    value? (fuel + 1) depth (c :: s) = scalar? (c :: s) := by
  rw [value?, skipSpace_cons mark]
  split
  · rename_i same
    exact absurd (List.cons.inj same).1 list
  · rename_i same
    exact absurd (List.cons.inj same).1 record
  · rfl

theorem value?_null (fuel depth : Nat) (rest : List Char) :
    value? (fuel + 1) depth ("null".toList ++ rest) = some (.null, rest) :=
  value?_scalar rfl (by decide) (by decide) fuel depth _

theorem value?_true (fuel depth : Nat) (rest : List Char) :
    value? (fuel + 1) depth ("true".toList ++ rest) = some (.bool true, rest) :=
  value?_scalar rfl (by decide) (by decide) fuel depth _

theorem value?_false (fuel depth : Nat) (rest : List Char) :
    value? (fuel + 1) depth ("false".toList ++ rest) = some (.bool false, rest) :=
  value?_scalar rfl (by decide) (by decide) fuel depth _

theorem value?_int (n : Int) (fuel depth : Nat) {rest : List Char} (ends : Ends rest) :
    value? (fuel + 1) depth ((toString n).toList ++ rest) = some (readInt n, rest) := by
  have read := scalar?_int n ends
  obtain ⟨c, more, chars, first⟩ := toString_cons n
  rw [chars] at read ⊢
  have mark : isSpace c = false ∧ c ≠ '[' ∧ c ≠ '\x7b' := by
    rcases first with rfl | digit
    · decide
    · refine ⟨?_, ?_, ?_⟩
      · simp only [isSpace, Bool.or_eq_false_iff, beq_eq_false_iff_ne]
        refine ⟨⟨⟨?_, ?_⟩, ?_⟩, ?_⟩ <;> rintro rfl <;> exact absurd digit (by decide)
      · rintro rfl
        exact absurd digit (by decide)
      · rintro rfl
        exact absurd digit (by decide)
  rw [List.cons_append, value?_scalar mark.1 mark.2.1 mark.2.2]
  exact read

theorem quote_chars (s : String) :
    (quote s).toList = '\"' :: (s.toList.flatMap escape ++ ['\"']) := by
  simp [quote]

theorem value?_text (s : String) (fuel depth : Nat) (rest : List Char) :
    value? (fuel + 1) depth ((quote s).toList ++ rest) = some (.text s, rest) := by
  have read := scalar?_text s rest
  rw [quote_chars] at read ⊢
  rw [List.cons_append, value?_scalar rfl (by decide) (by decide)]
  exact read

theorem indented_list (margin : String) (d : Document) (rest : List Document) :
    (indented margin (.list (d :: rest))).toList =
      '[' :: '\n' :: ((indentedItems (margin ++ "  ") (d :: rest)).toList ++
        '\n' :: (margin.toList ++ [']'])) := by
  simp [indented]

theorem indented_record (margin : String) (f : String × Document)
    (rest : List (String × Document)) :
    (indented margin (.record (f :: rest))).toList =
      '\x7b' :: '\n' :: ((indentedFields (margin ++ "  ") (f :: rest)).toList ++
        '\n' :: (margin.toList ++ ['\x7d'])) := by
  simp [indented]

theorem skipSpace_skipSpace (s : List Char) : skipSpace (skipSpace s) = skipSpace s := by
  induction s with
  | nil => rfl
  | cons c rest ih =>
    cases mark : isSpace c with
    | true => simpa [skipSpace, mark] using ih
    | false => rw [skipSpace_cons mark, skipSpace_cons mark]

theorem value?_skipSpace (fuel depth : Nat) (s : List Char) :
    value? fuel depth (skipSpace s) = value? fuel depth s := by
  cases fuel with
  | zero => simp [value?]
  | succ fuel => rw [value?, value?, skipSpace_skipSpace]

theorem items?_skipSpace (fuel depth : Nat) (s : List Char) :
    items? fuel depth (skipSpace s) = items? fuel depth s := by
  cases fuel with
  | zero => simp [items?]
  | succ fuel => rw [items?, items?, value?_skipSpace]

theorem members?_skipSpace (fuel depth : Nat) (s : List Char) :
    members? fuel depth (skipSpace s) = members? fuel depth s := by
  cases fuel with
  | zero => simp [members?]
  | succ fuel => rw [members?, members?, skipSpace_skipSpace]

theorem items?_gap (gap : List Char) (blank : gap.all isSpace = true) (fuel depth : Nat)
    (s : List Char) : items? fuel depth (gap ++ s) = items? fuel depth s := by
  rw [← items?_skipSpace, skipSpace_gap blank, items?_skipSpace]

theorem members?_gap (gap : List Char) (blank : gap.all isSpace = true) (fuel depth : Nat)
    (s : List Char) : members? fuel depth (gap ++ s) = members? fuel depth s := by
  rw [← members?_skipSpace, skipSpace_gap blank, members?_skipSpace]

theorem value?_bracket (fuel depth : Nat) (s : List Char) : value? fuel depth (']' :: s) = none := by
  cases fuel with
  | zero => simp [value?]
  | succ fuel =>
    rw [value?_scalar rfl (by decide) (by decide)]
    rfl

theorem value?_empty_list (fuel depth : Nat) (rest : List Char) :
    value? (fuel + 1) (depth + 2) ("[]".toList ++ rest) = some (.list [], rest) := by
  change value? (fuel + 1) (depth + 2) ('[' :: ']' :: rest) = _
  rw [value?, skipSpace_cons rfl]
  simp only [show ¬ depth + 2 ≤ 1 by omega, if_false, skipSpace_cons (c := ']') rfl]

theorem value?_empty_record (fuel depth : Nat) (rest : List Char) :
    value? (fuel + 1) (depth + 2) ("\x7b\x7d".toList ++ rest) = some (.record [], rest) := by
  change value? (fuel + 1) (depth + 2) ('\x7b' :: '\x7d' :: rest) = _
  rw [value?, skipSpace_cons rfl]
  simp only [show ¬ depth + 2 ≤ 1 by omega, if_false, skipSpace_cons (c := '\x7d') rfl]

/-- A list is what its items are, if there is one. -/
theorem value?_of_items {fuel depth : Nat} {s rest : List Char} {ds : List Document}
    (read : items? fuel (depth + 1) s = some (ds, rest)) :
    value? (fuel + 1) (depth + 2) ('[' :: s) = some (.list ds, rest) := by
  rw [← items?_skipSpace] at read
  rw [value?, skipSpace_cons rfl]
  simp only [show ¬ depth + 2 ≤ 1 by omega, if_false]
  split
  · rename_i more closed
    rw [closed] at read
    cases fuel with
    | zero => simp [items?] at read
    | succ fuel => simp [items?, value?_bracket] at read
  · rw [show depth + 2 - 1 = depth + 1 by omega, read]
    rfl

/-- A record is what its fields are, if there is one. -/
theorem value?_of_members {fuel depth : Nat} {s rest : List Char}
    {fs : List (Option String × Document)}
    (read : members? fuel (depth + 1) s = some (fs, rest)) :
    value? (fuel + 1) (depth + 2) ('\x7b' :: s) = some (recordOf fs, rest) := by
  rw [← members?_skipSpace] at read
  rw [value?, skipSpace_cons rfl]
  simp only [show ¬ depth + 2 ≤ 1 by omega, if_false]
  split
  · rename_i more closed
    rw [closed] at read
    cases fuel with
    | zero => simp [members?] at read
    | succ fuel => simp [members?, skipSpace_cons (c := '\x7d') rfl] at read
  · rw [show depth + 2 - 1 = depth + 1 by omega, read]
    rfl

theorem items?_last {fuel depth : Nat} {s rest : List Char} {d : Document} (gap : List Char)
    (read : value? fuel depth s = some (d, gap ++ ']' :: rest)) (blank : gap.all isSpace = true) :
    items? (fuel + 1) depth s = some ([d], rest) := by
  rw [items?, read]
  simp only [skipSpace_gap blank, skipSpace_cons (c := ']') rfl]

theorem items?_next {fuel depth : Nat} {s more rest : List Char} {d : Document}
    {ds : List Document} (read : value? fuel depth s = some (d, ',' :: more))
    (others : items? fuel depth more = some (ds, rest)) :
    items? (fuel + 1) depth s = some (d :: ds, rest) := by
  rw [items?, read]
  simp only [skipSpace_cons (c := ',') rfl, others, Option.map_some]

section Fields

variable {fuel depth : Nat} {gap s more rest : List Char} {name : String} {d : Document}

theorem members?_last (closing : List Char) (blank : gap.all isSpace = true)
    (read : value? fuel depth s = some (d, closing ++ '\x7d' :: rest))
    (blankClosing : closing.all isSpace = true) :
    members? (fuel + 1) depth (gap ++ ((quote name).toList ++ ':' :: s)) =
      some ([(some name, d)], rest) := by
  rw [members?, skipSpace_gap blank, quote_chars, List.cons_append, skipSpace_cons rfl]
  simp only [List.append_assoc, List.cons_append, List.nil_append, units?_flatMap_escape,
    List.reverse_nil, skipSpace_cons (c := ':') rfl, textOf?_chars, String.ofList_toList, read,
    skipSpace_gap blankClosing, skipSpace_cons (c := '\x7d') rfl]

theorem members?_next {fs : List (Option String × Document)} (blank : gap.all isSpace = true)
    (read : value? fuel depth s = some (d, ',' :: more))
    (others : members? fuel depth more = some (fs, rest)) :
    members? (fuel + 1) depth (gap ++ ((quote name).toList ++ ':' :: s)) =
      some ((some name, d) :: fs, rest) := by
  rw [members?, skipSpace_gap blank, quote_chars, List.cons_append, skipSpace_cons rfl]
  simp only [List.append_assoc, List.cons_append, List.nil_append, units?_flatMap_escape,
    List.reverse_nil, skipSpace_cons (c := ':') rfl, textOf?_chars, String.ofList_toList, read,
    skipSpace_cons (c := ',') rfl, others, Option.map_some]

end Fields

/-- A record with every name read is a record. -/
private theorem recordOf_named (fields : List (String × Document)) :
    recordOf (fields.map fun f => (some f.1, f.2)) = .record fields := by
  have named : (fields.map fun f => (some f.1, f.2)).mapM
      (fun (entry : Option String × Document) => entry.1.map fun name => (name, entry.2)) =
        some fields := by
    induction fields with
    | nil => rfl
    | cons f rest ih => simp [List.mapM_cons, ih]
  rw [recordOf, named]
  rfl

private theorem indentedItems_cons (margin : String) (d e : Document) (rest : List Document) :
    (indentedItems margin (d :: e :: rest)).toList =
      margin.toList ++ ((indented margin d).toList ++
        ',' :: '\n' :: (indentedItems margin (e :: rest)).toList) := by
  simp [indentedItems]

private theorem indentedFields_one (margin name : String) (d : Document) :
    (indentedFields margin [(name, d)]).toList =
      margin.toList ++ ((quote name).toList ++ ':' :: ' ' :: (indented margin d).toList) := by
  simp [indentedFields]

private theorem indentedFields_cons (margin name : String) (d : Document) (f : String × Document)
    (rest : List (String × Document)) :
    (indentedFields margin ((name, d) :: f :: rest)).toList =
      margin.toList ++ ((quote name).toList ++ ':' :: ' ' :: ((indented margin d).toList ++
        ',' :: '\n' :: (indentedFields margin (f :: rest)).toList)) := by
  simp [indentedFields]

theorem blank_deeper {margin : String} (blank : margin.toList.all isSpace = true) :
    (margin ++ "  ").toList.all isSpace = true := by
  rw [String.toList_append, List.all_append, blank]
  rfl

private theorem indented_pos (margin : String) (d : Document) :
    0 < (indented margin d).toList.length := by
  match d with
  | .null | .bool true | .bool false | .unreadable | .list [] | .record [] =>
    simp [indented, write]
  | .int n =>
    obtain ⟨c, more, chars, -⟩ := toString_cons n
    simp only [indented, write, chars]
    exact Nat.succ_pos _
  | .decimal n e =>
    simp only [indented, write, decimalText, String.toList_append, List.length_append]
    exact Nat.add_pos_left (Nat.add_pos_right _ (by decide)) _
  | .text t => simp [indented, write, quote_chars]
  | .list (e :: rest) => simp [indented_list]
  | .record (f :: rest) => simp [indented_record]

theorem blank_line {closing : List Char} (blank : closing.all isSpace = true) :
    ('\n' :: closing).all isSpace = true := by
  rw [List.all_cons, blank]
  rfl

section Steps

variable {fuel : Nat}

/-- So many steps read every written value that is short enough, whatever follows it. -/
def ReadsValues (fuel : Nat) : Prop :=
  ∀ (d : Document) (depth : Nat) (margin : String) (rest : List Char), d.fits depth = true →
    margin.toList.all isSpace = true → 2 * (indented margin d).toList.length ≤ fuel → Ends rest →
    value? fuel (depth + 1) ((indented margin d).toList ++ rest) = some (d.image, rest)

def ReadsItems (fuel : Nat) : Prop :=
  ∀ (d : Document) (more : List Document) (depth : Nat) (margin : String)
    (closing rest : List Char), Document.allFit depth (d :: more) = true →
    margin.toList.all isSpace = true → closing.all isSpace = true →
    2 * (indentedItems margin (d :: more)).toList.length + 1 ≤ fuel →
    items? fuel (depth + 1)
        ((indentedItems margin (d :: more)).toList ++ '\n' :: (closing ++ ']' :: rest)) =
      some (Document.images (d :: more), rest)

def ReadsFields (fuel : Nat) : Prop :=
  ∀ (f : String × Document) (more : List (String × Document)) (depth : Nat) (margin : String)
    (closing rest : List Char), Document.fieldsFit depth (f :: more) = true →
    margin.toList.all isSpace = true → closing.all isSpace = true →
    2 * (indentedFields margin (f :: more)).toList.length + 1 ≤ fuel →
    members? fuel (depth + 1)
        ((indentedFields margin (f :: more)).toList ++ '\n' :: (closing ++ '\x7d' :: rest)) =
      some ((Document.fieldImages (f :: more)).map fun f => (some f.1, f.2), rest)

private theorem readsValues_succ (readsItems : ReadsItems fuel) (readsFields : ReadsFields fuel) :
    ReadsValues (fuel + 1) := by
  intro d depth margin rest fits blank enough ends
  cases d with
  | null | unreadable => exact value?_null fuel _ rest
  | bool b =>
    cases b with
    | true => exact value?_true fuel _ rest
    | false => exact value?_false fuel _ rest
  | int n => exact value?_int n fuel _ ends
  | decimal => simp [Document.fits] at fits
  | text t => exact value?_text t fuel _ rest
  | list items =>
    cases depth with
    | zero => simp [Document.fits] at fits
    | succ depth =>
      cases items with
      | nil => exact value?_empty_list fuel depth rest
      | cons e others =>
        rw [Document.fits] at fits
        rw [indented_list] at enough ⊢
        simp only [List.length_cons, List.length_append, List.length_nil] at enough
        have inside := readsItems e others depth (margin ++ "  ") margin.toList rest fits
          (blank_deeper blank) blank (by omega)
        rw [← items?_gap ['\n'] rfl] at inside
        simpa [Document.image] using value?_of_items inside
  | record fields =>
    cases depth with
    | zero => simp [Document.fits] at fits
    | succ depth =>
      cases fields with
      | nil => exact value?_empty_record fuel depth rest
      | cons f others =>
        rw [Document.fits] at fits
        rw [indented_record] at enough ⊢
        simp only [List.length_cons, List.length_append, List.length_nil] at enough
        have inside := readsFields f others depth (margin ++ "  ") margin.toList rest fits
          (blank_deeper blank) blank (by omega)
        rw [← members?_gap ['\n'] rfl] at inside
        simpa [Document.image, recordOf_named] using value?_of_members inside

private theorem readsItems_succ (values : ReadsValues fuel) (items : ReadsItems fuel) :
    ReadsItems (fuel + 1) := by
  intro d more depth margin closing rest fits blank blankClosing enough
  rw [Document.allFit, Bool.and_eq_true] at fits
  match more with
  | [] =>
    simp only [indentedItems, String.toList_append, List.length_append] at enough
    have read := values d depth margin _ fits.1 blank (by omega)
      (ends_cons (c := '\n') rfl (closing ++ ']' :: rest))
    rw [← value?_gap _ blank] at read
    simpa [indentedItems, Document.images] using
      items?_last ('\n' :: closing) read (blank_line blankClosing)
  | e :: others =>
    rw [indentedItems_cons] at enough ⊢
    simp only [List.length_append, List.length_cons] at enough
    have inside := items e others depth margin closing rest fits.2 blank blankClosing (by omega)
    rw [← items?_gap ['\n'] rfl] at inside
    have read := values d depth margin _ fits.1 blank (by omega) (ends_cons (c := ',') rfl
      ('\n' :: ((indentedItems margin (e :: others)).toList ++ '\n' :: (closing ++ ']' :: rest))))
    rw [← value?_gap _ blank] at read
    simpa [Document.images] using items?_next read inside

private theorem readsFields_succ (values : ReadsValues fuel) (members : ReadsFields fuel) :
    ReadsFields (fuel + 1) := by
  intro f more depth margin closing rest fits blank blankClosing enough
  obtain ⟨name, d⟩ := f
  rw [Document.fieldsFit, Bool.and_eq_true] at fits
  match more with
  | [] =>
    rw [indentedFields_one] at enough ⊢
    simp only [List.length_append, List.length_cons] at enough
    have read := values d depth margin _ fits.1 blank (by omega)
      (ends_cons (c := '\n') rfl (closing ++ '\x7d' :: rest))
    rw [← value?_gap [' '] rfl] at read
    simpa [Document.fieldImages] using
      members?_last ('\n' :: closing) blank read (blank_line blankClosing)
  | f :: others =>
    rw [indentedFields_cons] at enough ⊢
    simp only [List.length_append, List.length_cons] at enough
    have inside := members f others depth margin closing rest fits.2 blank blankClosing (by omega)
    rw [← members?_gap ['\n'] rfl] at inside
    have read := values d depth margin _ fits.1 blank (by omega) (ends_cons (c := ',') rfl
      ('\n' :: ((indentedFields margin (f :: others)).toList ++
        '\n' :: (closing ++ '\x7d' :: rest))))
    rw [← value?_gap [' '] rfl] at read
    simpa [Document.fieldImages] using members?_next blank read inside

theorem reads_all (fuel : Nat) : ReadsValues fuel ∧ ReadsItems fuel ∧ ReadsFields fuel := by
  induction fuel with
  | zero =>
    refine ⟨?_, ?_, ?_⟩
    · intro d depth margin rest fits blank enough ends
      have := indented_pos margin d
      omega
    · intro d more depth margin closing rest fits blank blankClosing enough
      omega
    · intro f more depth margin closing rest fits blank blankClosing enough
      omega
  | succ fuel ih =>
    obtain ⟨values, items, members⟩ := ih
    exact ⟨readsValues_succ items members, readsItems_succ values items,
      readsFields_succ values members⟩

end Steps

/-- Indented text is read as the image of what was written, unless it nests too deep. -/
theorem scan?_writeIndented {d : Document} (fits : d.fits (nestingLimit - 1) = true) :
    scan? (writeIndented d) = some d.image := by
  have read : value? (2 * (writeIndented d).toList.length + 2) nestingLimit
      (writeIndented d).toList = some (d.image, []) := by
    have read := (reads_all (2 * (writeIndented d).toList.length + 2)).1 d _ "" [] fits rfl
      (Nat.le_add_right _ 2) ends_nil
    rw [List.append_nil] at read
    exact read
  simp only [scan?, read]
  rfl

end Json

end Conformance
