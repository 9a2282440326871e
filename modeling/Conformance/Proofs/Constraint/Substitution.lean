import Conformance.Proofs.Constraint.Template
import Mathlib.Data.List.Nodup

/-! Putting parameters into a constraint. As long as no placeholder arises on the way, its texts are filled
at once, so the names of parameters do not matter; and a text becomes a number exactly if it begins and
ends with a placeholder and is filled to a numeral. -/
namespace Conformance

namespace Chars

private theorem isDigit_of_digits? {s : List Char} {n : Nat} (read : digits? s = some n) :
    s ≠ [] ∧ ∀ c ∈ s, isDigit c = true := by
  unfold digits? at read
  split at read
  · rename_i shape
    exact ⟨shape.1, List.all_eq_true.1 shape.2⟩
  · cases read

/-- A numeral is made of digits and a sign. -/
private theorem made_of_int64? {s : List Char} {n : Int} (read : int64? s = some n) :
    s ≠ [] ∧ ∀ c ∈ s, isDigit c = true ∨ c = '-' ∨ c = '+' := by
  unfold int64? at read
  split at read
  all_goals
    obtain ⟨mapped, -⟩ := Option.filter_eq_some_iff.1 read
    obtain ⟨m, lifted, -⟩ := Option.map_eq_some_iff.1 mapped
    obtain ⟨k, digits, -⟩ := Option.bind_eq_some_iff.1 lifted
    obtain ⟨nonempty, all⟩ := isDigit_of_digits? digits
  · exact ⟨nofun, by simpa using fun c member => .inl (all c member)⟩
  · exact ⟨nofun, by simpa using fun c member => .inl (all c member)⟩
  · exact ⟨nonempty, fun c member => .inl (all c member)⟩

theorem not_mem_of_int64? {s : List Char} {n : Int} (read : int64? s = some n) :
    '$' ∉ s ∧ '\x7d' ∉ s := by
  constructor
  all_goals
    intro member
    rcases (made_of_int64? read).2 _ member with digit | sign | sign
    · revert digit
      decide
    · revert sign
      decide
    · revert sign
      decide

end Chars

namespace Template

/-- The first piece and the last one are slots. -/
def isEnclosed (pieces : List Piece) : Bool :=
  pieces.head?.any Piece.isSlot && pieces.getLast?.any Piece.isSlot

/-- What a text value is filled to, from its pieces. -/
def valueOf (params : List (String × String)) (pieces : List Piece) : ConstraintValue :=
  ((Chars.int64? (write (inserted params) pieces)).filter fun _ => isEnclosed pieces).elim
    (.text (String.ofList (write (inserted params) pieces))) .number

section Numerals

variable {fills : String → List Char} {pieces : List Piece} {n : Int}

private theorem startsWith_write (numeral : Chars.int64? (write fills pieces) = some n) :
    Chars.startsWith (write mark pieces) ['$', '\x7b'] = pieces.head?.any Piece.isSlot := by
  cases pieces with
  | nil => rfl
  | cons piece pieces =>
    cases piece with
    | slot key =>
      rw [write_cons, Piece.text, mark_eq]
      rfl
    | char c =>
      have other : c ≠ '$' := by
        rintro rfl
        exact (Chars.not_mem_of_int64? numeral).1 List.mem_cons_self
      simp [write_cons, Piece.text, Piece.isSlot, Chars.startsWith, List.isPrefixOf, Ne.symm other]

private theorem endsWith_write (numeral : Chars.int64? (write fills pieces) = some n) :
    Chars.endsWith (write mark pieces) ['\x7d'] = pieces.getLast?.any Piece.isSlot := by
  rcases List.eq_nil_or_concat pieces with rfl | ⟨front, piece, rfl⟩
  · rfl
  · rw [List.concat_eq_append] at numeral ⊢
    rw [write_append, write_cons] at numeral ⊢
    rw [List.getLast?_concat, Option.any_some]
    cases piece with
    | slot key =>
      rw [Piece.text, mark_eq, Chars.endsWith, List.isSuffixOf_iff_suffix.2]
      · rfl
      · exact ⟨write mark front ++ '$' :: '\x7b' :: key.toList, by simp [write]⟩
    | char c =>
      have other : c ≠ '\x7d' := by
        rintro rfl
        exact (Chars.not_mem_of_int64? numeral).2 (by simp [Piece.text])
      simp [Piece.text, Piece.isSlot, Chars.endsWith, write, List.isSuffixOf, List.isPrefixOf,
        Ne.symm other]

end Numerals

section Single

variable {keys : List String} {key : String}

/-- A text that is a placeholder is cut into its one slot. -/
theorem cut_placeholder (names : ∀ key ∈ keys, '\x7d' ∉ key.toList) (given : key ∈ keys) :
    cut keys (Constraint.placeholder key) = [.slot key] := by
  rw [cut, ← List.append_nil (Constraint.placeholder key).toList]
  exact cutFrom_mark names given []

theorem write_slot {params : Dict String} {value : String} (found : params.find? key = some value) :
    write (inserted params.entries) [.slot key] = value.toList := by
  rw [Dict.find?] at found
  rw [write_cons, Piece.text, inserted, found]
  exact List.append_nil _

private theorem plain_slot {params : Dict String} {value : String}
    (names : ∀ key ∈ params.keys, IsPlainName key) (found : params.find? key = some value)
    (none : '$' ∉ value.toList) : Plain params [.slot key] where
  names := names
  slots other member := by
    cases List.mem_singleton.1 member
    exact Dict.mem_keys_iff_exists.2 ⟨value, found⟩
  values other filling member foundToo := by
    cases List.mem_singleton.1 member
    cases found.symm.trans foundToo
    exact none
  loose left right split := by
    have member : .char '$' ∈ [Piece.slot key] := split ▸ by simp
    cases List.mem_singleton.1 member

/-- An enclosed text with one slot at most is that slot. -/
private theorem eq_slot_of_enclosed {pieces : List Piece} (enclosed : isEnclosed pieces = true)
    (few : pieces.countP Piece.isSlot ≤ 1) : ∃ key, pieces = [.slot key] := by
  cases pieces with
  | nil => cases enclosed
  | cons piece rest =>
    cases piece with
    | char c => cases enclosed
    | slot key =>
      refine ⟨key, ?_⟩
      cases rest with
      | nil => rfl
      | cons next rest =>
        have last : (next :: rest).getLast?.any Piece.isSlot = true := by
          simpa [isEnclosed, Piece.isSlot] using enclosed
        rw [List.getLast?_eq_some_getLast (List.cons_ne_nil next rest), Option.any_some] at last
        have more : 0 < (next :: rest).countP Piece.isSlot :=
          List.countP_pos_iff.2 ⟨_, List.getLast_mem _, last⟩
        rw [List.countP_cons_of_pos (show Piece.isSlot (.slot key) = true from rfl)] at few
        omega

end Single

section Values

variable {params : Dict String} {pieces : List Piece} {s : String}

theorem fillValue_write (undisturbed : Undisturbed params.entries pieces) :
    Constraint.fillValue params (.text (String.ofList (write mark pieces))) =
      valueOf params.entries pieces := by
  have lead : "$\x7b".toList = ['$', '\x7b'] := by simp
  have close : "\x7d".toList = ['\x7d'] := by simp
  simp only [Constraint.fillValue, fill_write undisturbed, String.toList_ofList, valueOf,
    Text.startsWith, Text.endsWith, lead, close]
  cases numeral : Chars.int64? (write (inserted params.entries) pieces) with
  | none => rfl
  | some n =>
    simp only [startsWith_write numeral, endsWith_write numeral, isEnclosed, Option.filter_some]
    split <;> rfl

theorem fillValue_text (undisturbed : Undisturbed params.entries (cut params.keys s)) :
    Constraint.fillValue params (.text s) = valueOf params.entries (cut params.keys s) := by
  rw [← fillValue_write undisturbed, write_cut, String.ofList_toList]

theorem valueOf_eq_number {n : Int} : valueOf params.entries pieces = .number n ↔
    isEnclosed pieces = true ∧ Chars.int64? (write (inserted params.entries) pieces) = some n := by
  rw [and_comm, ← Option.filter_eq_some_iff (p := fun _ => isEnclosed pieces), valueOf]
  cases (Chars.int64? (write (inserted params.entries) pieces)).filter fun _ => isEnclosed pieces with
  | none => simp
  | some m => simp

theorem valueOf_eq_text (none : ∀ n, valueOf params.entries pieces ≠ .number n) :
    valueOf params.entries pieces = .text (String.ofList (write (inserted params.entries) pieces)) := by
  unfold valueOf at none ⊢
  cases numeral : (Chars.int64? (write (inserted params.entries) pieces)).filter
      fun _ => isEnclosed pieces with
  | none => rfl
  | some n => exact absurd (by rw [numeral]; rfl) (none n)

end Values

end Template

/-- A value with its texts replaced. -/
def ConstraintValue.mapTexts (f : String → String) : ConstraintValue → ConstraintValue
  | .text s => .text (f s)
  | .list items => .list (items.map f)
  | value => value

/-- A value, or the number that its text is read as. -/
inductive ConstraintValue.ReadAs : ConstraintValue → ConstraintValue → Prop where
  | same (value : ConstraintValue) : ReadAs value value
  | number {s : String} {n : Int} (reads : Chars.int64? s.toList = some n) :
    ReadAs (.text s) (.number n)

namespace Constraint

/-- The texts that parameters are put into. -/
def texts (c : Constraint) : List String := c.value.toList?.getD [] ++ c.why.toList

/-- The constraint with its texts replaced. -/
def mapTexts (f : String → String) (c : Constraint) : Constraint :=
  { c with value := c.value.mapTexts f, why := c.why.map f }

section NoParameters

variable {params : Dict String} (empty : params.isEmpty = true)

include empty

theorem fill_none : fill params = id := by
  rw [Dict.isEmpty, List.isEmpty_iff] at empty
  funext s
  rw [fill, empty]
  rfl

/-- A numeral does not begin with a placeholder, so it stays a text. -/
private theorem fillValue_none (value : ConstraintValue) : fillValue params value = value := by
  cases value with
  | text s =>
    simp only [fillValue, fill_none empty, id]
    cases numeral : Chars.int64? s.toList with
    | none => rfl
    | some n =>
      have first : Text.startsWith s "$\x7b" = false := by
        rw [Bool.eq_false_iff]
        intro begins
        have lead := (List.isPrefixOf_iff_prefix.1 begins).subset (a := '$') (by simp)
        exact (Chars.not_mem_of_int64? numeral).1 lead
      simp [first]
  | list items => rw [fillValue, fill_none empty, List.map_id]
  | number | coverage => rfl

end NoParameters

/-- Without parameters nothing is put in, so the case needs no mention. -/
theorem substitute_eq (c : Constraint) (params : Dict String) : c.substitute params =
    { c with value := fillValue params c.value, why := c.why.map (fill params) } := by
  rw [substitute]
  split
  · rename_i empty
    rw [fillValue_none empty, fill_none empty, Option.map_id]
    rfl
  · rfl

end Constraint

namespace Template

/-- Parameters under other names. -/
def renameKeys (name : String → String) (params : Dict String) : Dict String :=
  .ofList (params.entries.map fun param => (name param.1, param.2))

/-- The text with its placeholders under other names. -/
def renamed (name : String → String) (params : Dict String) (s : String) : String :=
  String.ofList (write mark ((cut params.keys s).map (Piece.rename name)))

section Renaming

variable {name : String → String} {params : Dict String} {s : String}

/-- The new names of two parameters are different. -/
def KeepsApart (name : String → String) (params : Dict String) : Prop :=
  ∀ a ∈ params.keys, ∀ b ∈ params.keys, name a = name b → a = b

theorem find?_renameKeys (apart : KeepsApart name params) {key value : String}
    (found : params.find? key = some value) :
    (renameKeys name params).find? (name key) = some value := by
  have names : (params.entries.map fun param => (name param.1, param.2)).map Prod.fst =
      params.keys.map name := by
    simp [Dict.keys]
  have distinct : ((params.entries.map fun param => (name param.1, param.2)).map Prod.fst).Nodup := by
    rw [names]
    exact List.Nodup.map_on apart params.nodup_keys
  exact (Dict.find?_ofList_of_nodup distinct).2
    (List.mem_map.2 ⟨(key, value), Dict.find?_eq_some.1 found, rfl⟩)

/-- Under their new names, slots are filled as before. -/
theorem write_renamed (apart : KeepsApart name params) (s : String) :
    write (inserted (renameKeys name params).entries) ((cut params.keys s).map (Piece.rename name)) =
      write (inserted params.entries) (cut params.keys s) := by
  rw [write_rename]
  refine write_congr fun key member => ?_
  obtain ⟨value, found⟩ := Dict.mem_keys_iff_exists.1 (mem_keys_of_cut member)
  have kept := find?_renameKeys apart found
  rw [Dict.find?] at found kept
  rw [Function.comp, inserted, inserted, found, kept]
  rfl

private theorem mem_keys_of_renamed (apart : KeepsApart name params) {key : String}
    (member : .slot key ∈ (cut params.keys s).map (Piece.rename name)) :
    key ∈ (renameKeys name params).keys := by
  obtain ⟨piece, inside, same⟩ := List.mem_map.1 member
  cases piece with
  | char c => cases same
  | slot old =>
    cases same
    obtain ⟨value, found⟩ := Dict.mem_keys_iff_exists.1 (mem_keys_of_cut inside)
    exact Dict.mem_keys_iff_exists.2 ⟨value, find?_renameKeys apart found⟩

private theorem isEnclosed_rename (pieces : List Piece) :
    isEnclosed (pieces.map (Piece.rename name)) = isEnclosed pieces := by
  have same (piece : Piece) : (piece.rename name).isSlot = piece.isSlot := by
    cases piece <;> rfl
  simp only [isEnclosed, List.head?_map, List.getLast?_map, Option.any_map, same]

theorem fill_renamed (apart : KeepsApart name params)
    (undisturbed : Undisturbed params.entries (cut params.keys s))
    (undisturbedToo : Undisturbed (renameKeys name params).entries
      ((cut params.keys s).map (Piece.rename name))) :
    Constraint.fill (renameKeys name params) (renamed name params s) = Constraint.fill params s := by
  rw [renamed, fill_write undisturbedToo, fill_eq undisturbed, write_renamed apart, fillAtOnce]

private theorem fillValue_renamed (apart : KeepsApart name params)
    (undisturbed : Undisturbed params.entries (cut params.keys s))
    (undisturbedToo : Undisturbed (renameKeys name params).entries
      ((cut params.keys s).map (Piece.rename name))) :
    Constraint.fillValue (renameKeys name params) (.text (renamed name params s)) =
      Constraint.fillValue params (.text s) := by
  rw [renamed, fillValue_write undisturbedToo, fillValue_text undisturbed, valueOf, valueOf,
    write_renamed apart, isEnclosed_rename]

end Renaming

end Template

namespace Constraint

open Template

section Filling

variable {c : Constraint} {params : Dict String} {s : String}

theorem mem_texts_of_text (value : c.value = .text s) : s ∈ c.texts := by
  simp [texts, value, ConstraintValue.toList?]

theorem mem_texts_of_list {items : List String} (value : c.value = .list items) (member : s ∈ items) :
    s ∈ c.texts := by
  simp [texts, value, ConstraintValue.toList?, member]

theorem mem_texts_of_why (why : s ∈ c.why) : s ∈ c.texts := by
  simp [texts, Option.mem_toList.2 why]

private theorem readAs_fillValue
    (undisturbed : ∀ s ∈ c.texts, Undisturbed params.entries (cut params.keys s)) :
    (c.value.mapTexts (fillAtOnce params)).ReadAs (fillValue params c.value) := by
  cases value : c.value with
  | text s =>
    rw [fillValue_text (undisturbed s (mem_texts_of_text value)), ConstraintValue.mapTexts]
    by_cases number : ∃ n, valueOf params.entries (cut params.keys s) = .number n
    · obtain ⟨n, becomes⟩ := number
      have reads := (valueOf_eq_number.1 becomes).2
      rw [becomes]
      exact .number (by rwa [fillAtOnce, String.toList_ofList])
    · rw [valueOf_eq_text (not_exists.1 number)]
      exact .same _
  | list items =>
    have same : items.map (fillAtOnce params) = items.map (fill params) :=
      List.map_congr_left fun s member =>
        (fill_eq (undisturbed s (mem_texts_of_list value member))).symm
    rw [ConstraintValue.mapTexts, same]
    exact .same _
  | number | coverage => exact .same _

private theorem fillValue_mapTexts {name : String → String} (apart : KeepsApart name params)
    (undisturbed : ∀ s ∈ c.texts, Undisturbed params.entries (cut params.keys s))
    (undisturbedToo : ∀ s ∈ c.texts, Undisturbed (renameKeys name params).entries
      ((cut params.keys s).map (Piece.rename name))) :
    fillValue (renameKeys name params) (c.value.mapTexts (renamed name params)) =
      fillValue params c.value := by
  cases value : c.value with
  | text s =>
    have member := mem_texts_of_text value
    exact fillValue_renamed apart (undisturbed s member) (undisturbedToo s member)
  | list items =>
    rw [ConstraintValue.mapTexts, fillValue, fillValue, List.map_map]
    refine congrArg ConstraintValue.list (List.map_congr_left fun s inside => ?_)
    have member := mem_texts_of_list value inside
    exact fill_renamed apart (undisturbed s member) (undisturbedToo s member)
  | number | coverage => rfl

end Filling

/-- As long as no placeholder arises on the way, those of a constraint are replaced in one pass, in its
value and its reason alone, and the names of the parameters do not matter. -/
theorem placeholders_are_filled_at_once (c : Constraint) (params : Dict String) :
    c.substitute params =
      { c with value := (c.substitute params).value, why := (c.substitute params).why } ∧
    ((∀ s ∈ c.texts, Undisturbed params.entries (cut params.keys s)) →
      (c.value.mapTexts (fillAtOnce params)).ReadAs (c.substitute params).value ∧
      (c.substitute params).why = c.why.map (fillAtOnce params) ∧
      ∀ name : String → String, KeepsApart name params →
        (∀ s ∈ c.texts, Undisturbed (renameKeys name params).entries
          ((cut params.keys s).map (Piece.rename name))) →
        (c.mapTexts (renamed name params)).substitute (renameKeys name params) = c.substitute params) ∧
    ((∀ key ∈ params.keys, IsPlainName key) →
      ∀ s ∈ c.texts, ∀ key ∈ params.keys, OnlyInSlots key mark (cut params.keys s)) := by
  refine ⟨by rw [substitute_eq], fun undisturbed => ⟨?_, ?_, fun name apart undisturbedToo => ?_⟩,
    fun names s _ key given => onlyInSlots_cutFrom names given s.toList⟩
  · rw [substitute_eq]
    exact readAs_fillValue undisturbed
  · rw [substitute_eq]
    exact Option.map_congr fun s why => fill_eq (undisturbed s (mem_texts_of_why why))
  · have reason : (c.why.map (renamed name params)).map (fill (renameKeys name params)) =
        c.why.map (fill params) := by
      rw [Option.map_map]
      refine Option.map_congr fun s why => ?_
      have member := mem_texts_of_why why
      exact fill_renamed apart (undisturbed s member) (undisturbedToo s member)
    rw [substitute_eq, substitute_eq, mapTexts, reason,
      fillValue_mapTexts apart undisturbed undisturbedToo]

namespace Parameters

/-- Names that swap the order of two parameters. -/
def swap (key : String) : String := if key = "a" then "b" else if key = "b" then "a" else key

/-- A value that looks like a set of alternatives of a path. -/
def folders : Dict String := .ofList [("a", "src/\x7bapp,lib\x7d"), ("b", "core")]

def onFolders : Constraint where
  rule := "forbid_import"
  value := .list ["$\x7ba\x7d/*.ts", "$\x7bb\x7d/$\x7ba\x7d"]
  why := some "$\x7bb\x7d is below $\x7ba\x7d"

/-- A value that names the other parameter. -/
def chained : Dict String := .ofList [("a", placeholder "b"), ("b", "x")]

def onChained : Constraint := .ofRule .forbidPattern (.text (placeholder "a"))

end Parameters

open Parameters in
theorem swapped_names_give_the_same :
    (∀ s ∈ onFolders.texts, Undisturbed folders.entries (cut folders.keys s)) ∧
    (onFolders.mapTexts (renamed swap folders)).substitute (renameKeys swap folders) =
      onFolders.substitute folders ∧
    (onFolders.substitute folders).why = some "core is below src/\x7bapp,lib\x7d" := by
  have apart : KeepsApart swap folders := by
    unfold KeepsApart
    decide +kernel
  have undisturbed : ∀ s ∈ onFolders.texts, Undisturbed folders.entries (cut folders.keys s) := by
    have none : ∀ s ∈ onFolders.texts, .char '$' ∉ cut folders.keys s := by decide +kernel
    intro s member
    exact (Plain.of_no_dollar (by decide +kernel) (by decide +kernel) (fun _ => mem_keys_of_cut)
      (none s member)).undisturbed
  have undisturbedToo : ∀ s ∈ onFolders.texts, Undisturbed (renameKeys swap folders).entries
      ((cut folders.keys s).map (Piece.rename swap)) := by
    have none : ∀ s ∈ onFolders.texts,
        .char '$' ∉ (cut folders.keys s).map (Piece.rename swap) := by decide +kernel
    intro s member
    exact (Plain.of_no_dollar (by decide +kernel) (by decide +kernel)
      (fun _ => mem_keys_of_renamed apart) (none s member)).undisturbed
  obtain ⟨-, atOnce, -⟩ := placeholders_are_filled_at_once onFolders folders
  obtain ⟨-, why, otherNames⟩ := atOnce undisturbed
  refine ⟨undisturbed, otherNames swap apart undisturbedToo, why.trans ?_⟩
  decide +kernel

open Parameters in
/-- What is put in for the first parameter is filled by the second one, unless the names are swapped. -/
theorem inserted_placeholder_is_filled :
    (onChained.substitute chained).value = .text "x" ∧
    onChained.value.mapTexts (fillAtOnce chained) = .text (placeholder "b") ∧
    ((onChained.mapTexts (renamed swap chained)).substitute (renameKeys swap chained)).value =
      .text (placeholder "b") := by
  decide +kernel

/-- As long as no placeholder arises on the way, a text value becomes a number exactly if a placeholder
stands at either end and it is filled to a numeral. -/
theorem enclosed_numerals_become_numbers (c : Constraint) (params : Dict String) :
    ((∀ key ∈ params.keys, IsPlainName key) →
      ∀ key value n, params.find? key = some value → Chars.int64? value.toList = some n →
        c.value = .text (placeholder key) → (c.substitute params).value = .number n) ∧
    (∀ s, c.value = .text s → Undisturbed params.entries (cut params.keys s) →
      (∀ n, (c.substitute params).value = .number n ↔
        isEnclosed (cut params.keys s) = true ∧ Chars.int64? (fillAtOnce params s).toList = some n) ∧
      ((∀ n, (c.substitute params).value ≠ .number n) →
        (c.substitute params).value = .text (fillAtOnce params s)) ∧
      ((∀ key ∈ params.keys, '\x7d' ∉ key.toList) →
        (cut params.keys s).countP Piece.isSlot ≤ 1 →
        ∀ n, (c.substitute params).value = .number n ↔ ∃ key value, params.find? key = some value ∧
          s = placeholder key ∧ Chars.int64? value.toList = some n)) ∧
    ∀ items, c.value = .list items →
      ∃ filled, (c.substitute params).value = .list filled ∧ filled.length = items.length := by
  refine ⟨fun names key value n found numeral text => ?_, fun s text undisturbed => ?_,
    fun items list => ?_⟩
  · have given : key ∈ params.keys := Dict.mem_keys_iff_exists.2 ⟨value, found⟩
    have single := cut_placeholder (fun other member => (names other member).2) given
    have undisturbed := (plain_slot names found (Chars.not_mem_of_int64? numeral).1).undisturbed
    rw [substitute_eq, text]
    refine (fillValue_text (single ▸ undisturbed)).trans ?_
    rw [single, valueOf_eq_number, write_slot found]
    exact ⟨rfl, numeral⟩
  · have value : (c.substitute params).value = valueOf params.entries (cut params.keys s) := by
      rw [substitute_eq]
      exact text ▸ fillValue_text undisturbed
    have number (n : Int) : (c.substitute params).value = .number n ↔
        isEnclosed (cut params.keys s) = true ∧
          Chars.int64? (fillAtOnce params s).toList = some n := by
      rw [value, valueOf_eq_number, fillAtOnce, String.toList_ofList]
    refine ⟨number, fun none => ?_, fun names few n => (number n).trans ⟨?_, ?_⟩⟩
    · rw [value] at none ⊢
      exact valueOf_eq_text none
    · rintro ⟨enclosed, numeral⟩
      obtain ⟨key, single⟩ := eq_slot_of_enclosed enclosed few
      have given := mem_keys_of_cut (single ▸ List.mem_singleton_self (Piece.slot key))
      obtain ⟨filling, found⟩ := Dict.mem_keys_iff_exists.1 given
      refine ⟨key, filling, found, String.toList_inj.1 ?_, ?_⟩
      · rw [← write_cut s, single]
        exact List.append_nil _
      · rwa [fillAtOnce, single, write_slot found, String.toList_ofList] at numeral
    · rintro ⟨key, filling, found, rfl, numeral⟩
      have given : key ∈ params.keys := Dict.mem_keys_iff_exists.2 ⟨filling, found⟩
      rw [fillAtOnce, cut_placeholder names given, write_slot found, String.toList_ofList]
      exact ⟨rfl, numeral⟩
  · rw [substitute_eq, list]
    exact ⟨items.map (fill params), rfl, List.length_map _⟩

namespace Parameters

def limits : Dict String := .ofList [("high", "2"), ("low", "1"), ("max", "+250")]

end Parameters

open Parameters in
theorem limits_from_parameters :
    ((ofRule .maxFileLines (.text (placeholder "max"))).substitute limits).value = .number 250 ∧
    ((ofRule .maxFileLines (.text "$\x7blow\x7d0$\x7bhigh\x7d")).substitute limits).value =
      .number 102 := by
  have names : ∀ key ∈ limits.keys, IsPlainName key := by decide +kernel
  constructor
  · obtain ⟨whole, -⟩ :=
      enclosed_numerals_become_numbers (ofRule .maxFileLines (.text (placeholder "max"))) limits
    exact whole names "max" "+250" 250 (by decide +kernel) (by decide +kernel) rfl
  · have plain : Plain limits (cut limits.keys "$\x7blow\x7d0$\x7bhigh\x7d") :=
      .of_no_dollar names (by decide +kernel) (fun _ => mem_keys_of_cut) (by decide +kernel)
    obtain ⟨-, texts, -⟩ := enclosed_numerals_become_numbers
      (ofRule .maxFileLines (.text "$\x7blow\x7d0$\x7bhigh\x7d")) limits
    obtain ⟨number, -, -⟩ := texts _ rfl plain.undisturbed
    exact (number 102).2 (by decide +kernel)

open Parameters in
/-- Two placeholders in a row are not the placeholder of a parameter, and become a number. -/
theorem placeholders_in_a_row_become_number :
    ((ofRule .maxFileLines (.text "$\x7blow\x7d$\x7bhigh\x7d")).substitute limits).value =
      .number 12 ∧
    ∀ key, "$\x7blow\x7d$\x7bhigh\x7d" = placeholder key → limits.find? key = none := by
  refine ⟨by decide +kernel, fun key same => ?_⟩
  have whole : "low\x7d$\x7bhigh".toList ++ ['\x7d'] = key.toList ++ ['\x7d'] := by
    simpa [placeholder] using congrArg String.toList same
  rw [← String.toList_inj.1 (List.append_cancel_right whole)]
  decide +kernel

end Constraint

end Conformance
