import Conformance.Constraint.Basic
import Conformance.Proofs.Dict
import Conformance.Proofs.Text
import Mathlib.Data.List.Basic

/-! Texts with placeholders, cut into characters and slots. Parameters are put in one after the other. As
long as what is put in makes no placeholder of a parameter that is still to come, the outcome is the text
with all of its slots filled at once. -/
namespace Conformance

/-- A character of a text, or the place of a parameter. -/
inductive Piece where
  | char (c : Char)
  | slot (key : String)
  deriving DecidableEq, Repr

namespace Piece

/-- The text of a piece, given what stands in the slots. -/
def text (fills : String → List Char) : Piece → List Char
  | char c => [c]
  | slot key => fills key

def rename (name : String → String) : Piece → Piece
  | char c => char c
  | slot key => slot (name key)

def isSlot : Piece → Bool
  | char _ => false
  | slot _ => true

end Piece

namespace Template

/-- The placeholder of a parameter. -/
def mark (key : String) : List Char := (Constraint.placeholder key).toList

/-- The text of pieces, given what stands in the slots. -/
def write (fills : String → List Char) (pieces : List Piece) : List Char :=
  pieces.flatMap (Piece.text fills)

/-- Cut a text from left to right; `skip` counts the characters of the placeholder just met that are still
to be passed over. -/
def cutFrom (keys : List String) : Nat → List Char → List Piece
  | _, [] => []
  | skip + 1, _ :: s => cutFrom keys skip s
  | 0, c :: s =>
    match keys.find? fun key => (mark key).isPrefixOf (c :: s) with
    | some key => .slot key :: cutFrom keys ((mark key).length - 1) s
    | none => .char c :: cutFrom keys 0 s

/-- The characters of a text and the placeholders of parameters in it. -/
def cut (keys : List String) (s : String) : List Piece := cutFrom keys 0 s.toList

/-- What stands in the slots when parameters are put in: their values, and the placeholders of all
others. -/
def inserted (params : List (String × String)) (key : String) : List Char :=
  ((Dict.lookup key params).getD (Constraint.placeholder key)).toList

/-- The text with all of its placeholders replaced in one pass. -/
def fillAtOnce (params : Dict String) (s : String) : String :=
  String.ofList (write (inserted params.entries) (cut params.keys s))

/-- The placeholder of a key stands in its slots, and nowhere else. -/
def OnlyInSlots (key : String) (fills : String → List Char) (pieces : List Piece) : Prop :=
  ∀ before after, write fills pieces = before ++ mark key ++ after →
    ∃ left right, pieces = left ++ .slot key :: right ∧ before = write fills left

/-- No placeholder arises: once the parameters before it are put in, the placeholder of a parameter stands
where the text has its slots, and nowhere else. -/
def Undisturbed (params : List (String × String)) (pieces : List Piece) : Prop :=
  ∀ earlier key value later, params = earlier ++ (key, value) :: later →
    OnlyInSlots key (inserted earlier) pieces

/-- A name without the signs of placeholders. -/
def IsPlainName (key : String) : Prop := '$' ∉ key.toList ∧ '\x7d' ∉ key.toList

instance (key : String) : Decidable (IsPlainName key) := inferInstanceAs (Decidable (_ ∧ _))

section Cutting

variable {keys : List String} {fills : String → List Char}

theorem mark_eq (key : String) : mark key = '$' :: '\x7b' :: (key.toList ++ ['\x7d']) := by
  simp [mark, Constraint.placeholder]

theorem mark_ne_nil (key : String) : mark key ≠ [] := by
  rw [mark_eq]
  nofun

theorem eq_of_mark_append {a b : String} (single : '\x7d' ∉ a.toList) (singleToo : '\x7d' ∉ b.toList)
    {x y : List Char} (same : mark a ++ x = mark b ++ y) : a = b := by
  have inner : a.toList ++ '\x7d' :: x = b.toList ++ '\x7d' :: y := by
    rw [mark_eq, mark_eq] at same
    simpa using same
  exact String.toList_inj.1 (Chars.eq_of_append_eq single singleToo inner)

/-- A placeholder has its `$` in front only. -/
private theorem mark_split {key : String} (plain : IsPlainName key) {before more : List Char}
    (split : mark key = before ++ '$' :: more) : before = [] := by
  rw [mark_eq] at split
  cases before with
  | nil => rfl
  | cons c before =>
    have inside : '$' ∈ '\x7b' :: (key.toList ++ ['\x7d']) := by
      rw [(List.cons.inj split).2]
      simp
    simp [plain.1] at inside

theorem write_cons (piece : Piece) (pieces : List Piece) :
    write fills (piece :: pieces) = piece.text fills ++ write fills pieces :=
  List.flatMap_cons

theorem write_append (left right : List Piece) :
    write fills (left ++ right) = write fills left ++ write fills right :=
  List.flatMap_append

theorem write_rename (name : String → String) (pieces : List Piece) :
    write fills (pieces.map (Piece.rename name)) = write (fills ∘ name) pieces := by
  rw [write, List.flatMap_map, write]
  congr 1
  funext piece
  cases piece <;> rfl

theorem write_congr {fills' : String → List Char} {pieces : List Piece}
    (same : ∀ key, .slot key ∈ pieces → fills key = fills' key) :
    write fills pieces = write fills' pieces := by
  refine List.flatMap_congr fun piece member => ?_
  cases piece with
  | char c => rfl
  | slot key => exact same key member

theorem write_cutFrom (skip : Nat) (s : List Char) :
    write mark (cutFrom keys skip s) = s.drop skip := by
  induction s generalizing skip with
  | nil => cases skip <;> rfl
  | cons c s ih =>
    cases skip with
    | succ skip => exact ih skip
    | zero =>
      rw [cutFrom]
      split
      · rename_i key found
        have begins := List.find?_some found
        obtain ⟨rest, split⟩ := List.isPrefixOf_iff_prefix.1 begins
        obtain ⟨first, more, lead⟩ := List.exists_cons_of_ne_nil (mark_ne_nil key)
        rw [write_cons, ih, Piece.text, lead]
        rw [lead, List.cons_append] at split
        obtain ⟨rfl, rfl⟩ := List.cons.inj split
        simp
      · rw [write_cons, ih]
        rfl

/-- A text is put together again from its pieces. -/
theorem write_cut (s : String) : write mark (cut keys s) = s.toList := write_cutFrom 0 s.toList

private theorem cutFrom_skip (passed rest : List Char) :
    cutFrom keys passed.length (passed ++ rest) = cutFrom keys 0 rest := by
  induction passed with
  | nil => rfl
  | cons c passed ih => exact ih

theorem cutFrom_copy {key : String} {c : Char} {s rest : List Char} (whole : mark key ++ rest = c :: s) :
    cutFrom keys ((mark key).length - 1) s = cutFrom keys 0 rest := by
  obtain ⟨first, more, lead⟩ := List.exists_cons_of_ne_nil (mark_ne_nil key)
  rw [lead, List.cons_append] at whole
  obtain ⟨rfl, rfl⟩ := List.cons.inj whole
  rw [lead]
  exact cutFrom_skip more rest

theorem cutFrom_mark (names : ∀ key ∈ keys, '\x7d' ∉ key.toList) {key : String} (given : key ∈ keys)
    (rest : List Char) : cutFrom keys 0 (mark key ++ rest) = .slot key :: cutFrom keys 0 rest := by
  obtain ⟨c, s, whole⟩ : ∃ c s, mark key ++ rest = c :: s :=
    List.exists_cons_of_ne_nil (List.append_ne_nil_of_left_ne_nil (mark_ne_nil key) rest)
  have first : keys.find? (fun other => (mark other).isPrefixOf (c :: s)) = some key := by
    have begins : (keys.find? fun other => (mark other).isPrefixOf (c :: s)).isSome = true :=
      List.find?_isSome.2 ⟨key, given, List.isPrefixOf_iff_prefix.2 ⟨rest, whole⟩⟩
    obtain ⟨other, found⟩ := Option.isSome_iff_exists.1 begins
    have copy : (mark other).isPrefixOf (c :: s) = true := by simpa using List.find?_some found
    obtain ⟨more, wholeToo⟩ := List.isPrefixOf_iff_prefix.1 copy
    have single := names other (List.mem_of_find?_eq_some found)
    rw [found, eq_of_mark_append single (names key given) (wholeToo.trans whole.symm)]
  rw [whole, cutFrom, first]
  exact congrArg (Piece.slot key :: ·) (cutFrom_copy whole)

private theorem mem_keys_of_cutFrom {skip : Nat} {s : List Char} {key : String}
    (member : .slot key ∈ cutFrom keys skip s) : key ∈ keys := by
  induction s generalizing skip with
  | nil => cases skip <;> cases member
  | cons c s ih =>
    cases skip with
    | succ skip => exact ih member
    | zero =>
      rw [cutFrom] at member
      split at member
      · rename_i found
        rcases List.mem_cons.1 member with here | later
        · cases here
          exact List.mem_of_find?_eq_some found
        · exact ih later
      · rcases List.mem_cons.1 member with here | later
        · cases here
        · exact ih later

theorem mem_keys_of_cut {s : String} {key : String} (member : .slot key ∈ cut keys s) : key ∈ keys :=
  mem_keys_of_cutFrom member

end Cutting

section Filling

variable {key : String} {fills : String → List Char} {piece : Piece} {pieces : List Piece}

theorem OnlyInSlots.nil : OnlyInSlots key fills [] := by
  intro before after split
  simp [write, mark_eq] at split

/-- If no placeholder of the key begins inside the first piece, unless this is its slot, then none is
outside of its slots. -/
theorem OnlyInSlots.cons (only : OnlyInSlots key fills pieces)
    (inside : ∀ before more after, piece.text fills = before ++ '$' :: more →
      '$' :: more ++ write fills pieces = mark key ++ after → before = [] ∧ piece = .slot key) :
    OnlyInSlots key fills (piece :: pieces) := by
  intro before after split
  have further (more : List Char) (longer : before = piece.text fills ++ more)
      (later : write fills pieces = more ++ (mark key ++ after)) :
      ∃ left right, piece :: pieces = left ++ .slot key :: right ∧ before = write fills left := by
    obtain ⟨left, right, rfl, rfl⟩ := only more after (later.trans (List.append_assoc ..).symm)
    exact ⟨piece :: left, right, rfl, longer⟩
  rw [write_cons, List.append_assoc] at split
  -- The placeholder begins behind the first piece, or inside it.
  rcases List.append_eq_append_iff.1 split with ⟨more, longer, later⟩ | ⟨more, within, begins⟩
  · exact further more longer later
  · cases more with
    | nil => exact further [] (by rw [within, List.append_nil, List.append_nil]) begins.symm
    | cons first more =>
      obtain rfl : '$' = first := by
        rw [mark_eq] at begins
        exact (List.cons.inj begins).1
      obtain ⟨rfl, rfl⟩ := inside before more after within begins.symm
      exact ⟨[], pieces, rfl, rfl⟩

theorem OnlyInSlots.cons_char {c : Char} (only : OnlyInSlots key fills pieces)
    (absent : ∀ after, c :: write fills pieces ≠ mark key ++ after) :
    OnlyInSlots key fills (.char c :: pieces) := by
  refine only.cons fun before more after split begins => ?_
  cases before with
  | nil =>
    obtain ⟨rfl, rfl⟩ := List.cons.inj split
    exact absurd begins (absent after)
  | cons first before => simp [Piece.text] at split

/-- A slot that holds no `$`, or still its placeholder. -/
theorem OnlyInSlots.cons_slot {other : String} (only : OnlyInSlots key fills pieces)
    (plain : IsPlainName key) (plainToo : IsPlainName other)
    (marked : '$' ∈ fills other → fills other = mark other) :
    OnlyInSlots key fills (.slot other :: pieces) := by
  refine only.cons fun before more after split begins => ?_
  rw [Piece.text] at split
  have text := (marked (by simp [split])).symm.trans split
  obtain rfl := mark_split plainToo text
  rw [← List.nil_append ('$' :: more), ← text] at begins
  exact ⟨rfl, congrArg Piece.slot (eq_of_mark_append plainToo.2 plain.2 begins)⟩

theorem OnlyInSlots.tail (marked : fills key = mark key)
    (only : OnlyInSlots key fills (piece :: pieces)) : OnlyInSlots key fills pieces := by
  intro before after split
  have whole : write fills (piece :: pieces) = (piece.text fills ++ before) ++ mark key ++ after := by
    rw [write_cons, split]
    simp only [List.append_assoc]
  obtain ⟨left, right, parts, same⟩ := only _ _ whole
  cases left with
  | nil =>
    obtain ⟨rfl, rfl⟩ := List.cons.inj parts
    obtain ⟨empty, -⟩ := List.append_eq_nil_iff.1 same
    exact absurd (marked.symm.trans empty) (mark_ne_nil key)
  | cons first left =>
    obtain ⟨rfl, rfl⟩ := List.cons.inj parts
    rw [write_cons, List.append_cancel_left_eq] at same
    exact ⟨left, right, rfl, same⟩

/-- Inside another piece, no placeholder of the key begins. -/
theorem OnlyInSlots.absent (only : OnlyInSlots key fills (piece :: pieces)) (other : piece ≠ .slot key)
    (before after : List Char) (split : piece.text fills = before ++ after) (nonempty : after ≠ []) :
    ¬ mark key <+: after ++ write fills pieces := by
  rintro ⟨rest, copy⟩
  have whole : write fills (piece :: pieces) = before ++ mark key ++ rest := by
    rw [write_cons, split, List.append_assoc, ← copy, List.append_assoc]
  obtain ⟨left, right, parts, same⟩ := only _ _ whole
  cases left with
  | nil => exact other (List.cons.inj parts).1
  | cons first left =>
    obtain ⟨rfl, -⟩ := List.cons.inj parts
    have length := congrArg List.length same
    rw [write_cons, split, List.length_append, List.length_append] at length
    have positive := List.length_pos_iff.2 nonempty
    omega

/-- Putting in one parameter fills its slots. -/
private theorem replaceAll_write (marked : fills key = mark key)
    (only : OnlyInSlots key fills pieces) (value : List Char) :
    Chars.replaceAll (mark key) value (write fills pieces) =
      write (fun other => if other = key then value else fills other) pieces := by
  rw [Chars.replaceAll, if_neg (mark_ne_nil key)]
  induction pieces with
  | nil => rfl
  | cons piece pieces ih =>
    rw [write_cons, write_cons, ← ih (only.tail marked)]
    by_cases here : piece = .slot key
    · subst here
      rw [Piece.text, Piece.text, marked, if_pos rfl]
      exact Chars.replaceFrom_copy (mark_ne_nil key) _
    · rw [Chars.replaceFrom_pass (only.absent here)]
      congr 1
      cases piece with
      | char c => rfl
      | slot other => exact (if_neg fun same => here (congrArg Piece.slot same)).symm

/-- Cutting finds every placeholder. -/
theorem onlyInSlots_cutFrom {keys : List String} (names : ∀ key ∈ keys, IsPlainName key)
    (given : key ∈ keys) : ∀ s, OnlyInSlots key mark (cutFrom keys 0 s)
  | [] => .nil
  | c :: s => by
    rw [cutFrom]
    split
    · rename_i other found
      have named := names other (List.mem_of_find?_eq_some found)
      have copy : (mark other).isPrefixOf (c :: s) = true := by simpa using List.find?_some found
      obtain ⟨rest, whole⟩ := List.isPrefixOf_iff_prefix.1 copy
      rw [cutFrom_copy whole]
      have shorter : rest.length ≤ s.length := by
        have positive := List.length_pos_iff.2 (mark_ne_nil other)
        have length := congrArg List.length whole
        rw [List.length_append, List.length_cons] at length
        omega
      exact (onlyInSlots_cutFrom names given rest).cons_slot (names key given) named fun _ => rfl
    · rename_i none
      refine (onlyInSlots_cutFrom names given s).cons_char fun after begins => ?_
      rw [write_cutFrom, List.drop_zero] at begins
      have absent := List.find?_eq_none.1 none key given
      exact absurd (List.isPrefixOf_iff_prefix.2 ⟨after, begins.symm⟩) absent
termination_by s => s.length

private theorem inserted_concat {done : List (String × String)} {value : String}
    (fresh : key ∉ done.map Prod.fst) :
    inserted (done ++ [(key, value)]) =
      fun other => if other = key then value.toList else inserted done other := by
  funext other
  rw [inserted, Dict.lookup_append]
  by_cases same : other = key
  · subst same
    rw [Dict.lookup_eq_none fresh, if_pos rfl]
    simp [Dict.lookup]
  · rw [if_neg same, inserted]
    simp [Dict.lookup, Ne.symm same]

/-- What the parameters so far gave is filled on by the others. -/
theorem foldl_replaceAll {done todo : List (String × String)}
    (distinct : ((done ++ todo).map Prod.fst).Nodup) (undisturbed : Undisturbed (done ++ todo) pieces) :
    todo.foldl (fun s param => Chars.replaceAll (mark param.1) param.2.toList s)
      (write (inserted done) pieces) = write (inserted (done ++ todo)) pieces := by
  -- The pieces stay the same all the way; only what stands in their slots changes.
  induction todo generalizing done with
  | nil => rw [List.foldl_nil, List.append_nil]
  | cons param todo ih =>
    obtain ⟨key, value⟩ := param
    have fresh : key ∉ done.map Prod.fst := by
      rw [List.map_append, List.nodup_append] at distinct
      exact fun old => distinct.2.2 key old key List.mem_cons_self rfl
    have marked : inserted done key = mark key := by
      rw [inserted, Dict.lookup_eq_none fresh]
      rfl
    have next := replaceAll_write marked (undisturbed done key value todo rfl) value.toList
    rw [List.append_cons] at distinct undisturbed ⊢
    rw [List.foldl_cons, next, ← inserted_concat fresh, ih distinct undisturbed]

private theorem toList_fill (params : Dict String) (s : String) :
    (Constraint.fill params s).toList = params.entries.foldl
      (fun s param => Chars.replaceAll (mark param.1) param.2.toList s) s.toList := by
  refine (List.foldl_hom String.toList fun s param => ?_).symm
  rw [Text.replaceAll, String.toList_ofList, mark]

/-- Parameters that are put in one after the other fill all slots at once. -/
theorem fill_write {params : Dict String} (undisturbed : Undisturbed params.entries pieces) :
    Constraint.fill params (String.ofList (write mark pieces)) =
      String.ofList (write (inserted params.entries) pieces) := by
  have filled : params.entries.foldl (fun s param => Chars.replaceAll (mark param.1) param.2.toList s)
      (write (inserted []) pieces) = write (inserted ([] ++ params.entries)) pieces :=
    foldl_replaceAll params.nodup_keys undisturbed
  rw [← String.toList_inj, toList_fill, String.toList_ofList, String.toList_ofList]
  exact filled

theorem fill_eq {params : Dict String} {s : String}
    (undisturbed : Undisturbed params.entries (cut params.keys s)) :
    Constraint.fill params s = fillAtOnce params s := by
  rw [fillAtOnce, ← fill_write undisturbed, write_cut, String.ofList_toList]

end Filling

/-- Names without the signs of placeholders, no `$` in what comes into the slots; and a `$` of the text that
does not begin a slot comes before some other character than a bracket, or begins the placeholder of no
parameter. -/
structure Plain (params : Dict String) (pieces : List Piece) : Prop where
  names : ∀ key ∈ params.keys, IsPlainName key
  slots : ∀ key, .slot key ∈ pieces → key ∈ params.keys
  values : ∀ key value, .slot key ∈ pieces → params.find? key = some value → '$' ∉ value.toList
  loose : ∀ left right, pieces = left ++ .char '$' :: right →
    (∀ piece ∈ right.head?, ∃ c, piece = .char c ∧ c ≠ '\x7b') ∨
    ∃ name rest, right = ('\x7b' :: (name.toList ++ ['\x7d'])).map .char ++ rest ∧
      '\x7d' ∉ name.toList ∧ name ∉ params.keys

section PlainTexts

variable {params : Dict String} {earlier : List (String × String)} {key : String} {piece : Piece}
  {pieces : List Piece}

theorem Plain.tail (plain : Plain params (piece :: pieces)) : Plain params pieces where
  names := plain.names
  slots key member := plain.slots key (List.mem_cons_of_mem piece member)
  values key value member := plain.values key value (List.mem_cons_of_mem piece member)
  loose left right split := plain.loose (piece :: left) right (congrArg (piece :: ·) split)

/-- A text without `$` outside its slots. -/
theorem Plain.of_no_dollar (names : ∀ key ∈ params.keys, IsPlainName key)
    (values : ∀ value ∈ params.values, '$' ∉ value.toList)
    (slots : ∀ key, .slot key ∈ pieces → key ∈ params.keys) (none : .char '$' ∉ pieces) :
    Plain params pieces where
  names := names
  slots := slots
  values key value _ found := values value (Dict.mem_values found)
  loose left right split := absurd (split ▸ by simp) none

private theorem write_chars (fills : String → List Char) (s : List Char) :
    write fills (s.map .char) = s := by
  induction s with
  | nil => rfl
  | cons c s ih =>
    rw [List.map_cons, write_cons, ih]
    rfl

/-- A `$` of the text begins no placeholder. -/
theorem Plain.not_begins {c : Char} (plain : Plain params (.char c :: pieces)) (given : key ∈ params.keys)
    (fills : String → List Char) (after : List Char) :
    c :: write fills pieces ≠ mark key ++ after := by
  intro begins
  rw [mark_eq, List.cons_append, List.cons_append, List.append_assoc] at begins
  obtain ⟨rfl, inside⟩ := List.cons.inj begins
  rcases plain.loose [] pieces rfl with ends | ⟨name, rest, rfl, single, unknown⟩
  · cases pieces with
    | nil => cases inside
    | cons piece pieces =>
      obtain ⟨c, rfl, other⟩ := ends piece rfl
      exact other (List.cons.inj inside).1
  · rw [write_append, write_chars, List.cons_append, List.append_assoc] at inside
    have split := (List.cons.inj inside).2
    have same := Chars.eq_of_append_eq single (plain.names key given).2 split
    exact unknown (String.toList_inj.1 same ▸ given)

/-- What stands in a slot has a `$` only if it is still a placeholder. -/
theorem Plain.inserted_slot (plain : Plain params pieces) (within : earlier ⊆ params.entries)
    (given : .slot key ∈ pieces) (dollar : '$' ∈ inserted earlier key) :
    inserted earlier key = mark key := by
  unfold inserted at dollar ⊢
  cases found : Dict.lookup key earlier with
  | none => rfl
  | some value =>
    rw [found] at dollar
    have entry := Dict.find?_eq_some.2 (within (Dict.mem_of_lookup found))
    exact absurd dollar (plain.values key value given entry)

theorem Plain.onlyInSlots (plain : Plain params pieces) (within : earlier ⊆ params.entries)
    (given : key ∈ params.keys) : OnlyInSlots key (inserted earlier) pieces := by
  induction pieces with
  | nil => exact .nil
  | cons piece pieces ih =>
    have only := ih plain.tail
    cases piece with
    | char c => exact only.cons_char (plain.not_begins given (inserted earlier))
    | slot other =>
      have named := plain.names other (plain.slots other List.mem_cons_self)
      exact only.cons_slot (plain.names key given) named
        (plain.inserted_slot within List.mem_cons_self)

/-- Among plain names, values and texts, no placeholder arises. -/
theorem Plain.undisturbed (plain : Plain params pieces) : Undisturbed params.entries pieces := by
  intro earlier key value later split
  refine plain.onlyInSlots (fun entry member => ?_) (List.mem_map.2 ⟨(key, value), ?_, rfl⟩)
  · exact split ▸ List.mem_append_left _ member
  · exact split ▸ List.mem_append_right _ List.mem_cons_self

end PlainTexts

end Template

end Conformance
