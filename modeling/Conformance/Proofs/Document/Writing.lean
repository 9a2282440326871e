import Conformance.Proofs.Document.Scalars

/-! Compact text says what was written: no two documents without unreadable parts share a text, not
even when more follows. -/
namespace Conformance.Json

section Numbers

theorem toDigits_cancel {m n : Nat} {s t : List Char} (stops : NoDigit s) (stopsToo : NoDigit t)
    (same : Nat.toDigits 10 m ++ s = Nat.toDigits 10 n ++ t) : m = n ∧ s = t := by
  obtain ⟨taken, dropped⟩ := takeWhile_toDigits m stops
  obtain ⟨takenToo, droppedToo⟩ := takeWhile_toDigits n stopsToo
  rw [same] at taken dropped
  refine ⟨?_, dropped.symm.trans droppedToo⟩
  have read := digits?_toDigits m
  rw [taken.symm.trans takenToo, digits?_toDigits] at read
  exact (Option.some.inj read).symm

theorem toString_cancel {m n : Int} {s t : List Char} (stops : NoDigit s) (stopsToo : NoDigit t)
    (same : (toString m).toList ++ s = (toString n).toList ++ t) : m = n ∧ s = t := by
  rw [Int.toString_eq_repr, Int.toString_eq_repr, Int.repr_eq_if, Int.repr_eq_if] at same
  split at same <;> split at same
  · rw [Nat.toList_repr, Nat.toList_repr] at same
    obtain ⟨magnitude, rest⟩ := toDigits_cancel stops stopsToo same
    exact ⟨by omega, rest⟩
  · rw [Nat.toList_repr, String.toList_append] at same
    exact absurd same (toDigits_ne_minus _ _ _)
  · rw [Nat.toList_repr, String.toList_append] at same
    exact absurd same.symm (toDigits_ne_minus _ _ _)
  · rw [String.toList_append, String.toList_append, Nat.toList_repr, Nat.toList_repr] at same
    obtain ⟨magnitude, rest⟩ := toDigits_cancel stops stopsToo (List.cons.inj same).2
    exact ⟨by omega, rest⟩

theorem noDigit_exponent (s : List Char) : NoDigit ('e' :: s) := by
  rintro c more same
  cases same
  rfl

end Numbers

theorem quote_cancel {a b : String} {s t : List Char}
    (same : (quote a).toList ++ s = (quote b).toList ++ t) : a = b ∧ s = t := by
  have chars (x : String) (rest : List Char) :
      (quote x).toList ++ rest = '\"' :: (x.toList.flatMap escape ++ '\"' :: rest) := by
    simp [quote]
  rw [chars, chars] at same
  have read := units?_flatMap_escape a.toList [] s
  rw [(List.cons.inj same).2, units?_flatMap_escape] at read
  obtain ⟨units, rest⟩ := Prod.mk.inj (Option.some.inj read)
  have texts := congrArg textOf? (List.append_cancel_left units)
  rw [textOf?_chars, textOf?_chars, String.ofList_toList, String.ofList_toList] at texts
  exact ⟨(Option.some.inj texts).symm, rest.symm⟩

/-- The kind of a value, by the character that its text starts with. -/
inductive Lead where
  | null | yes | no | number | text | list | record | other
  deriving DecidableEq

def Lead.of (c : Char) : Lead :=
  if c = 'n' then null else if c = 't' then yes else if c = 'f' then no else
  if c = '-' ∨ Chars.isDigit c = true then number else if c = '\"' then text else
  if c = '[' then list else if c = '\x7b' then record else other

/-- The kind of a value. -/
def leadOf : Document → Lead
  | .null | .unreadable => .null
  | .bool true => .yes
  | .bool false => .no
  | .int _ | .decimal _ _ => .number
  | .text _ => .text
  | .list _ => .list
  | .record _ => .record

theorem Lead.of_number {c : Char} (first : c = '-' ∨ Chars.isDigit c = true) :
    Lead.of c = .number := by
  have letter {d : Char} (known : ¬ (d = '-' ∨ Chars.isDigit d = true)) : c ≠ d := by
    rintro rfl
    exact known first
  unfold Lead.of
  rw [if_neg (letter (by decide)), if_neg (letter (by decide)), if_neg (letter (by decide)),
    if_pos first]

theorem write_cons (d : Document) : ∃ c more, (write d).toList = c :: more ∧
    Lead.of c = leadOf d := by
  match d with
  | .null | .unreadable => exact ⟨'n', "ull".toList, by simp [write], rfl⟩
  | .bool true => exact ⟨'t', "rue".toList, by simp [write], rfl⟩
  | .bool false => exact ⟨'f', "alse".toList, by simp [write], rfl⟩
  | .int n =>
    obtain ⟨c, more, chars, first⟩ := toString_cons n
    exact ⟨c, more, by rw [write, chars], Lead.of_number first⟩
  | .decimal n e =>
    obtain ⟨c, more, chars, first⟩ := toString_cons n
    refine ⟨c, more ++ 'e' :: (toString e).toList, ?_, Lead.of_number first⟩
    rw [write, decimalText, String.toList_append, String.toList_append, chars]
    simp
  | .text t => exact ⟨'\"', t.toList.flatMap escape ++ ['\"'], by simp [write, quote], rfl⟩
  | .list items => exact ⟨'[', (writeItems items).toList ++ [']'], by simp [write], rfl⟩
  | .record fields => exact ⟨'\x7b', (writeFields fields).toList ++ ['\x7d'], by simp [write], rfl⟩

section Sequences

variable {α : Type} {text : List α → String}

/-- What follows the first of several values. -/
def after (text : List α → String) : List α → String
  | [] => ""
  | a :: rest => "," ++ text (a :: rest)

theorem ends_after {close : Char} (closes : isEnd close = true) (rest : List α) (s : List Char) :
    Ends ((after text rest).toList ++ close :: s) := by
  cases rest with
  | nil => exact ends_cons closes s
  | cons a rest =>
    rw [after, String.toList_append]
    exact ends_cons (c := ',') rfl _

/-- Two sequences go on alike: both end, or neither does. -/
theorem after_cancel {close : Char} (closes : close ≠ ',') {as bs : List α} {s t : List Char}
    (same : (after text as).toList ++ close :: s = (after text bs).toList ++ close :: t) :
    (as = [] ∧ bs = [] ∧ s = t) ∨
      (text as).toList.length < (after text as).toList.length ∧
        (text as).toList ++ close :: s = (text bs).toList ++ close :: t := by
  cases as with
  | nil =>
    cases bs with
    | nil => exact .inl ⟨rfl, rfl, (List.cons.inj same).2⟩
    | cons b bs =>
      rw [after, after, String.toList_append] at same
      exact absurd (List.cons.inj same).1 closes
  | cons a as =>
    cases bs with
    | nil =>
      rw [after, after, String.toList_append] at same
      exact absurd (List.cons.inj same).1.symm closes
    | cons b bs =>
      refine .inr ⟨?_, ?_⟩
      · simp [after]
      · rw [after, after, String.toList_append, String.toList_append] at same
        exact (List.cons.inj same).2

end Sequences

theorem writeItems_cons (d : Document) (rest : List Document) (s : List Char) :
    (writeItems (d :: rest)).toList ++ s =
      (write d).toList ++ ((after writeItems rest).toList ++ s) := by
  cases rest with
  | nil => simp [writeItems, after]
  | cons e rest => simp [writeItems, after]

theorem writeFields_cons (name : String) (d : Document) (rest : List (String × Document))
    (s : List Char) :
    (writeFields ((name, d) :: rest)).toList ++ s =
      (quote name).toList ++ ':' :: ((write d).toList ++ ((after writeFields rest).toList ++ s)) := by
  cases rest with
  | nil => simp [writeFields, after]
  | cons e rest => simp [writeFields, after]

private theorem leadOf_ne_other (d : Document) : leadOf d ≠ .other := by
  cases d with
  | bool b => cases b <;> nofun
  | _ => nofun

theorem write_ne_other {c : Char} (other : Lead.of c = .other) (d : Document) (s t : List Char) :
    (write d).toList ++ s ≠ c :: t := by
  intro same
  obtain ⟨first, more, chars, lead⟩ := write_cons d
  rw [chars] at same
  cases same
  exact leadOf_ne_other d (lead.symm.trans other)

section Parts

variable {size : Nat}

/-- Up to a size, a written value is known from any text that starts with it. -/
def PrefixFree (size : Nat) : Prop :=
  ∀ (d e : Document) (s t : List Char), (write d).toList.length ≤ size → d.isReadable = true →
    e.isReadable = true → Ends s → Ends t →
    (write d).toList ++ s = (write e).toList ++ t → d = e ∧ s = t

theorem items_cancel (values : PrefixFree size) {ds es : List Document} {s t : List Char}
    (bounded : (writeItems ds).toList.length ≤ size) (readable : Document.areReadable ds = true)
    (readableToo : Document.areReadable es = true)
    (same : (writeItems ds).toList ++ ']' :: s = (writeItems es).toList ++ ']' :: t) :
    ds = es ∧ s = t := by
  induction ds generalizing es with
  | nil =>
    cases es with
    | nil => exact ⟨rfl, (List.cons.inj same).2⟩
    | cons e es =>
      rw [writeItems_cons] at same
      exact absurd same.symm (write_ne_other rfl e _ _)
  | cons d ds ih =>
    have length := congrArg List.length (writeItems_cons d ds [])
    simp only [List.append_nil, List.length_append] at length
    rw [writeItems_cons] at same
    rw [Document.areReadable, Bool.and_eq_true] at readable
    cases es with
    | nil => exact absurd same (write_ne_other rfl d _ _)
    | cons e es =>
      rw [writeItems_cons] at same
      rw [Document.areReadable, Bool.and_eq_true] at readableToo
      obtain ⟨rfl, rest⟩ := values d e _ _ (by omega) readable.1 readableToo.1
        (ends_after rfl ds s) (ends_after rfl es t) same
      rcases after_cancel (by decide) rest with ⟨rfl, rfl, tail⟩ | ⟨shorter, others⟩
      · exact ⟨rfl, tail⟩
      · obtain ⟨rfl, tail⟩ := ih (by omega) readable.2 readableToo.2 others
        exact ⟨rfl, tail⟩

theorem quote_ne_brace (name : String) (s t : List Char) :
    (quote name).toList ++ s ≠ '\x7d' :: t := write_ne_other rfl (.text name) s t

private theorem fields_cancel (values : PrefixFree size) {fs gs : List (String × Document)}
    {s t : List Char} (bounded : (writeFields fs).toList.length ≤ size)
    (readable : Document.haveReadable fs = true) (readableToo : Document.haveReadable gs = true)
    (same : (writeFields fs).toList ++ '\x7d' :: s = (writeFields gs).toList ++ '\x7d' :: t) :
    fs = gs ∧ s = t := by
  induction fs generalizing gs with
  | nil =>
    cases gs with
    | nil => exact ⟨rfl, (List.cons.inj same).2⟩
    | cons g gs =>
      rw [writeFields_cons] at same
      exact absurd same.symm (quote_ne_brace _ _ _)
  | cons f fs ih =>
    obtain ⟨name, d⟩ := f
    have length := congrArg List.length (writeFields_cons name d fs [])
    simp only [List.append_nil, List.length_append, List.length_cons] at length
    rw [writeFields_cons] at same
    rw [Document.haveReadable, Bool.and_eq_true] at readable
    cases gs with
    | nil => exact absurd same (quote_ne_brace _ _ _)
    | cons g gs =>
      obtain ⟨other, e⟩ := g
      rw [writeFields_cons] at same
      rw [Document.haveReadable, Bool.and_eq_true] at readableToo
      obtain ⟨rfl, value⟩ := quote_cancel same
      obtain ⟨rfl, rest⟩ := values d e _ _ (by omega) readable.1 readableToo.1
        (ends_after rfl fs s) (ends_after rfl gs t) (List.cons.inj value).2
      rcases after_cancel (by decide) rest with ⟨rfl, rfl, tail⟩ | ⟨shorter, others⟩
      · exact ⟨rfl, tail⟩
      · obtain ⟨rfl, tail⟩ := ih (by omega) readable.2 readableToo.2 others
        exact ⟨rfl, tail⟩

end Parts

theorem ends_ne_exponent {s t : List Char} (ends : Ends s) : s ≠ 'e' :: t := by
  rintro rfl
  exact absurd (ends 'e' t rfl) (by decide)

theorem write_decimal (n e : Int) (s : List Char) :
    (write (.decimal n e)).toList ++ s = (toString n).toList ++ 'e' :: ((toString e).toList ++ s) := by
  rw [write, decimalText, String.toList_append, String.toList_append]
  simp

theorem write_list (items : List Document) (s : List Char) :
    (write (.list items)).toList ++ s = '[' :: ((writeItems items).toList ++ ']' :: s) := by
  simp [write]

theorem write_record (fields : List (String × Document)) (s : List Char) :
    (write (.record fields)).toList ++ s = '\x7b' :: ((writeFields fields).toList ++ '\x7d' :: s) := by
  simp [write]

private theorem prefixFree_succ {size : Nat} (parts : PrefixFree size) : PrefixFree (size + 1) := by
  intro d e s t bounded readable readableToo ends endsToo same
  have lead : leadOf d = leadOf e := by
    obtain ⟨c, more, chars, kind⟩ := write_cons d
    obtain ⟨c', more', chars', kind'⟩ := write_cons e
    rw [chars, chars'] at same
    rw [← kind, ← kind', (List.cons.inj same).1]
  cases d with
  | unreadable => cases readable
  | null =>
    cases e with
    | null => exact ⟨rfl, List.append_cancel_left same⟩
    | unreadable => cases readableToo
    | bool b => cases b <;> cases lead
    | _ => cases lead
  | bool a =>
    cases e with
    | bool b =>
      have value : a = b := by
        cases a <;> cases b <;> trivial
      subst value
      exact ⟨rfl, List.append_cancel_left same⟩
    | _ => cases a <;> cases lead
  | int m =>
    cases e with
    | int n =>
      obtain ⟨rfl, rest⟩ := toString_cancel ends.noDigit endsToo.noDigit same
      exact ⟨rfl, rest⟩
    | decimal n x =>
      rw [write_decimal] at same
      exact absurd (toString_cancel ends.noDigit (noDigit_exponent _) same).2
        (ends_ne_exponent ends)
    | bool b => cases b <;> cases lead
    | _ => cases lead
  | decimal m x =>
    rw [write_decimal] at same
    cases e with
    | int n =>
      exact absurd (toString_cancel (noDigit_exponent _) endsToo.noDigit same).2.symm
        (ends_ne_exponent endsToo)
    | decimal n y =>
      rw [write_decimal] at same
      obtain ⟨rfl, exponents⟩ := toString_cancel (noDigit_exponent _) (noDigit_exponent _) same
      obtain ⟨rfl, rest⟩ := toString_cancel ends.noDigit endsToo.noDigit (List.cons.inj exponents).2
      exact ⟨rfl, rest⟩
    | bool b => cases b <;> cases lead
    | _ => cases lead
  | text a =>
    cases e with
    | text b =>
      obtain ⟨rfl, rest⟩ := quote_cancel same
      exact ⟨rfl, rest⟩
    | bool b => cases b <;> cases lead
    | _ => cases lead
  | list ds =>
    cases e with
    | list es =>
      have length := congrArg List.length (write_list ds [])
      simp only [List.append_nil, List.length_append, List.length_cons] at length
      rw [write_list, write_list] at same
      obtain ⟨rfl, rest⟩ :=
        items_cancel parts (by omega) readable readableToo (List.cons.inj same).2
      exact ⟨rfl, rest⟩
    | bool b => cases b <;> cases lead
    | _ => cases lead
  | record fs =>
    cases e with
    | record gs =>
      have length := congrArg List.length (write_record fs [])
      simp only [List.append_nil, List.length_append, List.length_cons] at length
      rw [write_record, write_record] at same
      obtain ⟨rfl, rest⟩ :=
        fields_cancel parts (by omega) readable readableToo (List.cons.inj same).2
      exact ⟨rfl, rest⟩
    | bool b => cases b <;> cases lead
    | _ => cases lead

theorem prefixFree_all (size : Nat) : PrefixFree size := by
  induction size with
  | zero =>
    intro d e s t bounded
    obtain ⟨c, more, chars, -⟩ := write_cons d
    rw [chars] at bounded
    exact absurd bounded (Nat.not_succ_le_zero _)
  | succ size ih => exact prefixFree_succ ih

/-- Readable documents with one text are one. -/
theorem write_injective {d e : Document} (readable : d.isReadable = true)
    (readableToo : e.isReadable = true) (same : write d = write e) : d = e :=
  (prefixFree_all _ d e [] [] (Nat.le_refl _) readable readableToo ends_nil ends_nil
    (by rw [same])).1

end Conformance.Json
