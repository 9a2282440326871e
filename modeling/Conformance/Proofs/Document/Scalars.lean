import Conformance.Document.JsonReader
import Conformance.Document.JsonWriter

/-! Written integers and texts, read again. -/
namespace Conformance.Json

/-- Characters that may follow a written value. -/
def isEnd (c : Char) : Bool := c == ',' || c == ']' || c == '\x7d' || c == '\n'

/-- A text that does not go on with what comes before it. -/
def Ends (rest : List Char) : Prop := ∀ c more, rest = c :: more → isEnd c = true

theorem ends_nil : Ends [] := by
  intro c more same
  cases same

theorem ends_cons {c : Char} (stops : isEnd c = true) (rest : List Char) : Ends (c :: rest) := by
  intro d more same
  cases same
  exact stops

theorem Ends.cases {rest : List Char} (ends : Ends rest) :
    rest = [] ∨ ∃ more, rest = ',' :: more ∨ rest = ']' :: more ∨ rest = '\x7d' :: more ∨
      rest = '\n' :: more := by
  cases rest with
  | nil => exact .inl rfl
  | cons c more =>
    have stops := ends c more rfl
    simp only [isEnd, Bool.or_eq_true, beq_iff_eq] at stops
    rcases stops with ((rfl | rfl) | rfl) | rfl <;> simp

section Numerals

theorem digits?_toDigits (n : Nat) : Chars.digits? (Nat.toDigits 10 n) = some n := by
  have all : (Nat.toDigits 10 n).all Chars.isDigit = true := by
    rw [List.all_eq_true]
    intro c member
    exact Nat.isDigit_of_mem_toDigits (by decide) (by decide) member
  have value : (Nat.toDigits 10 n).foldl (fun n c => n * 10 + (c.toNat - '0'.toNat)) 0 = n := by
    have whole : Nat.ofDigitChars 10 (Nat.toDigits 10 n) 0 = n := Nat.ofDigitChars_ten_toDigits
    simpa only [Nat.ofDigitChars_eq_foldl, Nat.mul_comm] using whole
  rw [Chars.digits?, if_pos ⟨Nat.toDigits_ne_nil, all⟩, value]

/-- A number from one on is written without a leading zero. -/
private theorem head?_toDigits {n : Nat} (positive : 0 < n) :
    (Nat.toDigits 10 n).head? ≠ some '0' := by
  induction n using Nat.strongRecOn with
  | ind n ih =>
    by_cases small : n < 10
    · rw [Nat.toDigits_of_lt_base small]
      have nonzero : ∀ d < 10, 0 < d → d.digitChar ≠ '0' := by decide
      simpa using nonzero n small positive
    · rw [Nat.toDigits_of_base_le (by decide) (Nat.le_of_not_lt small), List.head?_append]
      have shorter := ih (n / 10) (by omega) (by omega)
      cases first : (Nat.toDigits 10 (n / 10)).head? with
      | none => simp [Nat.toDigits_ne_nil] at first
      | some c => simpa [first] using shorter

/-- A text that does not start with a digit. -/
def NoDigit (rest : List Char) : Prop := ∀ c more, rest = c :: more → Chars.isDigit c = false

theorem Ends.noDigit {rest : List Char} (ends : Ends rest) : NoDigit rest := by
  rintro c more rfl
  have stops := ends c more rfl
  simp only [isEnd, Bool.or_eq_true, beq_iff_eq] at stops
  rcases stops with ((rfl | rfl) | rfl) | rfl <;> rfl

theorem takeWhile_toDigits (n : Nat) {rest : List Char} (stops : NoDigit rest) :
    (Nat.toDigits 10 n ++ rest).takeWhile Chars.isDigit = Nat.toDigits 10 n ∧
      (Nat.toDigits 10 n ++ rest).dropWhile Chars.isDigit = rest := by
  have digit : ∀ c ∈ Nat.toDigits 10 n, Chars.isDigit c = true := fun c member =>
    Nat.isDigit_of_mem_toDigits (by decide) (by decide) member
  rw [List.takeWhile_append_of_pos digit, List.dropWhile_append_of_pos digit]
  cases rest with
  | nil => simp
  | cons c more => simp [stops c more rfl]

/-- What a written integer is read as: one too large for an integer field is read as another
number, or as none. -/
def readInt (n : Int) : Document :=
  if -(Nat.pow 2 63) ≤ n ∧ n < Nat.pow 2 64 then .int n
  else if tooLarge n 0 then .unreadable
  else .decimal n 0

private theorem no_leading_zero (n : Nat) :
    ¬ ((Nat.toDigits 10 n).length > 1 ∧ (Nat.toDigits 10 n).head? = some '0') := by
  rintro ⟨long, zero⟩
  cases n with
  | zero => simp at long
  | succ n => exact head?_toDigits (Nat.succ_pos n) zero

private theorem readInt_pair (n : Int) (rest : List Char) :
    (if -(Nat.pow 2 63) ≤ n ∧ n < Nat.pow 2 64 then some (Document.int n, rest)
      else if tooLarge n 0 then some (.unreadable, rest)
      else some (.decimal n 0, rest)) = some (readInt n, rest) := by
  unfold readInt
  split
  · rfl
  · split <;> rfl

theorem unsigned?_toDigits (negative : Bool) (n : Nat) (signed : negative = true → n ≠ 0)
    {rest : List Char} (ends : Ends rest) :
    unsigned? negative (Nat.toDigits 10 n ++ rest) =
      some (readInt (if negative then -(n : Int) else n), rest) := by
  obtain ⟨taken, dropped⟩ := takeWhile_toDigits n ends.noDigit
  have sign : (if negative then -(n : Int) else n) = (if negative then -1 else 1) * n := by
    split <;> simp
  have nonzero : ¬ ((negative && n == 0) = true) := by
    cases negative with
    | false => simp
    | true => simpa using signed rfl
  rw [sign, ← readInt_pair]
  unfold unsigned?
  simp only [taken, dropped, digits?_toDigits, no_leading_zero, Option.bind_eq_bind,
    Option.bind_some, if_false, if_neg nonzero]
  generalize (if negative then (-1 : Int) else 1) * n = value
  rcases ends.cases with rfl | ⟨more, rfl | rfl | rfl | rfl⟩ <;> rfl

theorem toDigits_ne_minus (n : Nat) (rest more : List Char) :
    Nat.toDigits 10 n ++ rest ≠ '-' :: more := by
  intro same
  cases digits : Nat.toDigits 10 n with
  | nil => exact Nat.toDigits_ne_nil digits
  | cons c cs =>
    have member : c ∈ Nat.toDigits 10 n := digits ▸ List.mem_cons_self
    have digit := Nat.isDigit_of_mem_toDigits (by decide) (by decide) member
    rw [digits] at same
    cases same
    exact absurd digit (by decide)

/-- A written integer is read to its end. -/
private theorem number?_int (n : Int) {rest : List Char} (ends : Ends rest) :
    number? ((toString n).toList ++ rest) = some (readInt n, rest) := by
  rw [Int.toString_eq_repr, Int.repr_eq_if]
  split
  · rename_i positive
    have read := unsigned?_toDigits false n.toNat (by simp) ends
    rw [Nat.toList_repr, number?]
    · rw [read]
      simp [Int.toNat_of_nonneg positive]
    · exact toDigits_ne_minus _ _
  · rename_i negative
    have magnitude : -((-n).toNat : Int) = n := by omega
    have read := unsigned?_toDigits true (-n).toNat (by omega) ends
    rw [String.toList_append, Nat.toList_repr]
    refine Eq.trans ?_ (read.trans ?_)
    · rfl
    · simp only [if_true, magnitude]

end Numerals

section Texts

theorem hexValue?_hexDigit : ∀ n < 16, hexValue? (hexDigit n) = some n := by decide

private theorem hex4?_control (n : Nat) (control : n < 0x20) :
    hex4? '0' '0' (hexDigit (n / 16)) (hexDigit (n % 16)) = some n := by
  have high := hexValue?_hexDigit (n / 16) (by omega)
  have low := hexValue?_hexDigit (n % 16) (by omega)
  have zero : hexValue? '0' = some 0 := by decide
  have whole : n / 16 * 16 + n % 16 = n := by omega
  simp [hex4?, high, low, zero, whole]

/-- A character that stands for itself in a text. -/
private theorem units?_plain {c : Char} (quote : c ≠ '\"') (slash : c ≠ '\\')
    (printed : ¬ c.toNat < 0x20)
    (out : List Nat) (rest : List Char) : units? out (c :: rest) = units? (c.toNat :: out) rest := by
  rw [units?.eq_def]
  split
  · rename_i same
    cases same
    exact absurd rfl quote
  · rename_i same
    cases same
    exact absurd rfl slash
  · rename_i same
    cases same
    exact absurd rfl slash
  · rename_i same
    cases same
    rw [if_neg printed]
  · rename_i same
    cases same

/-- A written character is read as one unit. -/
private theorem units?_escape (c : Char) (out : List Nat) (rest : List Char) :
    units? out (escape c ++ rest) = units? (c.toNat :: out) rest := by
  unfold escape
  split
  case h_8 n quote slash _ _ _ _ _ =>
    split
    · rename_i control
      have code := hex4?_control c.toNat control
      simp only [List.cons_append, List.nil_append, units?, code]
    · rename_i printed
      refine units?_plain ?_ ?_ printed out rest
      · rintro rfl
        exact quote rfl
      · rintro rfl
        exact slash rfl
  -- The other cases are the characters with an escape letter of their own.
  all_goals
    rename_i code
    rw [code]
    rfl

/-- A written text is read up to its closing quote. -/
theorem units?_flatMap_escape (s : List Char) (out : List Nat) (rest : List Char) :
    units? out (s.flatMap escape ++ '\"' :: rest) =
      some (out.reverse ++ s.map Char.toNat, rest) := by
  induction s generalizing out with
  | nil => simp [units?]
  | cons c more ih =>
    rw [List.flatMap_cons, List.append_assoc, units?_escape, ih]
    simp

theorem not_surrogate (c : Char) : ¬ (0xD800 ≤ c.toNat ∧ c.toNat < 0xE000) := by
  have valid : c.toNat < 0xD800 ∨ 0xDFFF < c.toNat ∧ c.toNat < 0x110000 := c.valid
  omega

private theorem joinPairs?_chars (s out : List Char) :
    joinPairs? out (s.map Char.toNat) = some (out.reverse ++ s) := by
  induction s generalizing out with
  | nil => simp [joinPairs?]
  | cons c more ih =>
    cases more with
    | nil => simp [joinPairs?, not_surrogate c]
    | cons d rest =>
      rw [List.map_cons, List.map_cons, joinPairs?, if_neg (not_surrogate c), ← List.map_cons, ih]
      simp

theorem textOf?_chars (s : List Char) : textOf? (s.map Char.toNat) = some (String.ofList s) := by
  rw [textOf?, joinPairs?_chars]
  rfl

/-- A quoted text is read to its end. -/
theorem scalar?_text (s : String) (rest : List Char) :
    scalar? ((quote s).toList ++ rest) = some (.text s, rest) := by
  have chars : (quote s).toList ++ rest = '\"' :: (s.toList.flatMap escape ++ '\"' :: rest) := by
    simp [quote]
  rw [chars, scalar?, units?_flatMap_escape]
  simp [textOf?_chars]

end Texts

/-- The first character of a written integer. -/
theorem toString_cons (n : Int) : ∃ c more, (toString n).toList = c :: more ∧
    (c = '-' ∨ Chars.isDigit c = true) := by
  rw [Int.toString_eq_repr, Int.repr_eq_if]
  split
  · rw [Nat.toList_repr]
    cases digits : Nat.toDigits 10 n.toNat with
    | nil => exact absurd digits Nat.toDigits_ne_nil
    | cons c more =>
      have member : c ∈ Nat.toDigits 10 n.toNat := digits ▸ List.mem_cons_self
      exact ⟨c, more, rfl, .inr (Nat.isDigit_of_mem_toDigits (by decide) (by decide) member)⟩
  · exact ⟨'-', _, by rw [String.toList_append]; rfl, .inl rfl⟩

theorem scalar?_int (n : Int) {rest : List Char} (ends : Ends rest) :
    scalar? ((toString n).toList ++ rest) = some (readInt n, rest) := by
  have read := number?_int n ends
  obtain ⟨c, more, chars, first⟩ := toString_cons n
  rw [chars] at read ⊢
  rw [scalar?.eq_def]
  split
  case h_5 => exact read
  -- A number starts with none of the letters that the other scalars start with.
  all_goals
    rename_i same
    obtain ⟨rfl, -⟩ := List.cons.inj same
    rcases first with other | other <;> exact absurd other (by decide)

end Conformance.Json
