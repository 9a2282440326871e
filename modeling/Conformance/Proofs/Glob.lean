import Conformance.Glob
import Mathlib.Data.List.Chain

/-! What a wildcard pattern means. It is read from left to right into tokens, two stars before one, and
a text matches it if it splits into one piece for each token. Names without wildcards match as calls
do, so that calls have one meaning for all patterns. -/
namespace Conformance.Glob

/-- What a pattern is read into. -/
inductive Token where
  /-- Two stars. -/
  | across
  /-- One star. -/
  | within
  /-- A question mark. -/
  | single
  | literal (c : Char)
  deriving DecidableEq, Repr

namespace Token

def ofChar : Char → Token
  | '*' => within
  | '?' => single
  | c => literal c

/-- How a token stands in a pattern. -/
def spelling : Token → List Char
  | across => ['*', '*']
  | within => ['*']
  | single => ['?']
  | literal c => [c]

/-- The pieces of a text that a token takes. -/
def Takes (sep : Char) : Token → List Char → Prop
  | across, _ => True
  | within, piece => sep ∉ piece
  | single, piece => ∃ c, c ≠ sep ∧ piece = [c]
  | literal c, piece => piece = [c]

theorem ofChar_literal {c : Char} (star : c ≠ '*') (mark : c ≠ '?') : ofChar c = literal c := by
  rw [ofChar]
  · exact star
  · exact mark

private theorem eq_star {c : Char} (single : ofChar c = within) : c = '*' := by
  unfold ofChar at single
  split at single
  · rfl
  · cases single
  · cases single

private theorem plain_of_ofChar {c d : Char} (plain : ofChar c = literal d) :
    d ≠ '*' ∧ d ≠ '?' := by
  unfold ofChar at plain
  split at plain
  · cases plain
  · cases plain
  · rename_i star mark
    cases plain
    exact ⟨star, mark⟩

@[simp] theorem spelling_ofChar (c : Char) : (ofChar c).spelling = [c] := by
  unfold ofChar
  split <;> rfl

theorem ofChar_ne_across (c : Char) : ofChar c ≠ across := by
  unfold ofChar
  split <;> nofun

end Token

/-- The tokens of a pattern. -/
def tokens : List Char → List Token
  | [] => []
  | '*' :: '*' :: rest => .across :: tokens rest
  | c :: rest => .ofChar c :: tokens rest

/-- One piece for each token, each taken by its token. Two stars and a separator right after them may
also take nothing. -/
inductive Fits (sep : Char) : List Token → List (List Char) → Prop where
  | nil : Fits sep [] []
  | piece {token : Token} {rest : List Token} {piece : List Char} {pieces : List (List Char)}
    (taken : token.Takes sep piece) (fits : Fits sep rest pieces) :
    Fits sep (token :: rest) (piece :: pieces)
  | together {token : Token} {rest : List Token} {pieces : List (List Char)}
    (separator : token.spelling = [sep]) (fits : Fits sep rest pieces) :
    Fits sep (.across :: token :: rest) ([] :: [] :: pieces)

/-- A text is made of consecutive pieces that fit some tokens. -/
def Splits (sep : Char) (ts : List Token) (text : List Char) : Prop :=
  ∃ pieces, Fits sep ts pieces ∧ pieces.flatten = text

section Reading

theorem tokens_of_ne_star {c : Char} (star : c ≠ '*') (rest : List Char) :
    tokens (c :: rest) = .ofChar c :: tokens rest := by
  rw [tokens]
  rintro - rfl
  exact absurd rfl star

/-- A character makes a token of its own unless it is the first of two stars. -/
theorem tokens_cons (c : Char) (rest : List Char) :
    tokens (c :: rest) = .ofChar c :: tokens rest ∨
      ∃ later, c = '*' ∧ rest = '*' :: later ∧ tokens (c :: rest) = .across :: tokens later := by
  by_cases pair : c = '*' ∧ rest.head? = some '*'
  · obtain ⟨rfl, second⟩ := pair
    obtain ⟨later, rfl⟩ := List.head?_eq_some_iff.1 second
    exact .inr ⟨later, rfl, rfl, rfl⟩
  · refine .inl ?_
    rw [tokens]
    rintro later rfl rfl
    exact pair ⟨rfl, rfl⟩

theorem spelling_tokens (pattern : List Char) : (tokens pattern).flatMap Token.spelling = pattern := by
  induction pattern using tokens.induct with
  | case1 => rfl
  | case2 rest ih =>
    rw [tokens, List.flatMap_cons, ih]
    rfl
  | case3 c rest alone ih =>
    rw [tokens, List.flatMap_cons, ih, Token.spelling_ofChar]
    · rfl
    · exact alone

/-- No star stands alone before another, and no wildcard is a plain character. -/
structure Greedy (ts : List Token) : Prop where
  stars : ts.IsChain fun a b => a = .within → b.spelling.head? ≠ some '*'
  plain : ∀ c, .literal c ∈ ts → c ≠ '*' ∧ c ≠ '?'

private theorem head?_of_tokens {pattern : List Char} {token : Token}
    (first : (tokens pattern).head? = some token) : token.spelling.head? = pattern.head? := by
  obtain ⟨rest, read⟩ := List.head?_eq_some_iff.1 first
  rw [← spelling_tokens pattern, read, List.flatMap_cons]
  cases token <;> rfl

theorem greedy_tokens (pattern : List Char) : Greedy (tokens pattern) := by
  induction pattern using tokens.induct with
  | case1 => exact ⟨.nil, nofun⟩
  | case2 rest ih =>
    rw [tokens]
    refine ⟨ih.stars.cons fun _ _ => nofun, fun c member => ih.plain c ?_⟩
    exact (List.mem_cons.1 member).resolve_left nofun
  | case3 c rest alone ih =>
    rw [tokens]
    · refine ⟨ih.stars.cons fun b next single pair => ?_, fun d member => ?_⟩
      · rw [head?_of_tokens next] at pair
        obtain ⟨later, rfl⟩ := List.head?_eq_some_iff.1 pair
        exact alone later (Token.eq_star single) rfl
      · rcases List.mem_cons.1 member with same | later
        · exact Token.plain_of_ofChar same.symm
        · exact ih.plain d later
    · exact alone

example : tokens "a***?".toList = [.literal 'a', .across, .within, .single] := by decide

end Reading

section Splitting

variable {sep : Char} {token : Token} {rest : List Token} {text : List Char}

theorem splits_nil : Splits sep [] text ↔ text = [] := by
  constructor
  · rintro ⟨pieces, fits, rfl⟩
    cases fits
    rfl
  · rintro rfl
    exact ⟨[], .nil, rfl⟩

theorem Splits.cons {piece : List Char} (taken : token.Takes sep piece) (splits : Splits sep rest text) :
    Splits sep (token :: rest) (piece ++ text) := by
  obtain ⟨pieces, fits, rfl⟩ := splits
  exact ⟨piece :: pieces, .piece taken fits, rfl⟩

theorem Splits.nothing (taken : token.Takes sep []) (splits : Splits sep rest text) :
    Splits sep (token :: rest) text :=
  splits.cons taken

theorem splits_cons (narrow : token ≠ .across) : Splits sep (token :: rest) text ↔
    ∃ piece later, piece ++ later = text ∧ token.Takes sep piece ∧ Splits sep rest later := by
  constructor
  · rintro ⟨pieces, fits, rfl⟩
    cases fits with
    | piece taken fits => exact ⟨_, _, rfl, taken, _, fits, rfl⟩
    | together => exact absurd rfl narrow
  · rintro ⟨piece, later, rfl, taken, splits⟩
    exact splits.cons taken

theorem splits_across : Splits sep (.across :: rest) text ↔
    (∃ next later, rest = next :: later ∧ next.spelling = [sep] ∧ Splits sep later text) ∨
      ∃ piece later, piece ++ later = text ∧ Splits sep rest later := by
  constructor
  · rintro ⟨pieces, fits, rfl⟩
    cases fits with
    | piece _ fits => exact .inr ⟨_, _, rfl, _, fits, rfl⟩
    | together separator fits => exact .inl ⟨_, _, rfl, separator, _, fits, rfl⟩
  · rintro (⟨next, later, rfl, separator, pieces, fits, rfl⟩ | ⟨piece, later, rfl, splits⟩)
    · exact ⟨[] :: [] :: pieces, .together separator fits, rfl⟩
    · exact splits.cons trivial

theorem splits_single : Splits sep (.single :: rest) text ↔
    ∃ c later, c :: later = text ∧ c ≠ sep ∧ Splits sep rest later := by
  rw [splits_cons (by decide)]
  constructor
  · rintro ⟨_, later, rfl, ⟨c, other, rfl⟩, splits⟩
    exact ⟨c, later, rfl, other, splits⟩
  · rintro ⟨c, later, rfl, other, splits⟩
    exact ⟨[c], later, rfl, ⟨c, other, rfl⟩, splits⟩

theorem splits_literal {c : Char} : Splits sep (.literal c :: rest) text ↔
    ∃ later, c :: later = text ∧ Splits sep rest later := by
  rw [splits_cons Token.noConfusion]
  constructor
  · rintro ⟨_, later, rfl, rfl, splits⟩
    exact ⟨later, rfl, splits⟩
  · rintro ⟨later, rfl, splits⟩
    exact ⟨[c], later, rfl, rfl, splits⟩

/-- Where the star is the separator, one star more loses nothing. -/
private theorem splits_star {pattern : List Char} (splits : Splits '*' (tokens pattern) text) :
    Splits '*' (tokens ('*' :: pattern)) text := by
  -- A star more can shift how a run of stars is read, so shorter runs come first.
  induction size : pattern.length using Nat.strongRecOn generalizing pattern text with
  | ind n shorter =>
    subst size
    rcases tokens_cons '*' pattern with read | ⟨s, -, rfl, read⟩
    · rw [read]
      exact splits.nothing List.not_mem_nil
    rw [read]
    rcases tokens_cons '*' s with inner | ⟨u, -, rfl, inner⟩
    · rw [inner, splits_cons (Token.ofChar_ne_across '*')] at splits
      obtain ⟨piece, later, rfl, -, splits⟩ := splits
      exact splits.cons trivial
    rw [inner, splits_across] at splits
    rcases splits with ⟨next, later, same, spelled, splits⟩ | ⟨piece, later, rfl, splits⟩
    · -- The star that takes nothing with the two before it is put back, and then another one.
      match u with
      | [] => cases same
      | c :: v =>
        rcases tokens_cons c v with last | ⟨_, -, -, last⟩
        · obtain ⟨rfl, rfl⟩ := List.cons.inj (last.symm.trans same)
          rw [Token.spelling_ofChar, List.singleton_inj] at spelled
          subst spelled
          have once := shorter v.length (by simp only [List.length_cons]; omega) splits rfl
          have twice := shorter (v.length + 1) (by simp) once rfl
          exact twice.nothing trivial
        · obtain ⟨rfl, -⟩ := List.cons.inj (last.symm.trans same)
          cases spelled
    · exact (shorter u.length (by simp only [List.length_cons]; omega) splits rfl).cons trivial

end Splitting

section Matching

variable {sep : Char}

theorem mem_suffixes {text t : List Char} : t ∈ suffixes text ↔ ∃ piece, piece ++ t = text := by
  induction text with
  | nil => simp [suffixes]
  | cons c cs ih =>
    rw [suffixes, List.mem_cons, ih]
    constructor
    · rintro (rfl | ⟨piece, rfl⟩)
      · exact ⟨[], rfl⟩
      · exact ⟨c :: piece, rfl⟩
    · rintro ⟨_ | ⟨d, piece⟩, same⟩
      · exact .inl same
      · exact .inr ⟨piece, (List.cons.inj same).2⟩

theorem mem_segmentSuffixes {text t : List Char} :
    t ∈ segmentSuffixes sep text ↔ ∃ piece, piece ++ t = text ∧ sep ∉ piece := by
  induction text with
  | nil => simp [segmentSuffixes]
  | cons c cs ih =>
    rw [segmentSuffixes, List.mem_cons]
    constructor
    · rintro (rfl | inside)
      · exact ⟨[], rfl, List.not_mem_nil⟩
      · split at inside
        · cases inside
        · rename_i other
          obtain ⟨piece, rfl, free⟩ := ih.1 inside
          exact ⟨c :: piece, rfl, List.not_mem_cons_of_ne_of_not_mem (Ne.symm other) free⟩
    · rintro ⟨_ | ⟨d, piece⟩, same, free⟩
      · exact .inl same
      · rw [List.cons_append, List.cons.injEq] at same
        obtain ⟨rfl, same⟩ := same
        rw [if_neg (List.ne_of_not_mem_cons free).symm]
        exact .inr (ih.2 ⟨piece, same, List.not_mem_of_not_mem_cons free⟩)

private theorem any_suffixes {text : List Char} {holds : List Char → Bool} :
    (suffixes text).any holds = true ↔
      ∃ piece later, piece ++ later = text ∧ holds later = true := by
  rw [List.any_eq_true]
  constructor
  · rintro ⟨later, inside, held⟩
    obtain ⟨piece, same⟩ := mem_suffixes.1 inside
    exact ⟨piece, later, same, held⟩
  · rintro ⟨piece, later, same, held⟩
    exact ⟨later, mem_suffixes.2 ⟨piece, same⟩, held⟩

private theorem any_segmentSuffixes {text : List Char} {holds : List Char → Bool} :
    (segmentSuffixes sep text).any holds = true ↔
      ∃ piece later, piece ++ later = text ∧ sep ∉ piece ∧ holds later = true := by
  rw [List.any_eq_true]
  constructor
  · rintro ⟨later, inside, held⟩
    obtain ⟨piece, same, free⟩ := mem_segmentSuffixes.1 inside
    exact ⟨piece, later, same, free, held⟩
  · rintro ⟨piece, later, same, free, held⟩
    exact ⟨later, mem_segmentSuffixes.2 ⟨piece, same, free⟩, held⟩

/-- Matching is splitting, whatever the separator. -/
theorem matchChars_iff (sep : Char) (pattern text : List Char) :
    matchChars sep pattern text = true ↔ Splits sep (tokens pattern) text := by
  fun_induction matchChars sep pattern text with
  | case1 text => rw [List.isEmpty_iff, tokens, splits_nil]
  | case2 text =>
    have all : Splits sep [.across] (text ++ []) := (splits_nil.2 rfl).cons trivial
    rw [List.append_nil] at all
    exact iff_of_true rfl all
  | case3 c rest text skipped inside =>
    simp only [Bool.or_eq_true, Bool.and_eq_true, beq_iff_eq, skipped, any_suffixes, inside]
    rw [tokens, splits_across]
    rcases tokens_cons c rest with read | ⟨later, rfl, rfl, read⟩
    · simp [read]
    · -- A star that is the separator and the first of two stars is no token of its own.
      rw [read]
      constructor
      · rintro (⟨rfl, splits⟩ | found)
        · exact .inr ⟨[], text, rfl, read ▸ splits_star splits⟩
        · exact .inr found
      · rintro (⟨_, _, same, spelled, -⟩ | found)
        · cases same
          cases spelled
        · exact .inr found
  | case4 rest text alone wide inside =>
    rcases tokens_cons '*' rest with read | ⟨later, -, rfl, -⟩
    · simp only [any_segmentSuffixes, inside]
      rw [read, splits_cons (Token.ofChar_ne_across '*')]
      rfl
    · cases later with
      | nil => exact absurd rfl alone
      | cons c later => exact absurd rfl (wide c later)
  | case5 rest =>
    rw [tokens_of_ne_star (by decide)]
    exact iff_of_false Bool.false_ne_true fun splits => by
      obtain ⟨_, _, same, -⟩ := splits_single.1 splits
      cases same
  | case6 rest c text ih =>
    rw [tokens_of_ne_star (by decide), Bool.and_eq_true, bne_iff_ne, ih]
    refine Iff.trans ?_ splits_single.symm
    constructor
    · rintro ⟨other, splits⟩
      exact ⟨c, text, rfl, other, splits⟩
    · rintro ⟨_, _, same, other, splits⟩
      cases same
      exact ⟨other, splits⟩
  | case7 c rest _ _ star mark =>
    rw [tokens_of_ne_star star, Token.ofChar_literal star mark, splits_literal]
    simp
  | case8 c rest _ _ star mark d text ih =>
    rw [tokens_of_ne_star star, Token.ofChar_literal star mark, splits_literal]
    rw [Bool.and_eq_true, beq_iff_eq, ih]
    constructor
    · rintro ⟨rfl, splits⟩
      exact ⟨text, rfl, splits⟩
    · rintro ⟨_, same, splits⟩
      cases same
      exact ⟨rfl, splits⟩

/-- A text without wildcards stands for itself alone. -/
private theorem splits_plain {pattern text : List Char} (star : '*' ∉ pattern)
    (mark : '?' ∉ pattern) :
    Splits sep (tokens pattern) text ↔ pattern = text := by
  induction pattern generalizing text with
  | nil => rw [tokens, splits_nil, eq_comm]
  | cons c rest ih =>
    have noStar : c ≠ '*' := (List.ne_of_not_mem_cons star).symm
    have noMark : c ≠ '?' := (List.ne_of_not_mem_cons mark).symm
    rw [tokens_of_ne_star noStar, Token.ofChar_literal noStar noMark, splits_literal]
    have ih (later : List Char) := @ih later (List.not_mem_of_not_mem_cons star)
      (List.not_mem_of_not_mem_cons mark)
    constructor
    · rintro ⟨later, rfl, splits⟩
      rw [(ih later).1 splits]
    · rintro rfl
      exact ⟨rest, rfl, (ih rest).2 rfl⟩

theorem matchName_eq_matchCall (pattern name : String) :
    matchName pattern name = matchCall pattern name := by
  unfold matchName
  split
  · rfl
  · rename_i plain
    simp only [Bool.or_eq_true, List.contains_iff_mem, not_or] at plain
    rw [Bool.eq_iff_iff, beq_iff_eq, matchCall, matchChars_iff, splits_plain plain.1 plain.2,
      String.toList_inj]

end Matching

section Ending

variable {sep : Char} {ts : List Token} {token : Token} {text before piece : List Char}

theorem Splits.concat (splits : Splits sep ts before) (taken : token.Takes sep piece) :
    Splits sep (ts ++ [token]) (before ++ piece) := by
  obtain ⟨pieces, fits, rfl⟩ := splits
  refine ⟨pieces ++ [piece], ?_, by simp⟩
  induction fits with
  | nil => exact .piece taken .nil
  | piece first _ ih => exact .piece first ih
  | together separator _ ih => exact .together separator ih

/-- The last token takes the end of a text, unless it is a separator that may be left out. -/
theorem Splits.last (splits : Splits sep (ts ++ [token]) text) (other : token.spelling ≠ [sep]) :
    ∃ before piece, before ++ piece = text ∧ Splits sep ts before ∧ token.Takes sep piece := by
  obtain ⟨pieces, fits, rfl⟩ := splits
  generalize whole : ts ++ [token] = all at fits
  induction fits generalizing ts with
  | nil => simp at whole
  | @piece first rest piece pieces taken fits ih =>
    cases ts with
    | nil =>
      obtain ⟨rfl, rfl⟩ := List.cons.inj whole
      cases fits
      exact ⟨[], piece, by simp, splits_nil.2 rfl, taken⟩
    | cons head ts =>
      obtain ⟨rfl, rfl⟩ := List.cons.inj whole
      obtain ⟨before, ending, same, splits, last⟩ := ih rfl
      exact ⟨piece ++ before, ending, by simp [same], splits.cons taken, last⟩
  | @together next rest pieces separator fits ih =>
    match ts, whole with
    | [_], whole =>
      obtain ⟨-, last⟩ := List.cons.inj whole
      cases last
      exact absurd separator other
    | first :: next' :: ts, whole =>
      obtain ⟨same, tail⟩ := List.cons.inj whole
      subst first
      obtain ⟨rfl, rfl⟩ := List.cons.inj tail
      obtain ⟨before, ending, same, ⟨pieces', fits', rfl⟩, last⟩ := ih rfl
      exact ⟨_, ending, by simpa using same, ⟨_, .together separator fits', rfl⟩, last⟩

/-- At a separator only two stars end, one star that takes nothing, or the separator itself. -/
theorem Splits.at_separator (splits : Splits sep (ts ++ [token]) (text ++ [sep])) :
    token = .across ∨ (token = .within ∧ Splits sep ts (text ++ [sep])) ∨ token.spelling = [sep] := by
  by_cases separator : token.spelling = [sep]
  · exact .inr (.inr separator)
  obtain ⟨before, piece, same, splits, taken⟩ := splits.last separator
  cases token with
  | across => exact .inl rfl
  | within =>
    rcases List.eq_nil_or_concat piece with rfl | ⟨front, last, rfl⟩
    · rw [List.append_nil] at same
      exact .inr (.inl ⟨rfl, by rwa [← same]⟩)
    · rw [List.concat_eq_append, ← List.append_assoc] at same
      obtain ⟨-, ends⟩ := List.append_inj' same rfl
      cases ends
      exact absurd (by simp) taken
  | single =>
    obtain ⟨c, other, rfl⟩ := taken
    obtain ⟨-, ends⟩ := List.append_inj' same rfl
    cases ends
    exact absurd rfl other
  | literal c =>
    cases taken
    obtain ⟨-, ends⟩ := List.append_inj' same rfl
    cases ends
    exact absurd rfl separator

/-- A pattern whose end can stop at a separator: the separator itself, or one star after it. -/
def EndsAt (sep : Char) (pattern : List Char) : Prop :=
  [sep] <:+ pattern ∨ [sep, '*'] <:+ pattern

instance (sep : Char) (pattern : List Char) : Decidable (EndsAt sep pattern) :=
  inferInstanceAs (Decidable (_ ∨ _))

theorem Splits.across_append (splits : Splits sep (ts ++ [.across]) text) (rest : List Char) :
    Splits sep (ts ++ [.across]) (text ++ rest) := by
  obtain ⟨before, piece, rfl, splits, -⟩ := splits.last nofun
  rw [List.append_assoc]
  exact splits.concat trivial

/-- Any other pattern that matches up to a separator also matches whatever comes after it. -/
theorem Splits.below {pattern : List Char} (splits : Splits sep (tokens pattern) (text ++ [sep]))
    (beyond : ¬EndsAt sep pattern) (rest : List Char) :
    Splits sep (tokens pattern) (text ++ [sep] ++ rest) := by
  have spelled := spelling_tokens pattern
  have stars := (greedy_tokens pattern).stars
  generalize tokens pattern = ts at splits spelled stars ⊢
  rcases List.eq_nil_or_concat ts with rfl | ⟨ts, token, rfl⟩
  · exact absurd (splits_nil.1 splits) (by simp)
  rw [List.concat_eq_append] at *
  rw [List.flatMap_append, List.flatMap_singleton] at spelled
  rcases splits.at_separator with rfl | ⟨rfl, splits'⟩ | separator
  · exact splits.across_append rest
  · -- One star takes nothing here, so what stands before it ends at the separator as well.
    rcases List.eq_nil_or_concat ts with rfl | ⟨ts, token, rfl⟩
    · exact absurd (splits_nil.1 splits') (by simp)
    rw [List.concat_eq_append] at *
    rcases splits'.at_separator with rfl | ⟨rfl, -⟩ | separator
    · have nothing : Token.within.Takes sep [] := List.not_mem_nil
      have longer := (splits'.across_append rest).concat nothing
      rwa [List.append_nil] at longer
    · rw [List.append_assoc] at stars
      have pair : List.IsChain _ [Token.within, Token.within] := (List.isChain_append.1 stars).2.1
      exact absurd rfl (List.isChain_pair.1 pair rfl)
    · rw [List.flatMap_append, List.flatMap_singleton, separator, List.append_assoc] at spelled
      exact absurd (.inr ⟨_, spelled⟩) beyond
  · rw [separator] at spelled
    exact absurd (.inl ⟨_, spelled⟩) beyond

theorem matchPath_below {pattern folder : String} (matched : matchPath pattern (folder ++ "/") = true)
    (beyond : ¬EndsAt '/' pattern.toList) (rest : String) :
    matchPath pattern (folder ++ "/" ++ rest) = true := by
  rw [matchPath, matchChars_iff, String.toList_append] at matched ⊢
  rw [String.toList_append]
  exact matched.below beyond rest.toList

end Ending

/-- Matching means that a text splits into pieces for the tokens of the pattern. The tokens spell the
pattern, with two stars wherever two stars can be read and no wildcard read as a plain character. Paths
and calls differ in the separator alone, and names match as calls whether or not there are wildcards. -/
theorem matching_splits_text :
    (∀ sep pattern text, matchChars sep pattern text = true ↔ Splits sep (tokens pattern) text) ∧
    (∀ pattern path : String, matchPath pattern path = true ↔
      Splits '/' (tokens pattern.toList) path.toList) ∧
    (∀ pattern name : String, matchCall pattern name = true ↔
      Splits '.' (tokens pattern.toList) name.toList) ∧
    (∀ pattern, (tokens pattern).flatMap Token.spelling = pattern ∧ Greedy (tokens pattern)) ∧
    (∀ pattern name : String, matchName pattern name = matchCall pattern name) :=
  ⟨matchChars_iff, fun _ _ => matchChars_iff _ _ _, fun _ _ => matchChars_iff _ _ _,
    fun pattern => ⟨spelling_tokens pattern, greedy_tokens pattern⟩, matchName_eq_matchCall⟩

end Conformance.Glob
