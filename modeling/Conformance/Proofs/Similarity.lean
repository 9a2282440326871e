import Conformance.Similarity
import Mathlib.Order.Bounds.Basic
import Mathlib.Order.MinMax

/-! The edit distance is the least number of edits that lead from one text to the other, and the closest
of several names is the first in order of those at the least distance, if that is within tolerance.
The rows of the distance table hold the distances of prefixes, by a recursion that takes both texts
from their ends. A script of edits cannot beat it, since one edit changes a distance by at most one. -/
namespace Conformance.Similarity

variable {a b c : Char} {s t u : List Char} {n : Nat}

/-- One insertion, deletion or substitution of a character. -/
inductive Edit : List Char → List Char → Prop where
  | insert (before : List Char) (c : Char) (after : List Char) :
      Edit (before ++ after) (before ++ c :: after)
  | delete (before : List Char) (c : Char) (after : List Char) :
      Edit (before ++ c :: after) (before ++ after)
  | substitute (before : List Char) (c d : Char) (after : List Char) :
      Edit (before ++ c :: after) (before ++ d :: after)

/-- So many edits, one after the other. -/
inductive Edits : Nat → List Char → List Char → Prop where
  | done (s : List Char) : Edits 0 s s
  | edit {n : Nat} {s t u : List Char} (first : Edit s t) (rest : Edits n t u) : Edits (n + 1) s u

section Scripts

theorem Edit.cons (c : Char) (edit : Edit s t) : Edit (c :: s) (c :: t) := by
  cases edit with
  | insert before d after => exact .insert (c :: before) d after
  | delete before d after => exact .delete (c :: before) d after
  | substitute before d e after => exact .substitute (c :: before) d e after

theorem Edit.reverse (edit : Edit s t) : Edit s.reverse t.reverse := by
  cases edit with
  | insert before c after => simpa using Edit.insert after.reverse c before.reverse
  | delete before c after => simpa using Edit.delete after.reverse c before.reverse
  | substitute before c d after => simpa using Edit.substitute after.reverse c d before.reverse

theorem Edits.cons (c : Char) (edits : Edits n s t) : Edits n (c :: s) (c :: t) := by
  induction edits with
  | done s => exact .done (c :: s)
  | edit first rest ih => exact .edit (first.cons c) ih

theorem Edits.reverse (edits : Edits n s t) : Edits n s.reverse t.reverse := by
  induction edits with
  | done s => exact .done s.reverse
  | edit first rest ih => exact .edit first.reverse ih

theorem edits_reverse_iff : Edits n s.reverse t.reverse ↔ Edits n s t :=
  ⟨fun edits => by simpa using edits.reverse, Edits.reverse⟩

end Scripts

section Recursion

/-- The distance by recursion on both texts: the first characters are a pair, or one of them is deleted or
inserted. -/
def levenshtein : List Char → List Char → Nat
  | [], t => t.length
  | a :: s, [] => (a :: s).length
  | a :: s, b :: t =>
    min (min (levenshtein s t + if a = b then 0 else 1) (levenshtein s (b :: t) + 1))
      (levenshtein (a :: s) t + 1)
termination_by s t => s.length + t.length

theorem levenshtein_nil_left (t : List Char) : levenshtein [] t = t.length := by rw [levenshtein]

theorem levenshtein_nil_right (s : List Char) : levenshtein s [] = s.length := by
  cases s <;> rw [levenshtein]

theorem levenshtein_cons (a b : Char) (s t : List Char) : levenshtein (a :: s) (b :: t) =
    min (min (levenshtein s t + if a = b then 0 else 1) (levenshtein s (b :: t) + 1))
      (levenshtein (a :: s) t + 1) := by
  rw [levenshtein]

private theorem levenshtein_self (s : List Char) : levenshtein s s = 0 := by
  induction s with
  | nil => rw [levenshtein_nil_left, List.length_nil]
  | cons c s ih => rw [levenshtein_cons, ih, if_pos rfl, Nat.zero_min, Nat.zero_min]

/-- There are as many edits from one text to the other. -/
theorem edits_levenshtein (s t : List Char) : Edits (levenshtein s t) s t := by
  fun_induction levenshtein s t with
  | case1 t =>
    induction t with
    | nil => exact .done []
    | cons b t ih => exact .edit (.insert [] b []) (ih.cons b)
  | case2 a s =>
    induction s generalizing a with
    | nil => exact .edit (.delete [] a []) (.done [])
    | cons b s ih => exact .edit (.delete [] a (b :: s)) (ih b)
  | case3 a s b t paired deleted inserted =>
    -- Whichever of the three is least, its script can be followed.
    rcases min_choice (min (levenshtein s t + if a = b then 0 else 1) (levenshtein s (b :: t) + 1))
      (levenshtein (a :: s) t + 1) with least | least
    · rw [least]
      rcases min_choice (levenshtein s t + if a = b then 0 else 1) (levenshtein s (b :: t) + 1) with
        least | least
      · rw [least]
        split
        · rename_i same
          exact same ▸ paired.cons a
        · exact .edit (.substitute [] a b s) (paired.cons b)
      · rw [least]
        exact .edit (.delete [] a s) deleted
    · rw [least]
      exact .edit (.insert [] b (a :: s)) (inserted.cons b)

private theorem levenshtein_cons_left_le (a : Char) (s t : List Char) :
    levenshtein (a :: s) t ≤ levenshtein s t + 1 := by
  cases t with
  | nil => rw [levenshtein_nil_right, levenshtein_nil_right, List.length_cons]
  | cons b t =>
    rw [levenshtein_cons]
    omega

private theorem levenshtein_cons_right_le (s : List Char) (b : Char) (t : List Char) :
    levenshtein s (b :: t) ≤ levenshtein s t + 1 := by
  cases s with
  | nil => rw [levenshtein_nil_left, levenshtein_nil_left, List.length_cons]
  | cons a s =>
    rw [levenshtein_cons]
    omega

private theorem levenshtein_le_cons_left (s : List Char) (a : Char) (t : List Char) :
    levenshtein s t ≤ levenshtein (a :: s) t + 1 := by
  induction t with
  | nil =>
    rw [levenshtein_nil_right, levenshtein_nil_right, List.length_cons]
    omega
  | cons b t ih =>
    have inserted := levenshtein_cons_right_le s b t
    rw [levenshtein_cons]
    omega

private theorem levenshtein_substitute_le (a c : Char) (s t : List Char) :
    levenshtein (a :: s) t ≤ levenshtein (c :: s) t + 1 := by
  induction t with
  | nil =>
    rw [levenshtein_nil_right, levenshtein_nil_right, List.length_cons, List.length_cons]
    omega
  | cons b t ih =>
    rw [levenshtein_cons, levenshtein_cons]
    split <;> omega

/-- What texts differ by at most stays so behind one more character. -/
theorem levenshtein_cons_le_of_le (c : Char) (close : ∀ u, levenshtein s u ≤ levenshtein t u + 1)
    (u : List Char) : levenshtein (c :: s) u ≤ levenshtein (c :: t) u + 1 := by
  induction u with
  | nil =>
    have lengths := close []
    rw [levenshtein_nil_right, levenshtein_nil_right] at lengths ⊢
    simpa using lengths
  | cons b u ih =>
    have paired := close u
    have deleted := close (b :: u)
    rw [levenshtein_cons, levenshtein_cons]
    omega

/-- One edit changes a distance by at most one. -/
theorem Edit.levenshtein_le (edit : Edit s t) (u : List Char) :
    levenshtein s u ≤ levenshtein t u + 1 := by
  cases edit with
  | insert before c after =>
    induction before generalizing u with
    | nil => exact levenshtein_le_cons_left after c u
    | cons d before ih => exact levenshtein_cons_le_of_le d ih u
  | delete before c after =>
    induction before generalizing u with
    | nil => exact levenshtein_cons_left_le c after u
    | cons d before ih => exact levenshtein_cons_le_of_le d ih u
  | substitute before c d after =>
    induction before generalizing u with
    | nil => exact levenshtein_substitute_le c d after u
    | cons e before ih => exact levenshtein_cons_le_of_le e ih u

theorem Edits.levenshtein_le (edits : Edits n s t) : levenshtein s t ≤ n := by
  induction edits with
  | done s => exact (levenshtein_self s).le
  | edit first rest ih => exact (first.levenshtein_le _).trans (Nat.succ_le_succ ih)

theorem isLeast_levenshtein (s t : List Char) : IsLeast {n | Edits n s t} (levenshtein s t) :=
  ⟨edits_levenshtein s t, fun _ => Edits.levenshtein_le⟩

end Recursion

section Table

/-- The row of the table under a source, whose characters so far stand in reverse: its distances from the
target up to `done`, in reverse as well, and from each longer piece of the target. -/
def row (source : List Char) : (done rest : List Char) → List Nat
  | done, [] => [levenshtein source done]
  | done, b :: rest => levenshtein source done :: row source (b :: done) rest

theorem row_eq_cons (source done rest : List Char) :
    row source done rest = levenshtein source done :: (row source done rest).tail := by
  cases rest <;> rfl

theorem rowCells_row (a : Char) (source done rest : List Char) :
    rowCells a rest (row source done rest) (levenshtein (a :: source) done) =
      (row (a :: source) done rest).tail := by
  induction rest generalizing done with
  | nil => rfl
  | cons b rest ih =>
    have later := ih (b :: done)
    rw [row_eq_cons source, levenshtein_cons] at later
    rw [row, row_eq_cons source, rowCells, later, row, List.tail_cons, row_eq_cons (a :: source),
      levenshtein_cons, List.tail_cons]

theorem nextRow_row (target source : List Char) (a : Char) :
    nextRow target (row source [] target) a = row (a :: source) [] target := by
  have first : (row source [] target).headD 0 + 1 = levenshtein (a :: source) [] := by
    rw [row_eq_cons, List.headD_cons, levenshtein_nil_right, levenshtein_nil_right, List.length_cons]
  rw [nextRow, first, rowCells_row, ← row_eq_cons]

private theorem range_eq_row (done rest : List Char) :
    List.range' done.length (rest.length + 1) = row [] done rest := by
  induction rest generalizing done with
  | nil => rw [row, levenshtein_nil_left, List.length_nil, Nat.zero_add, List.range'_one]
  | cons b rest ih => rw [List.length_cons, List.range'_succ, row, levenshtein_nil_left, ← ih,
      List.length_cons]

theorem foldl_nextRow (target source above : List Char) :
    source.foldl (nextRow target) (row above [] target) = row (source.reverse ++ above) [] target := by
  induction source generalizing above with
  | nil => rfl
  | cons a source ih => rw [List.foldl_cons, nextRow_row, ih, List.reverse_cons, List.append_assoc,
      List.singleton_append]

private theorem getLastD_row (source done rest : List Char) :
    (row source done rest).getLastD 0 = levenshtein source (rest.reverse ++ done) := by
  induction rest generalizing done with
  | nil => rfl
  | cons b rest ih =>
    have later := ih (b :: done)
    rw [row_eq_cons] at later
    rw [row, row_eq_cons, List.getLastD_cons, List.reverse_cons, List.append_assoc, List.singleton_append]
    exact later

theorem editDistance_eq (s t : List Char) :
    editDistance s t = levenshtein s.reverse t.reverse := by
  rw [editDistance, List.range_eq_range', show List.range' 0 (t.length + 1) = row [] [] t from
    range_eq_row [] t, foldl_nextRow, getLastD_row, List.append_nil, List.append_nil]

/-- The edit distance is the least number of edits from one text to the other. -/
theorem isLeast_editDistance (s t : List Char) : IsLeast {n | Edits n s t} (editDistance s t) := by
  have least := isLeast_levenshtein s.reverse t.reverse
  simp only [edits_reverse_iff] at least
  rwa [editDistance_eq]

end Table

section Choice

variable {name best other : String} {candidates : List String} {x y z : Nat × String}

/-- Nearer, or as near and not behind in the order of texts. -/
def Precedes (x y : Nat × String) : Prop := x.1 < y.1 ∨ x.1 = y.1 ∧ x.2 ≤ y.2

theorem Precedes.refl (x : Nat × String) : Precedes x x := .inr ⟨rfl, String.le_refl x.2⟩

theorem Precedes.trans (first : Precedes x y) (second : Precedes y z) : Precedes x z := by
  rcases first with nearer | ⟨same, ordered⟩ <;> rcases second with nearer' | ⟨same', ordered'⟩
  · exact .inl (nearer.trans nearer')
  · exact .inl (same' ▸ nearer)
  · exact .inl (same ▸ nearer')
  · exact .inr ⟨same.trans same', String.le_trans ordered ordered'⟩

private theorem nearer_precedes (x y : Nat × String) :
    Precedes (nearer x y) x ∧ Precedes (nearer x y) y := by
  unfold nearer
  split
  · rename_i later
    refine ⟨?_, .refl y⟩
    rcases later with closer | ⟨same, less⟩
    · exact .inl closer
    · exact .inr ⟨same, String.not_lt.1 (String.lt_asymm less)⟩
  · rename_i earlier
    obtain ⟨closer, ordered⟩ := not_or.1 earlier
    refine ⟨.refl x, ?_⟩
    rcases Nat.lt_or_eq_of_le (Nat.le_of_not_lt closer) with less | same
    · exact .inl less
    · exact .inr ⟨same, String.not_lt.1 fun less => ordered ⟨same.symm, less⟩⟩

private theorem nearer_cases (x y : Nat × String) : nearer x y = x ∨ nearer x y = y := by
  unfold nearer
  split
  · exact .inr rfl
  · exact .inl rfl

/-- The fold ends with a first one of all it has seen. -/
private theorem foldl_nearer (first : Nat × String) (rest : List (Nat × String)) :
    rest.foldl nearer first ∈ first :: rest ∧
      ∀ x ∈ first :: rest, Precedes (rest.foldl nearer first) x := by
  induction rest generalizing first with
  | nil => exact ⟨List.mem_singleton_self first, List.forall_mem_singleton.2 (.refl first)⟩
  | cons next rest ih =>
    obtain ⟨member, least⟩ := ih (nearer first next)
    obtain ⟨here, later⟩ := List.forall_mem_cons.1 least
    obtain ⟨beforeFirst, beforeNext⟩ := nearer_precedes first next
    rw [List.foldl_cons]
    constructor
    · rcases List.mem_cons.1 member with same | among
      · rw [same]
        rcases nearer_cases first next with chosen | chosen <;> simp [chosen]
      · exact List.mem_cons_of_mem _ (List.mem_cons_of_mem _ among)
    · exact List.forall_mem_cons.2 ⟨here.trans beforeFirst,
        List.forall_mem_cons.2 ⟨here.trans beforeNext, later⟩⟩

/-- A candidate within tolerance, at the least distance of all, and the first in the order of texts of
those at that distance. -/
structure IsClosest (name : String) (candidates : List String) (best : String) : Prop where
  member : best ∈ candidates
  near : editDistance name.toList best.toList ≤ max 2 (name.utf8ByteSize / 3)
  least : ∀ c ∈ candidates, editDistance name.toList best.toList ≤ editDistance name.toList c.toList
  first : ∀ c ∈ candidates,
    editDistance name.toList c.toList = editDistance name.toList best.toList → best ≤ c

theorem IsClosest.unique (is : IsClosest name candidates best)
    (is' : IsClosest name candidates other) : best = other := by
  have same := Nat.le_antisymm (is.least _ is'.member) (is'.least _ is.member)
  exact String.le_antisymm (is.first _ is'.member same.symm) (is'.first _ is.member same)

theorem IsClosest.congr {others : List String} (same : ∀ c, c ∈ others ↔ c ∈ candidates)
    (is : IsClosest name candidates best) : IsClosest name others best where
  member := (same best).2 is.member
  near := is.near
  least c member := is.least c ((same c).1 member)
  first c member := is.first c ((same c).1 member)

/-- The candidates in question are those within tolerance, each with its distance. -/
private theorem mem_scored (name : String) (candidates : List String) (x : Nat × String) :
    x ∈ (candidates.map fun c => (editDistance name.toList c.toList, c)).filter
      (fun scored => scored.1 ≤ tolerance name) ↔
    x.2 ∈ candidates ∧ x.1 = editDistance name.toList x.2.toList ∧ x.1 ≤ tolerance name := by
  obtain ⟨distance, c⟩ := x
  simp only [List.mem_filter, List.mem_map, Prod.mk.injEq, decide_eq_true_eq]
  constructor
  · rintro ⟨⟨_, member, same, rfl⟩, near⟩
    exact ⟨member, same.symm, near⟩
  · rintro ⟨member, same, near⟩
    exact ⟨⟨c, member, same.symm, rfl⟩, near⟩

/-- Either all candidates are too far off, or the closest one is answered. -/
theorem closest?_cases (name : String) (candidates : List String) :
    (∀ c ∈ candidates, max 2 (name.utf8ByteSize / 3) < editDistance name.toList c.toList) ∧
        closest? name candidates = none ∨
      ∃ best, IsClosest name candidates best ∧ closest? name candidates = some best := by
  have among := mem_scored name candidates
  unfold closest?
  dsimp only
  split
  · rename_i empty
    refine .inl ⟨fun c member => Nat.lt_of_not_le fun near => ?_, rfl⟩
    have scored := (among (editDistance name.toList c.toList, c)).2 ⟨member, rfl, near⟩
    rw [empty] at scored
    cases scored
  · rename_i first rest scored
    rw [scored] at among
    obtain ⟨chosen, before⟩ := foldl_nearer first rest
    generalize rest.foldl nearer first = best at chosen before ⊢
    obtain ⟨member, distance, near⟩ := (among best).1 chosen
    rw [distance] at near
    have ahead (c : String) (listed : c ∈ candidates)
        (close : editDistance name.toList c.toList ≤ tolerance name) :
        editDistance name.toList best.2.toList < editDistance name.toList c.toList ∨
          editDistance name.toList best.2.toList = editDistance name.toList c.toList ∧ best.2 ≤ c :=
      distance ▸ before (_, c) ((among (_, c)).2 ⟨listed, rfl, close⟩)
    refine .inr ⟨best.2, ⟨member, near, fun c listed => ?_, fun c listed same => ?_⟩, rfl⟩
    · rcases Nat.lt_or_ge (tolerance name) (editDistance name.toList c.toList) with far | close
      · exact near.trans far.le
      · exact (ahead c listed close).elim Nat.le_of_lt fun same => same.1.le
    · have inOrder := ahead c listed (same ▸ near)
      rw [same] at inOrder
      exact inOrder.elim (fun less => absurd less (Nat.lt_irrefl _)) And.right

theorem closest?_eq_none_iff : closest? name candidates = none ↔
    ∀ c ∈ candidates, max 2 (name.utf8ByteSize / 3) < editDistance name.toList c.toList := by
  rcases closest?_cases name candidates with ⟨far, answer⟩ | ⟨best, is, answer⟩
  · exact iff_of_true answer far
  · refine iff_of_false (by simp [answer]) fun far => ?_
    exact absurd is.near (Nat.not_le_of_lt (far best is.member))

theorem closest?_eq_some_iff : closest? name candidates = some best ↔ IsClosest name candidates best := by
  rcases closest?_cases name candidates with ⟨far, answer⟩ | ⟨found, is, answer⟩
  · refine iff_of_false (by simp [answer]) fun is => ?_
    exact absurd is.near (Nat.not_le_of_lt (far best is.member))
  · rw [answer, Option.some_inj]
    exact ⟨fun same => same ▸ is, is.unique⟩

theorem closest?_congr {others : List String} (same : ∀ c, c ∈ others ↔ c ∈ candidates) :
    closest? name others = closest? name candidates := by
  apply Option.ext
  intro best
  rw [closest?_eq_some_iff, closest?_eq_some_iff]
  exact ⟨.congr fun c => (same c).symm, .congr same⟩

end Choice

/-- The distance is the least number of edits, and the closest candidate is the first in the order of
texts of those at the least distance, if that is within a third of the bytes of the name or two. -/
theorem closest_by_least_edits (name : String) (candidates : List String) :
    (∀ s t, IsLeast {n | Edits n s t} (editDistance s t)) ∧
    (closest? name candidates = none ↔
      ∀ c ∈ candidates, max 2 (name.utf8ByteSize / 3) < editDistance name.toList c.toList) ∧
    (∀ best, closest? name candidates = some best ↔ IsClosest name candidates best) ∧
    ∀ others, (∀ c, c ∈ others ↔ c ∈ candidates) →
      closest? name others = closest? name candidates :=
  ⟨isLeast_editDistance, closest?_eq_none_iff, fun _ => closest?_eq_some_iff,
    fun _ => closest?_congr⟩

/-- Of two names at the same distance the first in order is meant, wherever it is listed. -/
theorem tie_goes_to_first_name :
    closest? "cachd" ["uncached", "cached", "cache", "core"] = some "cache" ∧
      editDistance "cachd".toList "cached".toList = 1 ∧
      (∀ c, c ∈ ["core", "cache", "cached", "uncached", "cached"] ↔
        c ∈ ["uncached", "cached", "cache", "core"]) ∧
      closest? "cachd" ["core", "cache", "cached", "uncached", "cached"] = some "cache" := by
  obtain ⟨-, -, found, alike⟩ :=
    closest_by_least_edits "cachd" ["uncached", "cached", "cache", "core"]
  have listed : closest? "cachd" ["uncached", "cached", "cache", "core"] = some "cache" := by
    decide +kernel
  have same : ∀ c, c ∈ ["core", "cache", "cached", "uncached", "cached"] ↔
      c ∈ ["uncached", "cached", "cache", "core"] := by
    intro c
    simp only [List.mem_cons, List.not_mem_nil, or_false]
    tauto
  exact ⟨listed, by decide +kernel, same, (alike _ same).trans listed⟩

end Conformance.Similarity
