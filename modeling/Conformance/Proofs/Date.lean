import Conformance.Date
import Mathlib.Data.List.Basic

/-! Dates in the order of the calendar. A day number grows with the year, within a year with the month
and within a month with the day, so that comparing day numbers compares dates. -/
namespace Conformance.Date

/-- The days of a year. -/
def yearLength (year : Int) : Nat := if isLeap year then 366 else 365

/-- Earlier in the calendar: by year, then month, then day of the month. -/
def Precedes (a b : Int × Nat × Nat) : Prop :=
  a.1 < b.1 ∨ a.1 = b.1 ∧ (a.2.1 < b.2.1 ∨ a.2.1 = b.2.1 ∧ a.2.2 < b.2.2)

instance (a b : Int × Nat × Nat) : Decidable (Precedes a b) :=
  inferInstanceAs (Decidable (_ ∨ _ ∧ (_ ∨ _ ∧ _)))

private theorem daysBeforeYear_succ (year : Int) :
    daysBeforeYear (year + 1) = daysBeforeYear year + yearLength year := by
  unfold daysBeforeYear yearLength isLeap
  simp only [Bool.and_eq_true, Bool.or_eq_true, beq_iff_eq, bne_iff_ne]
  split <;> omega

private theorem daysBeforeYear_mono {a b : Int} (le : a ≤ b) :
    daysBeforeYear a ≤ daysBeforeYear b := by
  unfold daysBeforeYear
  dsimp only
  omega

theorem daysBeforeMonth_succ (year : Int) {month : Nat} (positive : 1 ≤ month) :
    daysBeforeMonth year (month + 1) = daysBeforeMonth year month + monthLength year month := by
  obtain ⟨before, rfl⟩ := Nat.exists_eq_add_of_le' positive
  simp only [daysBeforeMonth, Nat.add_sub_cancel, List.range_succ, List.foldl_append, List.foldl_cons,
    List.foldl_nil]

theorem daysBeforeMonth_mono (year : Int) {a b : Nat} (positive : 1 ≤ a) (le : a ≤ b) :
    daysBeforeMonth year a ≤ daysBeforeMonth year b := by
  induction le with
  | refl => exact Nat.le_refl _
  | @step b later ih =>
    rw [daysBeforeMonth_succ year (Nat.le_trans positive later)]
    omega

/-- The twelve months make up the year. -/
private theorem daysBeforeMonth_thirteen (year : Int) :
    daysBeforeMonth year 13 = yearLength year := by
  unfold yearLength
  cases leap : isLeap year <;> simp [daysBeforeMonth, List.range_succ, monthLength, leap]

/-- A date is that of a year, month and day. -/
def IsMadeOf (date : Date) (parts : Int × Nat × Nat) : Prop :=
  ofParts? parts.1 parts.2.1 parts.2.2 = some date

instance (date : Date) (parts : Int × Nat × Nat) : Decidable (date.IsMadeOf parts) :=
  inferInstanceAs (Decidable (_ = _))

theorem IsMadeOf.bounds {date : Date} {year : Int} {month day : Nat}
    (made : date.IsMadeOf (year, month, day)) :
    1 ≤ month ∧ month ≤ 12 ∧ 1 ≤ day ∧ day ≤ monthLength year month ∧
      date.day = daysBeforeYear year + daysBeforeMonth year month + day - 1 - epoch := by
  unfold IsMadeOf ofParts? at made
  split at made
  · rename_i valid
    cases made
    obtain ⟨-, -, positive, most, first, last⟩ := valid
    exact ⟨positive, most, first, last, rfl⟩
  · cases made

theorem day_lt_of_precedes {a b : Date} {parts parts' : Int × Nat × Nat} (made : a.IsMadeOf parts)
    (made' : b.IsMadeOf parts') (before : Precedes parts parts') : a.day < b.day := by
  obtain ⟨year, month, day⟩ := parts
  obtain ⟨year', month', day'⟩ := parts'
  obtain ⟨positive, most, first, last, number⟩ := made.bounds
  obtain ⟨positive', -, first', -, number'⟩ := made'.bounds
  have inside := daysBeforeMonth_succ year positive
  rcases before with years | ⟨rfl, months | ⟨rfl, days⟩⟩
  · have months : daysBeforeMonth year (month + 1) ≤ yearLength year := by
      rw [← daysBeforeMonth_thirteen]
      exact daysBeforeMonth_mono year (Nat.le_add_left 1 month) (Nat.succ_le_succ most)
    have years := daysBeforeYear_mono (show year + 1 ≤ year' from years)
    rw [daysBeforeYear_succ] at years
    omega
  · have months :=
      daysBeforeMonth_mono year (Nat.le_add_left 1 month) (show month + 1 ≤ month' from months)
    dsimp only at *
    omega
  · dsimp only at *
    omega

/-- Day numbers are in the order of the calendar. -/
theorem day_lt_iff_precedes {a b : Date} {parts parts' : Int × Nat × Nat} (made : a.IsMadeOf parts)
    (made' : b.IsMadeOf parts') : a.day < b.day ↔ Precedes parts parts' := by
  refine ⟨fun less => ?_, day_lt_of_precedes made made'⟩
  by_cases after : Precedes parts' parts
  · have := day_lt_of_precedes made' made after
    omega
  · by_cases same : parts = parts'
    · subst same
      cases Option.some.inj (made.symm.trans made')
      omega
    · simp only [Precedes, Prod.ext_iff] at *
      omega

private theorem plain?_isMadeOf {s : List Char} {date : Date} (read : plain? s = some date) :
    ∃ parts, date.IsMadeOf parts := by
  simp only [plain?, Option.bind_eq_bind, Option.bind_eq_some_iff] at read
  obtain ⟨⟨year, _⟩, -, _, -, ⟨month, _⟩, -, _, -, ⟨day, _⟩, -, made⟩ := read
  split at made
  · exact ⟨(year, month, day), made⟩
  · cases made

private theorem timestamp?_isMadeOf {s : List Char} {date : Date}
    (read : timestamp? s = some date) :
    ∃ parts, date.IsMadeOf parts := by
  simp only [timestamp?, Option.bind_eq_bind, Option.bind_eq_some_iff] at read
  obtain ⟨⟨year, _⟩, -, _, -, ⟨month, _⟩, -, _, -, ⟨day, _⟩, -, made⟩ := read
  split at made
  · split at made
    · exact ⟨((year : Int), month, day), made⟩
    · cases made
  · cases made

/-- What is read is a date of the calendar. -/
theorem read?_isMadeOf {text : String} {date : Date} (read : read? text = some date) :
    ∃ parts, date.IsMadeOf parts := by
  rcases Option.or_eq_some_iff.1 read with plain | ⟨-, timestamp⟩
  · exact plain?_isMadeOf plain
  · exact timestamp?_isMadeOf timestamp

end Conformance.Date
