import Conformance.Session

/-! What is remembered during a run stays true: whichever way a value is asked for, it is the one
that its computation gives. -/
namespace Conformance.Memo
variable {κ α ε : Type} [DecidableEq κ] {truth : κ → α → Prop} {m : Memo κ α} {key : κ}

/-- Every remembered value is true of its key. -/
def Sound (m : Memo κ α) (truth : κ → α → Prop) : Prop :=
  ∀ entry ∈ m.entries, truth entry.1 entry.2

omit [DecidableEq κ] in
theorem sound_empty : Sound ({} : Memo κ α) truth := by
  intro entry member
  cases member

theorem Sound.find? (sound : m.Sound truth) {a : α} (found : m.find? key = some a) :
    truth key a := by
  unfold Memo.find? at found
  obtain ⟨entry, first, value⟩ := Option.map_eq_some_iff.1 found
  have same : entry.1 = key := by simpa using List.find?_some first
  have holds := sound entry (List.mem_of_find?_eq_some first)
  rwa [same, value] at holds

theorem Sound.insertOrGet {value : α} (sound : m.Sound truth) (holds : truth key value) :
    truth key (m.insertOrGet key value).1 ∧ (m.insertOrGet key value).2.Sound truth := by
  unfold Memo.insertOrGet
  split
  · rename_i a found
    exact ⟨sound.find? found, sound⟩
  · refine ⟨holds, ?_⟩
    intro entry member
    rcases List.mem_append.1 member with old | new
    · exact sound entry old
    · rw [List.mem_singleton.1 new]
      exact holds

/-- A value that is asked for is true of its key, remembered or not. -/
theorem Sound.getOrInsert (sound : m.Sound truth) (key : κ) (compute : Unit → α)
    (holds : truth key (compute ())) :
    truth key (m.getOrInsert key compute).1 ∧ (m.getOrInsert key compute).2.Sound truth := by
  unfold Memo.getOrInsert Memo.lookup
  cases found : m.find? key with
  | some a => exact ⟨sound.find? found, sound⟩
  | none => exact Sound.insertOrGet sound holds

/-- A computation that may fail gives its own outcome, if what it gives is the only truth. -/
theorem Sound.getOrTryInsert (sound : m.Sound truth) (key : κ) (compute : Unit → Except ε α)
    (exact : ∀ a, truth key a ↔ compute () = .ok a) :
    (m.getOrTryInsert key compute).1 = compute () ∧
      (m.getOrTryInsert key compute).2.Sound truth := by
  unfold Memo.getOrTryInsert Memo.lookup
  cases found : m.find? key with
  | some a => exact ⟨((exact a).1 (sound.find? found)).symm, sound⟩
  | none =>
    cases computed : compute () with
    | error e => exact ⟨rfl, sound⟩
    | ok a =>
      have counted : ({ m with misses := m.misses + 1 } : Memo κ α).Sound truth := sound
      have stored := counted.insertOrGet ((exact a).2 computed)
      refine ⟨?_, stored.2⟩
      exact ((exact _).1 stored.1).symm.trans computed

end Conformance.Memo
