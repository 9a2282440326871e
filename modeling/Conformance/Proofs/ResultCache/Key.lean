import Conformance.ResultCache.Entry
import Mathlib.Data.List.Basic

/-! What the key of a stored result tells. The text and the stored model stand behind one another with a
zero byte between them, so the key tells them apart unless a text holds a zero character: then its
part behind the zero can be read as a stored model. -/
namespace Conformance

theorem inputBytes_eq (content : String) (model : Option String) :
    inputBytes content model =
      (String.ofList (content.toList ++ model.elim [] fun m => '\x00' :: m.toList)).toUTF8 := by
  cases model with
  | none => simp [inputBytes]
  | some m =>
    have zero : (⟨#[0]⟩ : ByteArray) = "\x00".toUTF8 := by decide
    rw [inputBytes, zero, String.toUTF8_eq_toByteArray, String.toUTF8_eq_toByteArray,
      String.toUTF8_eq_toByteArray, ← String.toByteArray_append, ← String.toByteArray_append,
      String.toUTF8_eq_toByteArray, String.toByteArray_inj, ← String.toList_inj]
    simp

/-- The longer text goes on behind a zero character with a first part of what was the stored model
of the shorter one; the rest of that model, behind one more zero if it is there, is its own. -/
def RunsInto (content : String) (model : Option String) (longer : String) (left : Option String) :
    Prop :=
  ∃ part, longer = content ++ "\x00" ++ part ∧
    model = some (part ++ left.elim "" fun m => "\x00" ++ m)

section Inputs

variable {content other : String} {model model' : Option String}

/-- A text that ends inside the other input, or with its text. -/
theorem same_or_runsInto {more : List Char} (longer : other.toList = content.toList ++ more)
    (rest : (model.elim [] fun m => '\x00' :: m.toList) =
      more ++ model'.elim [] fun m => '\x00' :: m.toList) :
    content = other ∧ model = model' ∨ RunsInto content model other model' := by
  cases more with
  | nil =>
    refine .inl ⟨String.toList_inj.1 (longer.trans (List.append_nil _)).symm, ?_⟩
    cases model with
    | none =>
      cases model' with
      | none => rfl
      | some m' => cases rest
    | some m =>
      cases model' with
      | none => cases rest
      | some m' => rw [String.toList_inj.1 (List.cons.inj rest).2]
  | cons zero part =>
    cases model with
    | none => cases rest
    | some m =>
      obtain ⟨rfl, rest⟩ := List.cons.inj rest
      refine .inr ⟨String.ofList part, String.toList_inj.1 ?_, congrArg some (String.toList_inj.1 ?_)⟩
      · simp [longer]
      · cases model' <;> simpa using rest

theorem inputBytes_of_runsInto (runs : RunsInto content model other model') :
    inputBytes content model = inputBytes other model' := by
  obtain ⟨part, rfl, rfl⟩ := runs
  rw [inputBytes_eq, inputBytes_eq]
  cases model' <;> simp

/-- Which inputs have the same bytes. -/
theorem inputBytes_eq_iff :
    inputBytes content model = inputBytes other model' ↔ content = other ∧ model = model' ∨
      RunsInto content model other model' ∨ RunsInto other model' content model := by
  constructor
  · intro same
    rw [inputBytes_eq, inputBytes_eq, String.toUTF8_eq_toByteArray, String.toUTF8_eq_toByteArray,
      String.toByteArray_inj, String.ofList_inj] at same
    rcases List.append_eq_append_iff.1 same with ⟨more, longer, rest⟩ | ⟨more, longer, rest⟩
    · exact (same_or_runsInto longer rest).imp_right .inl
    · exact (same_or_runsInto longer rest).imp (fun ⟨text, stored⟩ => ⟨text.symm, stored.symm⟩) .inr
  · rintro (⟨rfl, rfl⟩ | runs | runs)
    · rfl
    · exact inputBytes_of_runsInto runs
    · exact (inputBytes_of_runsInto runs).symm

theorem not_runsInto_of_plain (plain : '\x00' ∉ other.toList) :
    ¬ RunsInto content model other model' := by
  rintro ⟨part, rfl, -⟩
  exact plain (by simp)

theorem RunsInto.text_ne (runs : RunsInto content model other model') : content ≠ other := by
  obtain ⟨part, rfl, -⟩ := runs
  intro same
  have length := congrArg String.length same
  rw [String.length_append, String.length_append, show "\x00".length = 1 from rfl] at length
  omega

theorem RunsInto.model_ne (runs : RunsInto content model other model') : model ≠ model' := by
  obtain ⟨part, -, rfl⟩ := runs
  cases model' with
  | none => nofun
  | some m =>
    intro same
    have length := congrArg String.length (Option.some.inj same)
    rw [Option.elim_some, String.length_append, String.length_append,
      show "\x00".length = 1 from rfl] at length
    omega

theorem inputBytes_plain (plain : '\x00' ∉ content.toList) (plainToo : '\x00' ∉ other.toList)
    (same : inputBytes content model = inputBytes other model') :
    content = other ∧ model = model' := by
  rcases inputBytes_eq_iff.1 same with equal | runs | runs
  · exact equal
  · exact absurd runs (not_runsInto_of_plain plainToo)
  · exact absurd runs (not_runsInto_of_plain plain)

end Inputs

/-- Two inputs have the same bytes exactly if they are the same, or one text goes on, behind a zero
character, with the stored model of the other. -/
theorem key_tells_inputs_apart (content other : String) (model model' : Option String) :
    (inputBytes content model = inputBytes other model' ↔ content = other ∧ model = model' ∨
      RunsInto content model other model' ∨ RunsInto other model' content model) ∧
    ((Sha256.digest (inputBytes content model) = Sha256.digest (inputBytes other model') →
        inputBytes content model = inputBytes other model') →
      content = other ∨ model = model' ∨ '\x00' ∉ content.toList ∧ '\x00' ∉ other.toList →
      (inputChecksum content model = inputChecksum other model' ↔
        content = other ∧ model = model')) := by
  refine ⟨inputBytes_eq_iff, fun free edited => ⟨fun same => ?_, ?_⟩⟩
  · rcases edited with text | stored | ⟨plain, plainToo⟩
    · rcases inputBytes_eq_iff.1 (free same) with equal | runs | runs
      · exact equal
      · exact absurd text runs.text_ne
      · exact absurd text.symm runs.text_ne
    · rcases inputBytes_eq_iff.1 (free same) with equal | runs | runs
      · exact equal
      · exact absurd stored runs.model_ne
      · exact absurd stored.symm runs.model_ne
    · exact inputBytes_plain plain plainToo (free same)
  · rintro ⟨rfl, rfl⟩
    rfl

/-- An empty stored model is not the same as none, even behind a text with a zero character. -/
theorem empty_model_changes_key :
    inputChecksum "x\x00" none ≠ inputChecksum "x\x00" (some "") := by
  have differs : Sha256.digest (inputBytes "x\x00" none) ≠
      Sha256.digest (inputBytes "x\x00" (some "")) := by
    decide +kernel
  have tells := (key_tells_inputs_apart "x\x00" "x\x00" none (some "")).2
    (fun same => absurd same differs) (.inl rfl)
  rw [ne_eq, tells]
  nofun

/-- The bytes of a text with a zero character are those of its first part with a stored model. -/
theorem model_behind_zero_is_text :
    inputBytes "x\n\x00\x7b\x7d" none = inputBytes "x\n" (some "\x7b\x7d") ∧
      ("x\n\x00\x7b\x7d", none) ≠ ("x\n", some "\x7b\x7d") := by
  refine ⟨inputBytes_of_runsInto ?_ |>.symm, by decide⟩
  exact ⟨"\x7b\x7d", by decide, by decide⟩

end Conformance
