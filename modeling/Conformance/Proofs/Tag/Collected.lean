import Conformance.Proofs.Text
import Conformance.Tag.Scan

/-! Which overrides a scan collects. A property that an override has when it is opened, and keeps as its
fields are filled in, is one of all overrides of a text. -/
namespace Conformance

theorem Chars.cut?_eq_some {sep : Char} {s before after : List Char}
    (cut : cut? [sep] s = some (before, after)) : s = before ++ sep :: after ∧ sep ∉ before := by
  induction s generalizing before with
  | nil => cases cut
  | cons c s ih =>
    by_cases same : sep = c
    · subst same
      simp only [cut?, strip?, if_true] at cut
      cases cut
      exact ⟨rfl, List.not_mem_nil⟩
    · simp only [cut?, strip?, if_neg same, Option.map_eq_some_iff] at cut
      obtain ⟨⟨lead, rest⟩, found, parts⟩ := cut
      cases parts
      obtain ⟨rfl, absent⟩ := ih found
      exact ⟨rfl, List.not_mem_cons_of_ne_of_not_mem same absent⟩

theorem Chars.trim_subset (s : List Char) : trim s ⊆ s := by
  intro c member
  have within := List.mem_reverse.1 member
  have kept := List.mem_reverse.1 ((List.dropWhile_suffix isBlank).subset within)
  exact (List.dropWhile_suffix isBlank).subset kept

namespace TagScan.Scanner

variable {P : OverrideTag → Prop} {s s' : Scanner}

/-- The overrides of a scanner, with the one that still collects its fields. -/
def collected (s : Scanner) : List OverrideTag := s.tags.overrides ++ s.pending.toList

/-- A property that holds of a new override and is kept when a field is set. -/
structure Lasting (P : OverrideTag → Prop) : Prop where
  opened : ∀ {rest rule value : List Char} (line : Nat), ruleValue? rest = some (rule, value) →
    P { rule := String.ofList rule, value := String.ofList value, line }
  filled : ∀ {t : OverrideTag} (field : String) {value : List Char}, value ≠ [] →
    Chars.trim value = value → P t → P (setField t field (String.ofList value))

@[simp] theorem collected_finishOverride (s : Scanner) : s.finishOverride.collected = s.collected := by
  simp [collected, finishOverride]

@[simp] theorem collected_addError (s : Scanner) (line : Nat) (problem : TagProblem) :
    (s.addError line problem).collected = s.collected := rfl

/-- What a tag does, with the text in which to look on. -/
inductive Applies (s : Scanner) (line : Nat) (tag rest : List Char) : Scanner × List Char → Prop where
  | arch : Applies s line tag rest (s.archTag line rest)
  | override (named : String.ofList tag = "override") :
      Applies s line tag rest (s.overrideTag line rest, [])
  | strayField (problem : TagProblem) : Applies s line tag rest (s.addError line problem, [])
  | intent : Applies s line tag rest (s.addIntent line (firstToken rest).1, (firstToken rest).2)
  | inlineIntent {name : List Char} (named : Chars.strip? "intent:".toList tag = some name) :
      Applies s line tag rest (s.addIntent line name, rest)
  | other : Applies s line tag rest (s, rest)

theorem applies (s : Scanner) (line : Nat) (tag rest : List Char) :
    Applies s line tag rest (s.applyTag line tag rest) := by
  unfold applyTag
  dsimp only
  split
  · exact .arch
  split
  · rename_i named
    exact .override (beq_iff_eq.1 named)
  split
  · exact .strayField _
  split
  · exact .intent
  split
  · rename_i named
    exact .inlineIntent named
  · exact .other

/-- What is collected stays as it is. -/
structure Spares (s s' : Scanner) : Prop where
  state : s'.state = s.state
  pending : s'.pending = s.pending
  overrides : s'.tags.overrides = s.tags.overrides

theorem Spares.collected (spares : Spares s s') : s'.collected = s.collected := by
  rw [Scanner.collected, Scanner.collected, spares.overrides, spares.pending]

private theorem spares_archTag (s : Scanner) (line : Nat) (rest : List Char) :
    Spares s (s.archTag line rest).1 := by
  unfold archTag
  dsimp only
  split
  · exact ⟨rfl, rfl, rfl⟩
  · split <;> exact ⟨rfl, rfl, rfl⟩

theorem spares_addIntent (s : Scanner) (line : Nat) (name : List Char) :
    Spares s (s.addIntent line name) := by
  unfold addIntent
  split <;> exact ⟨rfl, rfl, rfl⟩

/-- Only an override touches what is collected. -/
theorem Applies.spares {line : Nat} {tag rest : List Char} {result : Scanner × List Char}
    (taken : Applies s line tag rest result) (other : String.ofList tag ≠ "override") :
    Spares s result.1 := by
  cases taken with
  | arch => exact spares_archTag s line rest
  | override named => exact absurd named other
  | strayField problem => exact ⟨rfl, rfl, rfl⟩
  | intent => exact spares_addIntent s line _
  | inlineIntent named => exact spares_addIntent s line _
  | other => exact ⟨rfl, rfl, rfl⟩

theorem applyTag_override {tag : List Char} (override : String.ofList tag = "override") (s : Scanner)
    (line : Nat) (rest : List Char) :
    s.applyTag line tag rest = (s.overrideTag line rest, []) := by
  rw [applyTag, override]
  rfl

private theorem collected_overrideTag (lasting : Lasting P) (line : Nat) (rest : List Char)
    (before : ∀ t ∈ s.collected, P t) : ∀ t ∈ (s.overrideTag line rest).collected, P t := by
  rw [← collected_finishOverride] at before
  unfold overrideTag
  dsimp only
  split
  · rename_i rule value read
    intro t member
    rcases List.mem_append.1 member with earlier | now
    · exact before t (List.mem_append_left _ earlier)
    · cases List.mem_singleton.1 now
      exact lasting.opened line read
  · rw [collected_addError]
    exact before

private theorem collected_applyTag (lasting : Lasting P) (line : Nat) (tag rest : List Char)
    (before : ∀ t ∈ s.collected, P t) : ∀ t ∈ (s.applyTag line tag rest).1.collected, P t := by
  by_cases override : String.ofList tag = "override"
  · rw [applyTag_override override]
    exact collected_overrideTag lasting line rest before
  · rwa [((applies s line tag rest).spares override).collected]

private theorem collected_comment (lasting : Lasting P) (fuel line : Nat) (text : List Char)
    (before : ∀ t ∈ s.collected, P t) : ∀ t ∈ (comment fuel s line text).collected, P t := by
  induction fuel generalizing s text with
  | zero => exact before
  | succ fuel ih =>
    unfold comment
    split
    · exact ih _ (collected_applyTag lasting line _ _ before)
    · exact before

/-- A tag is a word behind an at sign, and its rest is trimmed. -/
theorem splitTag?_eq_some {text tag rest : List Char} (read : splitTag? text = some (tag, rest)) :
    ∃ body, Chars.trimStart text = '@' :: body ∧ tag ≠ [] ∧ tag = (Chars.spanToken body).1 ∧
      rest = Chars.trim (Chars.spanToken body).2 := by
  unfold splitTag? at read
  split at read
  · rename_i body start
    dsimp only at read
    split at read
    · cases read
    · rename_i given
      cases read
      exact ⟨body, start, mt List.isEmpty_iff.2 given, rfl, rfl⟩
  · cases read

/-- A field line gives its field a value, or there is none. -/
theorem field?_cases {line : Nat} {text : List Char}
    (read : s.field? line text = some s') :
    (∃ field, s' = s.addError line (.emptyField field)) ∨
    ∃ pending field value, s.pending = some pending ∧ value ≠ [] ∧ Chars.trim value = value ∧
      s' = { s with pending := some (setField pending field (String.ofList value)) } := by
  unfold field? at read
  split at read
  · rename_i tag rest pending found open?
    dsimp only at read
    split at read
    · split at read
      · cases read
        exact .inl ⟨_, rfl⟩
      · rename_i given
        cases read
        obtain ⟨body, -, -, -, same⟩ := splitTag?_eq_some found
        have trimmed : Chars.trim rest = rest := by rw [same, Chars.trim_trim]
        exact .inr ⟨pending, _, rest, open?, mt List.isEmpty_iff.2 given, trimmed, rfl⟩
    · cases read
  · cases read

private theorem collected_field? (lasting : Lasting P) {line : Nat} {text : List Char}
    (read : s.field? line text = some s') (before : ∀ t ∈ s.collected, P t) :
    ∀ t ∈ s'.collected, P t := by
  obtain ⟨field, rfl⟩ | ⟨pending, field, value, open?, given, trimmed, rfl⟩ := field?_cases read
  · exact before
  · intro t member
    rcases List.mem_append.1 member with earlier | now
    · exact before t (List.mem_append_left _ earlier)
    · cases List.mem_singleton.1 now
      refine lasting.filled field given trimmed (before pending (List.mem_append_right _ ?_))
      rw [open?]
      exact List.mem_singleton_self pending

/-- A comment outside an override may open the header of the file before its tags are read. -/
theorem collected_onward (lasting : Lasting P) (fuel line : Nat) (text : List Char)
    (before : ∀ t ∈ s.collected, P t) :
    ∀ t ∈ (comment fuel (if s.state = .outside ∧ !s.seenCode then { s with state := .header } else s)
      line text).collected, P t := by
  refine collected_comment lasting fuel line text ?_
  split <;> exact before

theorem collected_step (lasting : Lasting P) (line : Nat) (text : List Char)
    (before : ∀ t ∈ s.collected, P t) : ∀ t ∈ (s.step line text).collected, P t := by
  unfold step
  generalize classify s.inBlock text = seen
  obtain ⟨kind, inBlock⟩ := seen
  have before : ∀ t ∈ ({ s with inBlock } : Scanner).collected, P t := before
  cases kind with
  | code =>
    rw [← collected_finishOverride] at before
    exact before
  | blank =>
    dsimp only
    split
    · rwa [collected_finishOverride]
    · exact before
  | comment body =>
    dsimp only
    split
    · split
      · rename_i read
        exact collected_field? lasting read before
      · rw [← collected_finishOverride] at before
        exact collected_onward lasting _ line body before
    · exact collected_onward lasting _ line body before

end Scanner

theorem collected_run {P : OverrideTag → Prop} (lasting : Scanner.Lasting P)
    (lines : List (List Char × Nat)) {s : Scanner} (before : ∀ t ∈ s.collected, P t) :
    ∀ t ∈ (run s lines).collected, P t := by
  induction lines generalizing s with
  | nil => exact before
  | cons numbered rest ih => exact ih (Scanner.collected_step lasting _ _ before)

/-- All overrides of a text have a property that lasts. -/
theorem extract_overrides {P : OverrideTag → Prop} (lasting : Scanner.Lasting P) (content : String) :
    ∀ t ∈ (extract content).overrides, P t := by
  rw [extract]
  intro t member
  refine collected_run lasting (Chars.lines content.toList).zipIdx (s := {}) (fun _ inside => ?_) t ?_
  · exact absurd inside List.not_mem_nil
  · rw [← Scanner.collected_finishOverride]
    exact List.mem_append_left _ member

theorem Scanner.ruleValue?_eq_some {rest rule value : List Char}
    (read : ruleValue? rest = some (rule, value)) : rule ≠ [] ∧ Chars.trim rule = rule ∧ ':' ∉ rule ∧
      value ≠ [] ∧ Chars.trim value = value := by
  unfold ruleValue? at read
  split at read
  · rename_i before after cut
    dsimp only at read
    split at read
    · cases read
    · rename_i given
      cases read
      rw [Bool.or_eq_true, not_or, List.isEmpty_iff, List.isEmpty_iff] at given
      have noColon : ':' ∉ Chars.trim before := fun colon =>
        (Chars.cut?_eq_some cut).2 (Chars.trim_subset before colon)
      exact ⟨given.1, Chars.trim_trim before, noColon, given.2, Chars.trim_trim after⟩
  · cases read

/-- The rule of an override stands before the first colon. -/
theorem colon_not_mem_rule (content : String) :
    ∀ t ∈ (extract content).overrides, ':' ∉ t.rule.toList := by
  refine extract_overrides ⟨fun {rest rule value} line read => ?_,
    fun {t} field value _ _ absent => ?_⟩ content
  · rw [String.toList_ofList]
    exact (Scanner.ruleValue?_eq_some read).2.2.1
  · unfold Scanner.setField
    split <;> exact absent

end TagScan

end Conformance
