import Conformance.Proofs.Tag.Collected

/-! What one line does to the tag scanner. The tags of a comment are read to its end, and nothing is
read behind an override, so a line opens at most one. All but a field line first close the override
that is being collected. -/
namespace Conformance

namespace TagScan

open Scanner

section Reading

variable {text tag rest : List Char}

/-- The text in which to look on after a tag. -/
def afterTag (tag rest : List Char) : List Char := (applyTag {} 0 tag rest).2

theorem Scanner.archTag_snd (s : Scanner) (line : Nat) (rest : List Char) :
    (s.archTag line rest).2 = (firstToken rest).2 := by
  unfold archTag
  dsimp only
  split
  · rfl
  · split <;> rfl

theorem applyTag_snd (s : Scanner) (line : Nat) (tag rest : List Char) :
    (s.applyTag line tag rest).2 = afterTag tag rest := by
  unfold afterTag applyTag
  dsimp only
  split
  · rw [archTag_snd, archTag_snd]
  split
  · rfl
  split
  · rfl
  split
  · rfl
  split <;> rfl

theorem Scanner.Applies.length_le {s : Scanner} {line : Nat} {result : Scanner × List Char}
    (taken : Applies s line tag rest result) : result.2.length ≤ rest.length := by
  have shorter : (firstToken rest).2.length ≤ rest.length := by
    refine ((List.dropWhile_suffix _).trans ((List.dropWhile_suffix _).trans ?_)).length_le
    exact List.dropWhile_suffix _
  cases taken with
  | arch =>
    rw [archTag_snd]
    exact shorter
  | override named => exact Nat.zero_le _
  | strayField problem => exact Nat.zero_le _
  | intent => exact shorter
  | inlineIntent named => exact Nat.le_refl _
  | other => exact Nat.le_refl _

private theorem length_of_splitTag? (read : splitTag? text = some (tag, rest)) :
    rest.length < text.length := by
  obtain ⟨body, start, -, -, rfl⟩ := splitTag?_eq_some read
  have trimmed := (List.dropWhile_suffix Chars.isBlank (l := text)).length_le
  have follows := (List.dropWhile_suffix (fun c => !Chars.isBlank c) (l := body)).length_le
  have rest := Chars.length_trim_le (Chars.spanToken body).2
  rw [← Chars.trimStart.eq_def, start, List.length_cons] at trimmed
  exact (rest.trans follows).trans_lt trimmed

theorem length_afterTag_lt (read : splitTag? (fromAt text) = some (tag, rest)) :
    (afterTag tag rest).length < text.length :=
  ((applies {} 0 tag rest).length_le.trans_lt (length_of_splitTag? read)).trans_le
    (List.dropWhile_suffix _).length_le

/-- The tags of a comment with what follows them, in the order in which they are read. -/
def tagsIn (text : List Char) : List (List Char × List Char) :=
  match _ : splitTag? (fromAt text) with
  | some (tag, rest) => (tag, rest) :: tagsIn (afterTag tag rest)
  | none => []
termination_by text.length
decreasing_by exact length_afterTag_lt ‹_›

theorem tagsIn_of_some (read : splitTag? (fromAt text) = some (tag, rest)) :
    tagsIn text = (tag, rest) :: tagsIn (afterTag tag rest) := by
  rw [tagsIn]
  split
  · rename_i found
    cases read.symm.trans found
    rfl
  · rename_i found
    cases read.symm.trans found

theorem tagsIn_of_none (read : splitTag? (fromAt text) = none) : tagsIn text = [] := by
  rw [tagsIn]
  split
  · rename_i found
    cases read.symm.trans found
  · rfl

/-- The scanner after tags on a line. -/
def Scanner.applyTags (s : Scanner) (line : Nat) (tags : List (List Char × List Char)) : Scanner :=
  tags.foldl (fun s read => (s.applyTag line read.1 read.2).1) s

/-- A comment is read to its end. -/
theorem comment_eq_applyTags {fuel : Nat} (enough : text.length < fuel) (s : Scanner) (line : Nat) :
    comment fuel s line text = s.applyTags line (tagsIn text) := by
  induction fuel generalizing s text with
  | zero => cases enough
  | succ fuel ih =>
    rw [comment]
    split
    · rename_i tag rest read
      have shorter := length_afterTag_lt read
      rw [tagsIn_of_some read, ← applyTag_snd s line tag rest]
      dsimp only
      rw [ih (by rw [applyTag_snd]; omega), applyTag_snd]
      rfl
    · rename_i read
      rw [tagsIn_of_none read]
      rfl

theorem solid_of_mem_tagsIn {read : List Char × List Char} (member : read ∈ tagsIn text) :
    ∀ c ∈ read.1, Chars.isBlank c = false := by
  induction text using tagsIn.induct with
  | case1 text tag rest found ih =>
    rw [tagsIn_of_some found] at member
    rcases List.mem_cons.1 member with rfl | later
    · obtain ⟨body, -, -, rfl, -⟩ := splitTag?_eq_some found
      exact fun c => Chars.solid_of_mem_spanToken
    · exact ih later
  | case2 text found =>
    rw [tagsIn_of_none found] at member
    cases member

/-- The rule and value of the override that a comment opens. -/
def openedIn? (text : List Char) : Option (List Char × List Char) :=
  (tagsIn text).findSome? fun read =>
    if String.ofList read.1 = "override" then ruleValue? read.2 else none

/-- Nothing is read behind an override. -/
theorem tagsIn_of_override (read : splitTag? (fromAt text) = some (tag, rest))
    (override : String.ofList tag = "override") : tagsIn text = [(tag, rest)] := by
  have done : afterTag tag rest = [] := by rw [afterTag, applyTag_override override]
  rw [tagsIn_of_some read, done, tagsIn_of_none rfl]

/-- What a comment opens is behind its first tag, or that is an override. -/
theorem openedIn?_of_read (read : splitTag? (fromAt text) = some (tag, rest)) :
    openedIn? text = if String.ofList tag = "override" then ruleValue? rest
      else openedIn? (afterTag tag rest) := by
  by_cases override : String.ofList tag = "override"
  · rw [openedIn?, tagsIn_of_override read override, List.findSome?_singleton, if_pos override,
      if_pos override]
  · rw [openedIn?, tagsIn_of_some read, List.findSome?_cons, if_neg override, if_neg override]
    rfl

end Reading

namespace Scanner

section Step

variable {s : Scanner} {line : Nat} {text : List Char}

/-- No override is being collected. -/
structure Resting (s : Scanner) : Prop where
  pending : s.pending = none
  state : s.state ≠ .inOverride

/-- An override is pending exactly in an override block. -/
def Settled (s : Scanner) : Prop := s.pending.isSome = true ↔ s.state = .inOverride

theorem Resting.settled (rests : Resting s) : Settled s := by
  simp [Settled, rests.pending, rests.state]

theorem Settled.resting (settled : Settled s) (outside : s.state ≠ .inOverride) : Resting s where
  pending := by simpa using mt settled.1 outside
  state := outside

/-- A scanner that has closed the override that another one may be collecting. -/
structure Closes (s closed : Scanner) : Prop extends Resting closed where
  seenCode : closed.seenCode = s.seenCode
  tags : closed.tags = { s.tags with overrides := s.collected }

theorem closes_finishOverride (s : Scanner) : Closes s s.finishOverride where
  pending := rfl
  state := by
    unfold finishOverride restingState
    dsimp only
    split
    · split <;> nofun
    · assumption
  seenCode := rfl
  tags := rfl

theorem Resting.closes (rests : Resting s) : Closes s s where
  pending := rests.pending
  state := rests.state
  seenCode := rfl
  tags := by simp [collected, rests.pending]

/-- Before any code, a comment outside an override opens the header of the file. -/
theorem Closes.header {closed : Scanner} (closes : Closes s closed) : Closes s
    (if closed.state = .outside ∧ !closed.seenCode then { closed with state := .header } else closed) := by
  split
  · exact ⟨⟨closes.pending, nofun⟩, closes.seenCode, closes.tags⟩
  · exact closes

private theorem field?_inBlock (s : Scanner) (inBlock : Bool) (line : Nat) (text : List Char) :
    ({ s with inBlock } : Scanner).field? line text =
      (s.field? line text).map fun filled => { filled with inBlock } := by
  obtain ⟨state, seenCode, _, pending, tags⟩ := s
  unfold field?
  dsimp only
  cases splitTag? text with
  | none => rfl
  | some read =>
    cases pending with
    | none => rfl
    | some pending =>
      dsimp only
      split
      · split <;> rfl
      · rfl

/-- What a line does. All but a field line first close the override that is being collected. -/
inductive Steps (s : Scanner) (line : Nat) (text : List Char) : Scanner → Prop where
  | field {body : List Char} {inBlock : Bool} {filled : Scanner}
      (kind : (classify s.inBlock text).1 = .comment body) (within : s.state = .inOverride)
      (read : s.field? line body = some filled) : Steps s line text { filled with inBlock }
  | code {closed : Scanner} (kind : (classify s.inBlock text).1 = .code) (closes : Closes s closed) :
      Steps s line text { closed with seenCode := true, state := .outside }
  | blank {closed : Scanner} (kind : (classify s.inBlock text).1 = .blank)
      (closes : Closes s closed) : Steps s line text closed
  | comment {body : List Char} {closed : Scanner}
      (kind : (classify s.inBlock text).1 = .comment body)
      (read : s.state = .inOverride → s.field? line body = none) (closes : Closes s closed) :
      Steps s line text (closed.applyTags line (tagsIn body))

theorem steps (settled : Settled s) (line : Nat) (text : List Char) :
    Steps s line text (s.step line text) := by
  unfold step
  cases seen : classify s.inBlock text with
  | mk kind inBlock =>
    have closes : Closes s ({ s with inBlock } : Scanner).finishOverride := by
      obtain ⟨rests, seenCode, tags⟩ := closes_finishOverride { s with inBlock }
      exact ⟨rests, seenCode, tags⟩
    have rests (outside : s.state ≠ .inOverride) : Closes s { s with inBlock } := by
      obtain ⟨⟨pending, state⟩, seenCode, tags⟩ := (settled.resting outside).closes
      exact ⟨⟨pending, state⟩, seenCode, tags⟩
    have kinds := congrArg Prod.fst seen
    cases kind with
    | code => exact .code kinds closes
    | blank =>
      dsimp only
      split
      · exact .blank kinds closes
      · rename_i outside
        exact .blank kinds (rests outside)
    | comment body =>
      dsimp only
      rw [field?_inBlock]
      split
      · rename_i within
        cases read : s.field? line body with
        | some filled => exact .field kinds within read
        | none =>
          dsimp only [Option.map_none]
          rw [comment_eq_applyTags (Nat.lt_succ_self _)]
          exact .comment kinds (fun _ => read) closes.header
      · rename_i outside
        rw [comment_eq_applyTags (Nat.lt_succ_self _)]
        exact .comment kinds (fun within => absurd within outside) (rests outside).header

end Step

section Openings

variable {s s' : Scanner} {line : Nat} {tag text rule value : List Char}

/-- Line, rule and value of each override that has been opened. -/
def openings (s : Scanner) : List (Nat × String × String) :=
  s.collected.map fun t => (t.line, t.rule, t.value)

/-- A rule and a value as an opening on a line, if there are any. -/
def openingOn (line : Nat) (opened : Option (List Char × List Char)) : List (Nat × String × String) :=
  (opened.map fun (rule, value) => (line, String.ofList rule, String.ofList value)).toList

theorem Spares.resting (spares : Spares s s') (rests : Resting s) : Resting s' where
  pending := spares.pending.trans rests.pending
  state := spares.state ▸ rests.state

private theorem settled_overrideTag (s : Scanner) (line : Nat) (rest : List Char) :
    Settled (s.overrideTag line rest) := by
  unfold overrideTag
  dsimp only
  split
  · exact ⟨fun _ => rfl, fun _ => rfl⟩
  · exact (closes_finishOverride s).settled

private theorem openings_overrideTag (s : Scanner) (line : Nat) (rest : List Char) :
    (s.overrideTag line rest).openings = s.openings ++ openingOn line (ruleValue? rest) := by
  unfold overrideTag
  dsimp only
  split
  · rename_i rule value read
    rw [read]
    simp [openings, collected, finishOverride, openingOn]
  · rename_i read
    rw [read, openings, collected_addError, collected_finishOverride]
    exact (List.append_nil _).symm

private theorem settled_applyTags (rests : Resting s) (line : Nat) (text : List Char) :
    Settled (s.applyTags line (tagsIn text)) := by
  induction text using tagsIn.induct generalizing s with
  | case1 text tag rest found ih =>
    by_cases override : String.ofList tag = "override"
    · rw [tagsIn_of_override found override, applyTags, List.foldl_cons, List.foldl_nil,
        applyTag_override override]
      exact settled_overrideTag s line rest
    · rw [tagsIn_of_some found]
      exact ih (((applies s line tag rest).spares override).resting rests)
  | case2 text found =>
    rw [tagsIn_of_none found]
    exact rests.settled

/-- A comment adds the override that it opens. -/
private theorem openings_applyTags (s : Scanner) (line : Nat) (text : List Char) :
    (s.applyTags line (tagsIn text)).openings = s.openings ++ openingOn line (openedIn? text) := by
  induction text using tagsIn.induct generalizing s with
  | case1 text tag rest found ih =>
    by_cases override : String.ofList tag = "override"
    · rw [openedIn?_of_read found, if_pos override, tagsIn_of_override found override, applyTags,
        List.foldl_cons, List.foldl_nil, applyTag_override override, openings_overrideTag]
    · rw [openedIn?_of_read found, if_neg override, tagsIn_of_some found]
      refine (ih _).trans (congrArg (· ++ _) ?_)
      rw [openings, ((applies s line tag rest).spares override).collected, openings]
  | case2 text found =>
    rw [openedIn?, tagsIn_of_none found]
    exact (List.append_nil _).symm

private theorem openings_field? {filled : Scanner} (read : s.field? line text = some filled) :
    filled.openings = s.openings := by
  obtain ⟨field, rfl⟩ | ⟨pending, field, value, open?, -, -, rfl⟩ := field?_cases read
  · rfl
  · have kept : ((setField pending field (String.ofList value)).line,
        (setField pending field (String.ofList value)).rule,
        (setField pending field (String.ofList value)).value) =
        (pending.line, pending.rule, pending.value) := by
      unfold setField
      split <;> rfl
    simp [openings, collected, open?, kept]

private theorem settled_field? {filled : Scanner} (within : s.state = .inOverride)
    (settled : Settled s) (read : s.field? line text = some filled) : Settled filled := by
  obtain ⟨field, rfl⟩ | ⟨pending, field, value, -, -, -, rfl⟩ := field?_cases read
  · exact settled
  · exact ⟨fun _ => within, fun _ => rfl⟩

theorem Closes.openings {closed : Scanner} (closes : Closes s closed) :
    closed.openings = s.openings := by
  simp [Scanner.openings, collected, closes.pending, closes.tags]

/-- The override that a line opens. -/
def openedBy? (s : Scanner) (line : Nat) (text : List Char) : Option (List Char × List Char) :=
  match (classify s.inBlock text).1 with
  | .comment body =>
    if s.state = .inOverride ∧ (s.field? line body).isSome then none else openedIn? body
  | _ => none

/-- An override is pending exactly in an override block, after a line as before it. -/
theorem Steps.settled (taken : Steps s line text s') (settled : Settled s) : Settled s' := by
  cases taken with
  | field kind within read =>
    have kept := settled_field? within settled read
    exact kept
  | code kind closes => exact Resting.settled ⟨closes.pending, nofun⟩
  | blank kind closes => exact closes.settled
  | comment kind read closes => exact settled_applyTags closes.toResting line _

/-- A line adds the override that it opens. -/
theorem Steps.openings (taken : Steps s line text s') :
    s'.openings = s.openings ++ openingOn line (s.openedBy? line text) := by
  unfold openedBy?
  cases taken with
  | field kind within read =>
    rw [kind]
    dsimp only
    rw [if_pos ⟨within, by rw [read]; rfl⟩]
    exact (openings_field? read).trans (List.append_nil _).symm
  | code kind closes =>
    rw [kind]
    exact closes.openings.trans (List.append_nil _).symm
  | blank kind closes =>
    rw [kind]
    exact closes.openings.trans (List.append_nil _).symm
  | comment kind read closes =>
    rw [kind]
    dsimp only
    rw [openings_applyTags, closes.openings, if_neg]
    rintro ⟨within, filled⟩
    simp [read within] at filled

end Openings

end Scanner

end TagScan

end Conformance
