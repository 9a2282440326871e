import Conformance.Proofs.Tag.Blocks
import Conformance.Proofs.Tag.Openings
import Mathlib.Data.List.Induction

/-! What holds of a scan from line to line. An override is pending exactly while the scanner is in an
override block, and the overrides of a text are those that its lines open, each once and in order,
whenever they are handed out. -/
namespace Conformance

namespace Text

/-- A text that is not empty and has no blanks at its ends. -/
structure Tidy (s : String) : Prop where
  nonempty : s ≠ ""
  trimmed : trim s = s

/-- A text that is not empty and has no blanks. -/
structure Word (s : String) : Prop where
  nonempty : s ≠ ""
  solid : ∀ c ∈ s.toList, Chars.isBlank c = false

theorem tidy_ofList {s : List Char} (nonempty : s ≠ []) (trimmed : Chars.trim s = s) :
    Tidy (String.ofList s) where
  nonempty := by simpa using nonempty
  trimmed := by simp [trim, onChars, trimmed]

theorem word_ofList {s : List Char} (nonempty : s ≠ []) (solid : ∀ c ∈ s, Chars.isBlank c = false) :
    Word (String.ofList s) where
  nonempty := by simpa using nonempty
  solid := by simpa using solid

end Text

/-- An override as it is written on tag lines. -/
structure OverrideTag.Tidy (t : OverrideTag) : Prop where
  rule : Text.Tidy t.rule
  noColon : ':' ∉ t.rule.toList
  value : Text.Tidy t.value
  fields : ∀ field ∈ t.fields, Text.Tidy field.2

/-- The tags of a text of so many lines, in the order in which they stand in it. -/
structure SourceTags.WellFormed (tags : SourceTags) (lines : Nat) : Prop where
  overrides : ∀ t ∈ tags.overrides, t.Tidy ∧ 1 ≤ t.line ∧ t.line ≤ lines
  overrideLines : tags.overrides.Pairwise fun a b => a.line < b.line
  arch : ∀ a ∈ tags.arch, Text.Word a.id
  intents : ∀ i ∈ tags.intents, Text.Word i.name
  intentLines : tags.intents.Pairwise fun a b => a.line ≤ b.line
  errorLines : tags.errors.Pairwise fun a b => a.line ≤ b.line
  scopes : tags.intents.Pairwise fun a b => b.scope = .file → a.scope = .file

namespace TagScan

open Scanner

/-- What was found on lines up to a last one, in order. -/
structure InOrder {α : Type} (line : α → Nat) (last : Nat) (found : List α) : Prop where
  sorted : found.Pairwise fun a b => line a ≤ line b
  bounded : ∀ a ∈ found, line a ≤ last

theorem InOrder.append {α : Type} {line : α → Nat} {last : Nat} {found more : List α}
    (order : InOrder line last found) (here : ∀ a ∈ more, line a = last + 1) :
    InOrder line (last + 1) (found ++ more) where
  sorted := by
    refine List.pairwise_append.2 ⟨order.sorted, List.pairwise_of_forall_mem_list ?_, ?_⟩
    · exact fun a first b second => (here a first).trans_le (here b second).ge
    · exact fun a first b second =>
        (order.bounded a first).trans ((Nat.le_succ last).trans (here b second).ge)
  bounded := List.forall_mem_append.2 ⟨fun a member => (order.bounded a member).trans (Nat.le_succ last),
    fun a member => (here a member).le⟩

namespace Scanner

section Findings

variable {s s' : Scanner} {line : Nat} {tag text : List Char}

/-- What is found on one line is added at the end. -/
structure Grows (line : Nat) (s s' : Scanner) : Prop where
  seenCode : s'.seenCode = s.seenCode
  errors : ∃ more, s'.tags.errors = s.tags.errors ++ more ∧ ∀ e ∈ more, e.line = line
  intents : ∃ more, s'.tags.intents = s.tags.intents ++ more ∧
    ∀ i ∈ more, i.line = line ∧ Text.Word i.name ∧ (s.seenCode = false → i.scope = .file) ∧
      (s.seenCode = true → i.scope ≠ .file)
  arch : ∀ a ∈ s'.tags.arch, a ∈ s.tags.arch ∨ Text.Word a.id

theorem Grows.of_same (seenCode : s'.seenCode = s.seenCode) (errors : s'.tags.errors = s.tags.errors)
    (intents : s'.tags.intents = s.tags.intents) (arch : s'.tags.arch = s.tags.arch) :
    Grows line s s' where
  seenCode := seenCode
  errors := ⟨[], by rw [errors, List.append_nil], nofun⟩
  intents := ⟨[], by rw [intents, List.append_nil], nofun⟩
  arch a found := .inl (arch ▸ found)

theorem Grows.trans {s'' : Scanner} (first : Grows line s s') (next : Grows line s' s'') :
    Grows line s s'' where
  seenCode := next.seenCode.trans first.seenCode
  errors := by
    obtain ⟨some, before, here⟩ := first.errors
    obtain ⟨more, after, hereToo⟩ := next.errors
    exact ⟨some ++ more, by rw [after, before, List.append_assoc],
      List.forall_mem_append.2 ⟨here, hereToo⟩⟩
  intents := by
    obtain ⟨some, before, here⟩ := first.intents
    obtain ⟨more, after, hereToo⟩ := next.intents
    rw [first.seenCode] at hereToo
    exact ⟨some ++ more, by rw [after, before, List.append_assoc],
      List.forall_mem_append.2 ⟨here, hereToo⟩⟩
  arch a found := (next.arch a found).elim (first.arch a) .inr

theorem Closes.grows {closed : Scanner} (closes : Closes s closed) : Grows line s closed :=
  .of_same closes.seenCode (by rw [closes.tags]) (by rw [closes.tags]) (by rw [closes.tags])

theorem grows_addError (s : Scanner) (line : Nat) (problem : TagProblem) :
    Grows line s (s.addError line problem) where
  seenCode := rfl
  errors := ⟨[{ problem, line }], rfl, List.forall_mem_singleton.2 rfl⟩
  intents := ⟨[], (List.append_nil _).symm, nofun⟩
  arch _ found := .inl found

private theorem grows_archTag (s : Scanner) (line : Nat) (rest : List Char) :
    Grows line s (s.archTag line rest).1 := by
  unfold archTag
  dsimp only
  split
  · exact grows_addError s line _
  · rename_i given
    split
    · exact grows_addError s line _
    · refine ⟨rfl, ⟨[], (List.append_nil _).symm, nofun⟩, ⟨[], (List.append_nil _).symm, nofun⟩, ?_⟩
      intro _ found
      cases found
      exact .inr (Text.word_ofList (mt List.isEmpty_iff.2 given) fun c => Chars.solid_of_mem_spanToken)

theorem grows_addIntent (s : Scanner) (line : Nat) {name : List Char}
    (solid : ∀ c ∈ name, Chars.isBlank c = false) : Grows line s (s.addIntent line name) := by
  unfold addIntent
  split
  · exact .of_same rfl rfl rfl rfl
  · rename_i given
    refine ⟨rfl, ⟨[], (List.append_nil _).symm, nofun⟩, ⟨_, rfl, ?_⟩, fun a found => .inl found⟩
    have word := Text.word_ofList (mt List.isEmpty_iff.2 given) solid
    refine List.forall_mem_singleton.2 ⟨rfl, word, fun header => ?_, fun code => ?_⟩
    · dsimp only
      rw [header]
      rfl
    · dsimp only
      rw [code]
      nofun

private theorem grows_overrideTag (s : Scanner) (line : Nat) (rest : List Char) :
    Grows line s (s.overrideTag line rest) := by
  unfold overrideTag
  dsimp only
  split
  · exact .of_same rfl rfl rfl rfl
  · exact (closes_finishOverride s).grows.trans (grows_addError _ line _)

theorem Applies.grows {rest : List Char} {result : Scanner × List Char}
    (taken : Applies s line tag rest result) (solid : ∀ c ∈ tag, Chars.isBlank c = false) :
    Grows line s result.1 := by
  cases taken with
  | arch => exact grows_archTag s line rest
  | override named => exact grows_overrideTag s line rest
  | strayField problem => exact grows_addError s line problem
  | intent => exact grows_addIntent s line fun c => Chars.solid_of_mem_spanToken
  | inlineIntent named =>
    refine grows_addIntent s line fun c member => solid c ?_
    rw [Chars.strip?_eq_some named]
    exact List.mem_append_right _ member
  | other => exact .of_same rfl rfl rfl rfl

private theorem grows_applyTags (s : Scanner) (line : Nat) {tags : List (List Char × List Char)}
    (solid : ∀ read ∈ tags, ∀ c ∈ read.1, Chars.isBlank c = false) :
    Grows line s (s.applyTags line tags) := by
  induction tags generalizing s with
  | nil => exact .of_same rfl rfl rfl rfl
  | cons read rest ih =>
    obtain ⟨here, later⟩ := List.forall_mem_cons.1 solid
    exact ((applies s line read.1 read.2).grows here).trans (ih _ later)

private theorem grows_field? {filled : Scanner} (read : s.field? line text = some filled) :
    Grows line s filled := by
  obtain ⟨field, rfl⟩ | ⟨pending, field, value, -, -, -, rfl⟩ := field?_cases read
  · exact grows_addError s line _
  · exact .of_same rfl rfl rfl rfl

/-- What holds of a scanner after so many lines. -/
structure Sound (lines : Nat) (s : Scanner) : Prop where
  settled : Settled s
  arch : ∀ a ∈ s.tags.arch, Text.Word a.id
  errors : InOrder TagError.line lines s.tags.errors
  intents : InOrder IntentTag.line lines s.tags.intents
  names : ∀ i ∈ s.tags.intents, Text.Word i.name
  header : s.seenCode = false → ∀ i ∈ s.tags.intents, i.scope = .file
  scopes : s.tags.intents.Pairwise fun a b => b.scope = .file → a.scope = .file

theorem Sound.grow {lines : Nat} (sound : Sound lines s) (grows : Grows (lines + 1) s s')
    (settled : Settled s') : Sound (lines + 1) s' := by
  obtain ⟨newErrors, errors, errorsHere⟩ := grows.errors
  obtain ⟨newIntents, intents, intentsHere⟩ := grows.intents
  refine ⟨settled, ?_, ?_, ?_, ?_, ?_, ?_⟩
  · exact fun a found => (grows.arch a found).elim (sound.arch a) id
  · exact errors ▸ sound.errors.append errorsHere
  · exact intents ▸ sound.intents.append fun i member => (intentsHere i member).1
  · rw [intents]
    exact List.forall_mem_append.2 ⟨sound.names, fun i member => (intentsHere i member).2.1⟩
  · rw [intents, grows.seenCode]
    exact fun noCode => List.forall_mem_append.2 ⟨sound.header noCode,
      fun i member => (intentsHere i member).2.2.1 noCode⟩
  · rw [intents]
    cases code : s.seenCode with
    | false =>
      -- All intents so far are those of the file.
      have ofFile : ∀ i ∈ s.tags.intents ++ newIntents, i.scope = .file :=
        List.forall_mem_append.2 ⟨sound.header code, fun i member => (intentsHere i member).2.2.1 code⟩
      exact List.pairwise_of_forall_mem_list fun i member _ _ _ => ofFile i member
    | true =>
      have onFunctions : ∀ i ∈ newIntents, i.scope ≠ .file :=
        fun i member => (intentsHere i member).2.2.2 code
      exact List.pairwise_append.2 ⟨sound.scopes,
        List.pairwise_of_forall_mem_list fun _ _ i member file => absurd file (onFunctions i member),
        fun _ _ i member file => absurd file (onFunctions i member)⟩

theorem Sound.code {lines : Nat} (sound : Sound lines s) (settled : Settled s')
    (seenCode : s'.seenCode = true) (tags : s'.tags = s.tags) : Sound lines s' where
  settled := settled
  arch := tags ▸ sound.arch
  errors := tags ▸ sound.errors
  intents := tags ▸ sound.intents
  names := tags ▸ sound.names
  header noCode := absurd (seenCode.symm.trans noCode) nofun
  scopes := tags ▸ sound.scopes

theorem Steps.sound {lines : Nat} (taken : Steps s (lines + 1) text s') (sound : Sound lines s) :
    Sound (lines + 1) s' := by
  have settled := taken.settled sound.settled
  cases taken with
  | field kind within read =>
    obtain ⟨seenCode, errors, intents, arch⟩ := grows_field? read
    exact sound.grow ⟨seenCode, errors, intents, arch⟩ settled
  | code kind closes =>
    have closed := sound.grow closes.grows closes.settled
    exact closed.code settled rfl rfl
  | blank kind closes => exact sound.grow closes.grows settled
  | comment kind read closes =>
    exact sound.grow (closes.grows.trans
      (grows_applyTags _ _ fun read member => solid_of_mem_tagsIn member)) settled

end Findings

private theorem mem_fields_setField {t : OverrideTag} {name value : String}
    {field : String × String}
    (member : field ∈ (setField t name value).fields) : field ∈ t.fields ∨ field.2 = value := by
  unfold setField at member
  split at member <;> simp [OverrideTag.fields] at member ⊢ <;> grind

/-- Overrides are tidy when they are opened, and stay so. -/
private theorem lasting_tidy : Lasting OverrideTag.Tidy where
  opened line read := by
    obtain ⟨rule, ruleTrimmed, noColon, value, valueTrimmed⟩ := ruleValue?_eq_some read
    exact ⟨Text.tidy_ofList rule ruleTrimmed, by rwa [String.toList_ofList],
      Text.tidy_ofList value valueTrimmed, nofun⟩
  filled name value given trimmed tidy := by
    obtain ⟨rule, noColon, _, fields⟩ := tidy
    have filled := Text.tidy_ofList given trimmed
    refine ⟨?_, ?_, ?_, fun field member => ?_⟩
    · unfold setField
      split <;> assumption
    · unfold setField
      split <;> assumption
    · unfold setField
      split <;> assumption
    · rcases mem_fields_setField member with before | now
      · exact fields field before
      · exact now ▸ filled

end Scanner

section Runs

variable {lines : List (List Char)}

/-- The scanner after lines of a text. -/
def after (lines : List (List Char)) : Scanner := run {} lines.zipIdx

theorem after_concat (lines : List (List Char)) (line : List Char) :
    after (lines ++ [line]) = (after lines).step (lines.length + 1) line := by
  rw [after, List.zipIdx_append, run, List.foldl_append]
  simp only [List.zipIdx_singleton, List.foldl_cons, List.foldl_nil, Nat.zero_add]
  rfl

theorem sound_after (lines : List (List Char)) : Sound lines.length (after lines) := by
  induction lines using List.reverseRecOn with
  | nil => exact ⟨⟨nofun, nofun⟩, nofun, ⟨.nil, nofun⟩, ⟨.nil, nofun⟩, nofun, fun _ => nofun, .nil⟩
  | append_singleton lines line ih =>
    rw [after_concat, List.length_append, List.length_singleton]
    exact (steps ih.settled _ line).sound ih

theorem openings_concat (lines : List (List Char)) (line : List Char) :
    (after (lines ++ [line])).openings = (after lines).openings ++
      openingOn (lines.length + 1) ((after lines).openedBy? (lines.length + 1) line) := by
  rw [after_concat]
  exact (steps (sound_after lines).settled _ line).openings

theorem mem_openingOn {number : Nat} {opened : Option (List Char × List Char)}
    {opening : Nat × String × String} : opening ∈ openingOn number opened ↔
      ∃ rule value, opened = some (rule, value) ∧
        opening = (number, String.ofList rule, String.ofList value) := by
  cases opened with
  | none => simp [openingOn]
  | some opened =>
    refine List.mem_singleton.trans ⟨fun same => ⟨_, _, rfl, same⟩, ?_⟩
    rintro ⟨rule, value, same, rfl⟩
    cases same
    rfl

/-- The scanner is in a block comment after lines that leave one open. -/
theorem blockAfter_iff {open? : Bool} : BlockAfter lines open? ↔ (after lines).inBlock = open? := by
  constructor
  · intro leaves
    induction leaves with
    | start => rfl
    | comment before read ih =>
      rw [after_concat, inBlock_step, ih, classify_of_readsAs read]
    | plain before other ih => rw [after_concat, inBlock_step, ih, classify_of_plain other]
  · rintro rfl
    induction lines using List.reverseRecOn with
    | nil => exact .start
    | append_singleton lines line ih =>
      rw [after_concat, inBlock_step]
      by_cases comment : ∃ text behind, ReadsAs (after lines).inBlock line text behind
      · obtain ⟨text, behind, read⟩ := comment
        rw [classify_of_readsAs read]
        exact .comment ih read
      · have other : ∀ text behind, ¬ReadsAs (after lines).inBlock line text behind :=
          fun text behind read => comment ⟨text, behind, read⟩
        rw [classify_of_plain other]
        exact .plain ih other

theorem opensOverride_iff {line rule value : List Char} (number : Nat) :
    OpensOverride lines line rule value ↔
      (after lines).openedBy? number line = some (rule, value) := by
  simp only [OpensOverride, openedBy?_eq_some_iff, blockAfter_iff, exists_and_left, exists_eq_left']

/-- The overrides of a text are those that its lines open. -/
theorem mem_openings {opening : Nat × String × String} : opening ∈ (after lines).openings ↔
    ∃ k, ∃ inside : k < lines.length, ∃ rule value,
      OpensOverride (lines.take k) lines[k] rule value ∧
      opening = (k + 1, String.ofList rule, String.ofList value) := by
  induction lines using List.reverseRecOn with
  | nil => exact ⟨nofun, fun ⟨_, inside, _⟩ => absurd inside (Nat.not_lt_zero _)⟩
  | append_singleton lines line ih =>
    rw [openings_concat, List.mem_append, ih, mem_openingOn]
    simp only [← opensOverride_iff]
    constructor
    · rintro (⟨k, inside, opened⟩ | opened)
      · refine ⟨k, by simp; omega, ?_⟩
        rwa [List.take_append_of_le_length inside.le, List.getElem_append_left inside]
      · refine ⟨lines.length, by simp, ?_⟩
        simpa using opened
    · rintro ⟨k, inside, opened⟩
      rw [List.length_append, List.length_singleton] at inside
      rcases (Nat.lt_succ_iff_lt_or_eq.1 inside) with earlier | rfl
      · rw [List.take_append_of_le_length earlier.le, List.getElem_append_left earlier] at opened
        exact .inl ⟨k, earlier, opened⟩
      · exact .inr (by simpa using opened)

/-- Lines open their overrides in order, at most one each. -/
theorem openings_sorted (lines : List (List Char)) :
    (after lines).openings.Pairwise fun a b => a.1 < b.1 := by
  induction lines using List.reverseRecOn with
  | nil => exact .nil
  | append_singleton lines line ih =>
    rw [openings_concat]
    refine List.pairwise_append.2 ⟨ih, ?_, fun a before b here => ?_⟩
    · unfold openingOn
      cases (after lines).openedBy? (lines.length + 1) line with
      | none => exact .nil
      | some opened => exact List.pairwise_singleton _ _
    · obtain ⟨k, inside, _, _, _, rfl⟩ := mem_openings.1 before
      obtain ⟨_, _, _, rfl⟩ := mem_openingOn.1 here
      exact Nat.succ_lt_succ inside

theorem filter_line_eq {ts : List OverrideTag} (sorted : ts.Pairwise fun a b => a.line < b.line)
    {t : OverrideTag} (member : t ∈ ts) : ts.filter (fun other => other.line = t.line) = [t] := by
  obtain ⟨before, behind, rfl⟩ := List.append_of_mem member
  obtain ⟨-, later, earlier⟩ := List.pairwise_append.1 sorted
  have noneBefore : before.filter (fun other => other.line = t.line) = [] :=
    List.filter_eq_nil_iff.2 fun other inside => by
      simpa using (earlier other inside t List.mem_cons_self).ne
  have noneBehind : behind.filter (fun other => other.line = t.line) = [] :=
    List.filter_eq_nil_iff.2 fun other inside => by
      simpa using (List.rel_of_pairwise_cons later inside).ne'
  simp [List.filter_append, noneBefore, noneBehind]

end Runs

/-- After each line of a text an override is pending exactly in an override block. Each override that a
line opens is found once, on that line, and there are no others. The tags are well formed and in
the order of their lines. -/
theorem extract_is_sound (content : String) :
    let lines := Chars.lines content.toList
    (∀ k ≤ lines.length, (after (lines.take k)).pending.isSome = true ↔
      (after (lines.take k)).state = .inOverride) ∧
    (∀ k, ∀ inside : k < lines.length, ∀ rule value,
      OpensOverride (lines.take k) lines[k] rule value →
      ∃ t, (extract content).overrides.filter (fun t => t.line = k + 1) = [t] ∧
        t.rule = String.ofList rule ∧ t.value = String.ofList value) ∧
    (∀ t ∈ (extract content).overrides, ∃ k, ∃ inside : k < lines.length, t.line = k + 1 ∧
      OpensOverride (lines.take k) lines[k] t.rule.toList t.value.toList) ∧
    (extract content).WellFormed lines.length := by
  intro lines
  have sound := sound_after lines
  have sorted : (extract content).overrides.Pairwise fun a b => a.line < b.line := by
    have order := openings_sorted lines
    rwa [openings, List.pairwise_map] at order
  have opened (t : OverrideTag) (member : t ∈ (extract content).overrides) :
      ∃ k, ∃ inside : k < lines.length, t.line = k + 1 ∧
        OpensOverride (lines.take k) lines[k] t.rule.toList t.value.toList := by
    obtain ⟨k, inside, rule, value, opened, same⟩ := mem_openings.1 (List.mem_map_of_mem member)
    simp only [Prod.mk.injEq] at same
    obtain ⟨number, ruled, valued⟩ := same
    rw [ruled, valued, String.toList_ofList, String.toList_ofList]
    exact ⟨k, inside, number, opened⟩
  refine ⟨fun k _ => (sound_after (lines.take k)).settled, ?_, opened, ?_⟩
  · intro k inside rule value opens
    obtain ⟨t, member, same⟩ := List.mem_map.1 (mem_openings.2 ⟨k, inside, rule, value, opens, rfl⟩)
    simp only [Prod.mk.injEq] at same
    obtain ⟨number, ruled, valued⟩ := same
    exact ⟨t, number ▸ filter_line_eq sorted member, ruled, valued⟩
  · refine ⟨fun t member => ?_, sorted, sound.arch, sound.names, sound.intents.sorted,
      sound.errors.sorted, sound.scopes⟩
    obtain ⟨k, inside, number, -⟩ := opened t member
    exact ⟨extract_overrides lasting_tidy content t member, by omega, by omega⟩

/-- A comment of two lines, with an address on the first and two tags on the second. -/
def address : List Char := "/** ask me@home".toList

def tagged : List Char := " * @arch core @override forbid_import : @scope/x */".toList

def addressed : String := "/** ask me@home\n * @arch core @override forbid_import : @scope/x */\n"

theorem tagged_opens :
    OpensOverride [address] tagged "forbid_import".toList "@scope/x".toList := by
  have opening : ReadsAs false address (Chars.trim " ask me@home".toList) true :=
    @ReadsAs.opening address " ask me@home".toList 1 (by decide +kernel) (by decide) (by decide)
  have closing : ReadsAs true tagged
      (Chars.trim " @arch core @override forbid_import : @scope/x ".toList) false :=
    @ReadsAs.closing tagged " @arch core @override forbid_import : @scope/x ".toList [] 1
      (by decide +kernel) (by decide) (by decide +kernel)
  have formed : RuleAndValue " forbid_import : @scope/x".toList "forbid_import".toList
      "@scope/x".toList :=
    ⟨⟨" forbid_import ".toList, " @scope/x".toList, by decide, by decide, by decide, by decide⟩,
      by decide, by decide⟩
  have last : HoldsOverride " @override forbid_import : @scope/x".toList "forbid_import".toList
      "@scope/x".toList :=
    @HoldsOverride.here _ " ".toList " forbid_import : @scope/x".toList _ _ (by decide) (by decide)
      (by decide) formed
  refine ⟨true, _, false, .comment .start opening, closing, ?_⟩
  exact @HoldsOverride.named _ [] "arch".toList " ".toList "core".toList _ _ _ (by decide +kernel)
    (by decide) (by decide) (by decide) (by simp [Chars.isBlank]) (by decide) (by decide) last

/-- The override behind another tag in a block comment is found once, on its line. -/
theorem override_behind_tag_is_found :
    OpensOverride [address] tagged "forbid_import".toList "@scope/x".toList ∧
    ∃ t, (extract addressed).overrides.filter (fun t => t.line = 2) = [t] ∧
      t.rule = "forbid_import" ∧ t.value = "@scope/x" := by
  refine ⟨tagged_opens, ?_⟩
  have lines : Chars.lines addressed.toList = [address, tagged] := by decide +kernel
  obtain ⟨-, found, -⟩ := extract_is_sound addressed
  rw [lines] at found
  exact found 1 (by decide) _ _ tagged_opens

end TagScan

end Conformance
