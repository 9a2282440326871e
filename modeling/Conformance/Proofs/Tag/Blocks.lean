import Conformance.Override.Policy
import Conformance.Proofs.Text
import Conformance.Tag.Scan

/-! Overrides written as comment blocks. The scanner takes one whole block as a single step: it
closes the override it was collecting and collects the written one, so a text of blocks gives
back the overrides it was written from. -/
namespace Conformance

/-- A text that stands on a tag line as it is: not empty, without blanks at its ends, on one
line. -/
structure LineText (s : String) : Prop where
  nonempty : s ≠ ""
  trimmed : Text.trim s = s
  oneLine : '\n' ∉ s.toList

namespace LineText

variable {s : String}

instance : Decidable (LineText s) :=
  decidable_of_iff (s ≠ "" ∧ Text.trim s = s ∧ '\n' ∉ s.toList)
    ⟨fun ⟨nonempty, trimmed, oneLine⟩ => ⟨nonempty, trimmed, oneLine⟩,
      fun ⟨nonempty, trimmed, oneLine⟩ => ⟨nonempty, trimmed, oneLine⟩⟩

theorem toList_ne_nil (proper : LineText s) : s.toList ≠ [] := by
  simpa using proper.nonempty

theorem trim_toList (proper : LineText s) : Chars.trim s.toList = s.toList := by
  have same := congrArg String.toList proper.trimmed
  simpa [Text.trim, Text.onChars] using same

end LineText

namespace OverrideTag

/-- The fields that are present, in the order in which they are written. -/
def fields (t : OverrideTag) : List (String × String) :=
  [("reason", t.reason), ("expires", t.expires), ("ticket", t.ticket),
    ("approved_by", t.approvedBy)].filterMap fun (name, text) => text.map (name, ·)

def fieldNames : List String := ["reason", "expires", "ticket", "approved_by"]

structure Writable (t : OverrideTag) : Prop where
  rule : LineText t.rule
  noColon : ':' ∉ t.rule.toList
  value : LineText t.value
  fields : ∀ field ∈ t.fields, LineText field.2

instance (t : OverrideTag) : Decidable t.Writable :=
  decidable_of_iff (LineText t.rule ∧ ':' ∉ t.rule.toList ∧ LineText t.value ∧
      ∀ field ∈ t.fields, LineText field.2)
    ⟨fun ⟨rule, noColon, value, fields⟩ => ⟨rule, noColon, value, fields⟩,
      fun ⟨rule, noColon, value, fields⟩ => ⟨rule, noColon, value, fields⟩⟩

def tagLine (word text : String) : String := "// @" ++ word ++ " " ++ text

def opening (t : OverrideTag) : String := tagLine "override" t.key

/-- The lines of one override: the opening, then a line for each field. -/
def block (t : OverrideTag) : List String :=
  t.opening :: t.fields.map fun (name, text) => tagLine name text

/-- The blocks of overrides, one after the other, every line with its line feed. -/
def written (ts : List OverrideTag) : String :=
  String.join ((ts.flatMap block).map (· ++ "\n"))

/-- The one-based number of the opening line of the `i`-th override. -/
def openingLine (ts : List OverrideTag) (i : Nat) : Nat :=
  ((ts.take i).flatMap block).length + 1

variable {t : OverrideTag}

theorem name_of_field {field : String × String} (member : field ∈ t.fields) :
    field.1 ∈ fieldNames := by
  obtain ⟨⟨name, text⟩, listed, present⟩ := List.mem_filterMap.mp member
  obtain ⟨value, rfl, rfl⟩ := Option.map_eq_some_iff.mp present
  simp only [List.mem_cons, List.not_mem_nil, or_false, Prod.mk.injEq] at listed
  rcases listed with ⟨rfl, _⟩ | ⟨rfl, _⟩ | ⟨rfl, _⟩ | ⟨rfl, _⟩ <;> simp [fieldNames]

theorem toList_key : t.key.toList = t.rule.toList ++ ':' :: t.value.toList := by
  simp [key]

theorem Writable.key (proper : t.Writable) : LineText t.key where
  nonempty := by simp [OverrideTag.key, proper.rule.nonempty]
  trimmed := by
    have starting : Chars.trimStart t.key.toList = t.key.toList := by
      rw [toList_key]
      exact Chars.trimStart_append proper.rule.toList_ne_nil
        (Chars.trimStart_eq_self proper.rule.trim_toList) _
    have ending : Chars.trimEnd t.key.toList = t.key.toList := by
      rw [toList_key, List.append_cons]
      exact Chars.trimEnd_append proper.value.toList_ne_nil
        (Chars.trimEnd_eq_self proper.value.trim_toList) _
    rw [Text.trim, Text.onChars, Chars.trim, starting, ending, String.ofList_toList]
  oneLine := by simp [toList_key, proper.rule.oneLine, proper.value.oneLine]

theorem toList_tagLine (word text : String) :
    (tagLine word text).toList =
      '/' :: '/' :: ' ' :: '@' :: (word.toList ++ ' ' :: text.toList) := by
  simp [tagLine]

end OverrideTag

namespace TagScan

open OverrideTag

section Lines

variable {word text : List Char}

theorem classify_tag (nonempty : text ≠ []) (trimmed : Chars.trim text = text) :
    classify false ('/' :: '/' :: ' ' :: '@' :: (word ++ ' ' :: text)) =
      (.comment ('@' :: (word ++ ' ' :: text)), false) := by
  have ending (lead : List Char) : Chars.trimEnd (lead ++ text) = lead ++ text :=
    Chars.trimEnd_append nonempty (Chars.trimEnd_eq_self trimmed) lead
  have whole : Chars.trim ('/' :: '/' :: ' ' :: '@' :: (word ++ ' ' :: text)) =
      '/' :: '/' :: ' ' :: '@' :: (word ++ ' ' :: text) := by
    rw [Chars.trim, Chars.trimStart_cons rfl]
    simpa using ending ('/' :: '/' :: ' ' :: '@' :: (word ++ [' ']))
  have body : Chars.trim (' ' :: '@' :: (word ++ ' ' :: text)) = '@' :: (word ++ ' ' :: text) := by
    rw [Chars.trim_cons_of_blank rfl, Chars.trim, Chars.trimStart_cons rfl]
    simpa using ending ('@' :: (word ++ [' ']))
  simp [classify, whole, Chars.strip?, Chars.dropLeading, body]

theorem splitTag?_tag (named : word ≠ []) (solid : word.any Chars.isBlank = false)
    (trimmed : Chars.trim text = text) :
    splitTag? ('@' :: (word ++ ' ' :: text)) = some (word, text) := by
  have blank : Chars.isBlank ' ' = true := rfl
  rw [splitTag?, Chars.trimStart_cons rfl]
  simp [Chars.spanToken_append solid blank, named, Chars.trim_cons_of_blank blank, trimmed]

end Lines

namespace Scanner

/-- The scanner before any code while it collects an override. -/
def collecting (tags : SourceTags) (t : OverrideTag) : Scanner :=
  { state := .inOverride, pending := some t, tags }

private theorem isField_name {name : String} (named : name ∈ fieldNames) :
    isField name = true ∧ name.toList ≠ [] ∧ name.toList.any Chars.isBlank = false := by
  revert name
  decide

private theorem step_field (tags : SourceTags) (t : OverrideTag) (n : Nat) {name text : String}
    (named : name ∈ fieldNames) (proper : LineText text) :
    (collecting tags t).step n (tagLine name text).toList =
      collecting tags (setField t name text) := by
  obtain ⟨field, word, solid⟩ := isField_name named
  rw [toList_tagLine]
  simp [step, collecting, classify_tag proper.toList_ne_nil proper.trim_toList,
    field?, splitTag?_tag word solid proper.trim_toList, field, proper.nonempty]

theorem splitTag?_override {text : List Char} (trimmed : Chars.trim text = text) :
    splitTag? ('@' :: ("override".toList ++ ' ' :: text)) = some ("override".toList, text) :=
  splitTag?_tag (by decide) (by decide) trimmed

theorem comment_override (fuel : Nat) (s : Scanner) (n : Nat) {text : List Char}
    (trimmed : Chars.trim text = text) :
    comment (fuel + 1) s n ('@' :: ("override".toList ++ ' ' :: text)) = s.overrideTag n text := by
  have onward (s : Scanner) : comment fuel s n [] = s := by cases fuel <;> rfl
  have starts : fromAt ('@' :: ("override".toList ++ ' ' :: text)) =
      '@' :: ("override".toList ++ ' ' :: text) := rfl
  rw [comment, starts, splitTag?_override trimmed]
  exact onward _

theorem overrideTag_written (s : Scanner) (n : Nat) {t : OverrideTag} (proper : t.Writable) :
    s.overrideTag n t.key.toList =
      { s.finishOverride with
        pending := some { rule := t.rule, value := t.value, line := n }
        state := .inOverride } := by
  have parts : ruleValue? t.key.toList = some (t.rule.toList, t.value.toList) := by
    simp [ruleValue?, toList_key, Chars.cut?_append proper.noColon, proper.rule.trim_toList,
      proper.value.trim_toList, proper.rule.nonempty, proper.value.nonempty]
  simp [overrideTag, parts]

/-- Before any code, a comment line that is no field is read as a comment of the header, by a
scanner that has closed, or will close, the override it was collecting. -/
theorem step_header {s : Scanner} (noCode : s.seenCode = false) (noBlock : s.inBlock = false)
    {n : Nat} {line body : List Char} (kind : classify false line = (.comment body, false))
    (noField : s.field? n body = none) :
    ∃ ready : Scanner, s.step n line = comment (body.length + 1) ready n body ∧
      ready.finishOverride = { s.finishOverride with state := .header } := by
  obtain ⟨state, seenCode, inBlock, pending, tags⟩ := s
  cases noCode
  cases noBlock
  cases state with
  | outside => exact ⟨{ state := .header, pending, tags }, by simp [step, kind], rfl⟩
  | header => exact ⟨{ state := .header, pending, tags }, by simp [step, kind], rfl⟩
  | inOverride =>
    -- The override is closed before the comment is read, so closing it again changes nothing.
    refine ⟨finishOverride { state := .inOverride, pending, tags }, ?_, ?_⟩
    · simp [step, kind, noField, finishOverride, restingState]
    · simp [finishOverride, restingState]

/-- Before any code, an opening line closes what is being collected and collects the override
it names. -/
theorem step_opening {s : Scanner} (noCode : s.seenCode = false) (noBlock : s.inBlock = false)
    (n : Nat) {t : OverrideTag} (proper : t.Writable) :
    s.step n t.opening.toList =
      collecting { s.tags with overrides := s.tags.overrides ++ s.pending.toList }
        { rule := t.rule, value := t.value, line := n } := by
  have trimmed := proper.key.trim_toList
  have noField : s.field? n ('@' :: ("override".toList ++ ' ' :: t.key.toList)) = none := by
    rw [field?, splitTag?_override trimmed]
    cases s.pending <;> rfl
  obtain ⟨ready, stepped, finished⟩ :=
    step_header noCode noBlock (classify_tag proper.key.toList_ne_nil trimmed) noField
  rw [opening, toList_tagLine, stepped, comment_override _ _ _ trimmed,
    overrideTag_written _ _ proper, finished]
  simp [finishOverride, collecting, noCode, noBlock]

/-- Field lines set the fields they name, one after the other. -/
private theorem run_fields (tags : SourceTags) {fields : List (String × String)}
    (proper : ∀ field ∈ fields, field.1 ∈ fieldNames ∧ LineText field.2) (t : OverrideTag)
    (n : Nat) :
    run (collecting tags t) ((fields.map fun (name, text) => (tagLine name text).toList).zipIdx n) =
      collecting tags (fields.foldl (fun t (name, text) => setField t name text) t) := by
  induction fields generalizing t n with
  | nil => rfl
  | cons field fields ih =>
    obtain ⟨named, lineText⟩ := proper field List.mem_cons_self
    have later := ih fun other member => proper other (List.mem_cons_of_mem field member)
    rw [List.map_cons, List.zipIdx_cons, run, List.foldl_cons, step_field tags t _ named lineText]
    exact later _ _

private theorem setField_fields (t : OverrideTag) (n : Nat) :
    t.fields.foldl (fun t (name, text) => setField t name text)
      { rule := t.rule, value := t.value, line := n } = { t with line := n } := by
  obtain ⟨rule, value, reason, expires, ticket, approvedBy, line⟩ := t
  cases reason <;> cases expires <;> cases ticket <;> cases approvedBy <;> rfl

/-- A block takes the scanner from any state before the code to collecting its override. -/
theorem run_block {s : Scanner} (noCode : s.seenCode = false) (noBlock : s.inBlock = false)
    (n : Nat) {t : OverrideTag} (proper : t.Writable) :
    run s ((t.block.map String.toList).zipIdx n) =
      collecting { s.tags with overrides := s.tags.overrides ++ s.pending.toList }
        { t with line := n + 1 } := by
  have fields : ∀ field ∈ t.fields, field.1 ∈ fieldNames ∧ LineText field.2 :=
    fun field member => ⟨name_of_field member, proper.fields field member⟩
  rw [block, List.map_cons, List.zipIdx_cons, run, List.foldl_cons,
    step_opening noCode noBlock _ proper, List.map_map]
  exact (run_fields _ fields _ _).trans (by rw [setField_fields])

/-- Blocks add their overrides, numbered by their opening lines, to those there were. -/
theorem run_blocks {ts : List OverrideTag} (proper : ∀ t ∈ ts, t.Writable) {s : Scanner}
    (noCode : s.seenCode = false) (noBlock : s.inBlock = false) (n : Nat) :
    (run s (((ts.flatMap block).map String.toList).zipIdx n)).finishOverride.tags =
      { s.tags with
        overrides := s.tags.overrides ++ s.pending.toList ++
          ts.mapIdx fun i t => { t with line := n + openingLine ts i } } := by
  induction ts generalizing s n with
  | nil => simp [run, finishOverride]
  | cons t ts ih =>
    have first := run_block noCode noBlock n (proper t List.mem_cons_self)
    have split : run s ((((t :: ts).flatMap block).map String.toList).zipIdx n) =
        run (run s ((t.block.map String.toList).zipIdx n))
          (((ts.flatMap block).map String.toList).zipIdx (n + t.block.length)) := by
      simp only [run, List.flatMap_cons, List.map_append, List.zipIdx_append, List.foldl_append,
        List.length_map]
    rw [split, first, ih (fun other member => proper other (List.mem_cons_of_mem t member)) rfl rfl]
    simp [collecting, List.mapIdx_cons, openingLine, Nat.add_assoc]

end Scanner

theorem tagLine_proper {word text : String} (oneLine : '\n' ∉ word.toList)
    (proper : LineText text) :
    '\n' ∉ (tagLine word text).toList ∧
      Chars.trimEnd (tagLine word text).toList = (tagLine word text).toList := by
  constructor
  · simp [toList_tagLine, oneLine, proper.oneLine]
  · have lead : (tagLine word text).toList = ("// @" ++ word ++ " ").toList ++ text.toList := by
      simp [tagLine]
    rw [lead]
    exact Chars.trimEnd_append proper.toList_ne_nil (Chars.trimEnd_eq_self proper.trim_toList) _

private theorem block_proper {t : OverrideTag} (proper : t.Writable) {line : String}
    (member : line ∈ t.block) :
    '\n' ∉ line.toList ∧ Chars.trimEnd line.toList = line.toList := by
  rcases List.mem_cons.mp member with rfl | member
  · exact tagLine_proper (by decide) proper.key
  · obtain ⟨field, present, rfl⟩ := List.mem_map.mp member
    have oneLine : ∀ name ∈ fieldNames, '\n' ∉ name.toList := by decide
    exact tagLine_proper (oneLine _ (name_of_field present)) (proper.fields field present)

/-- The lines of a written text are those of its blocks. -/
theorem lines_written {ts : List OverrideTag} (proper : ∀ t ∈ ts, t.Writable) :
    Chars.lines (written ts).toList = (ts.flatMap block).map String.toList := by
  have joined : (written ts).toList =
      ((ts.flatMap block).map String.toList).flatMap (· ++ ['\n']) := by
    simp [written, List.flatMap_map]
  rw [joined]
  apply Chars.lines_flatMap
  intro l listed
  obtain ⟨line, member, rfl⟩ := List.mem_map.mp listed
  obtain ⟨t, inTags, inBlock⟩ := List.mem_flatMap.mp member
  exact block_proper (proper t inTags) inBlock

private theorem getElem?_openingLine {ts : List OverrideTag} {i : Nat} {t : OverrideTag}
    (found : ts[i]? = some t) : (ts.flatMap block)[openingLine ts i - 1]? = some t.opening := by
  obtain ⟨bound, here⟩ := List.getElem?_eq_some_iff.mp found
  have split : ts.flatMap block =
      (ts.take i).flatMap block ++ (t.block ++ (ts.drop (i + 1)).flatMap block) := by
    rw [← List.flatMap_cons, ← here, ← List.drop_eq_getElem_cons bound, ← List.flatMap_append,
      List.take_append_drop]
  rw [split, openingLine, Nat.add_sub_cancel, List.getElem?_append_right (Nat.le_refl _),
    Nat.sub_self]
  rfl

/-- Overrides written as blocks are read back in order, each with the number of its opening line,
and nothing else is read. -/
theorem extract_written (ts : List OverrideTag) (proper : ∀ t ∈ ts, t.Writable) :
    extract (written ts) =
        { arch := none
          overrides := ts.mapIdx fun i t => { t with line := openingLine ts i }
          intents := []
          errors := [] } ∧
      ∀ i t, ts[i]? = some t →
        (Text.lines (written ts))[openingLine ts i - 1]? = some t.opening := by
  constructor
  · rw [extract, lines_written proper, Scanner.run_blocks proper rfl rfl]
    simp
  · intro i t found
    have lines : Text.lines (written ts) = ts.flatMap block := by
      simp [Text.lines, lines_written proper]
    rw [lines]
    exact getElem?_openingLine found

/-- Two blocks without a line between them, whose texts look like tags and comments. -/
def adjacent : List OverrideTag :=
  [{ rule := "forbid import", value := "@scope/http: */ // @arch core"
     reason := some "@override a:b", ticket := some "#\u00A0@intent:pure", line := 7 },
    { rule := "@reason", value := ":", expires := some "2026-06-30", approvedBy := some "--",
      line := 0 }]

theorem adjacent_blocks_are_read :
    (∀ t ∈ adjacent, t.Writable) ∧
      extract (written adjacent) =
        { overrides :=
            [{ rule := "forbid import", value := "@scope/http: */ // @arch core"
               reason := some "@override a:b", ticket := some "#\u00A0@intent:pure", line := 1 },
              { rule := "@reason", value := ":", expires := some "2026-06-30"
                approvedBy := some "--", line := 4 }] } := by
  have proper : ∀ t ∈ adjacent, t.Writable := by decide +kernel
  exact ⟨proper, (extract_written adjacent proper).1.trans (by decide +kernel)⟩

end TagScan
end Conformance
