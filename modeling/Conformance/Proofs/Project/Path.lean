import Conformance.FileTree.Basic
import Conformance.Proofs.Text

/-! Normal paths. Collapsing a path follows its segments from the root with a stack, and is refused if it
has to go above the root at some point. What comes out is a normal path: plain names between slashes. -/
namespace Conformance

namespace Chars

private theorem contains_singleton {c : Char} {s : List Char} : contains s [c] = true ↔ c ∈ s := by
  rw [contains]
  induction s with
  | nil => exact iff_of_false Bool.false_ne_true List.not_mem_nil
  | cons d s ih =>
    by_cases same : c = d
    · subst same
      simp [cut?, strip?]
    · simp [cut?, strip?, same, ih]

theorem startsWith_singleton {c : Char} {s : List Char} :
    startsWith s [c] = true ↔ s.head? = some c := by
  cases s with
  | nil => exact iff_of_false Bool.false_ne_true nofun
  | cons d s =>
    rw [startsWith, List.head?_cons, Option.some_inj]
    simp [List.isPrefixOf, eq_comm (a := d)]

private theorem subset_intercalate {sep piece : List Char} {pieces : List (List Char)}
    (member : piece ∈ pieces) : piece ⊆ sep.intercalate pieces := by
  induction pieces with
  | nil => cases member
  | cons first rest ih =>
    cases rest with
    | nil =>
      rw [List.mem_singleton.1 member, List.intercalate_singleton]
      exact List.Subset.refl first
    | cons next rest =>
      rw [List.intercalate_cons_cons]
      intro c inside
      rcases List.mem_cons.1 member with rfl | later
      · simp [inside]
      · exact List.mem_append_right _ (ih later inside)

end Chars

namespace Path

/-- A segment that names something: it is not empty and none of the two dot segments. -/
def IsName (segment : String) : Prop := segment ≠ "" ∧ segment ≠ "." ∧ segment ≠ ".."

instance (segment : String) : Decidable (IsName segment) :=
  inferInstanceAs (Decidable (_ ∧ _ ∧ _))

/-- Where segments lead to from a folder, which is given by the names on the way to it. -/
inductive Leads : List String → List String → List String → Prop where
  | here (folder : List String) : Leads folder [] folder
  | stay {folder rest target : List String} {segment : String} (idle : segment = "" ∨ segment = ".")
    (leads : Leads folder rest target) : Leads folder (segment :: rest) target
  | up {folder rest target : List String} {name : String} (leads : Leads folder rest target) :
    Leads (folder ++ [name]) (".." :: rest) target
  | down {folder rest target : List String} {name : String} (named : IsName name)
    (leads : Leads (folder ++ [name]) rest target) : Leads folder (name :: rest) target

/-- After some of the segments there have been more steps up than names. -/
def Escapes (segments : List String) : Prop :=
  ∃ lead, lead <+: segments ∧ lead.countP (IsName ·) < lead.count ".."

/-- A name that stands for itself in a path. -/
structure IsPlain (part : String) : Prop where
  named : IsName part
  noSlash : '/' ∉ part.toList
  noBackslash : '\\' ∉ part.toList

/-- The folders that a file lies in, from the root on. -/
def directory (path : String) : List String := (segments path).dropLast

/-- A path of plain names; without any it is the root itself. -/
def IsNormal (path : String) : Prop :=
  ∃ parts : List String, path = Text.join "/" parts ∧ ∀ part ∈ parts, IsPlain part

section Segments

theorem segment_cases (segment : String) :
    (segment = "" ∨ segment = ".") ∨ segment = ".." ∨ IsName segment := by
  unfold IsName
  tauto

theorem segments_eq (path : String) : segments path = (path.toList.splitOn '/').map String.ofList :=
  Text.splitOn_eq '/' path

theorem toList_join (parts : List String) :
    (Text.join "/" parts).toList = ['/'].intercalate (parts.map String.toList) :=
  String.toList_intercalate

theorem join_segments (path : String) : Text.join "/" (segments path) = path :=
  Text.join_splitOn rfl path

theorem segments_join {parts : List String} (nonempty : parts ≠ [])
    (free : ∀ part ∈ parts, '/' ∉ part.toList) : segments (Text.join "/" parts) = parts :=
  Text.splitOn_join rfl nonempty free

theorem segments_ne_nil (path : String) : segments path ≠ [] := by
  rw [segments_eq, ne_eq, List.map_eq_nil_iff]
  exact List.splitOn_ne_nil '/' path.toList

/-- The folders of a file and its name. -/
theorem exists_directory_concat (path : String) : ∃ name, segments path = directory path ++ [name] :=
  ⟨_, (List.dropLast_append_getLast (segments_ne_nil path)).symm⟩

theorem join_append {outer inner : List String} (outside : outer ≠ []) (inside : inner ≠ []) :
    Text.join "/" (outer ++ inner) = Text.join "/" outer ++ "/" ++ Text.join "/" inner :=
  String.intercalate_append_of_ne_nil outside inside

theorem segments_append (a b : String) : segments (a ++ "/" ++ b) = segments a ++ segments b := by
  have joined : (a ++ "/" ++ b).toList = a.toList ++ '/' :: b.toList := by simp
  rw [segments_eq, joined, List.splitOn_append_cons_self, List.map_append, ← segments_eq, ← segments_eq]

theorem slash_not_mem_segment {path segment : String} (member : segment ∈ segments path) :
    '/' ∉ segment.toList :=
  Text.not_mem_of_mem_splitOn member

private theorem mem_of_mem_segment {path segment : String} (member : segment ∈ segments path)
    {c : Char} (inside : c ∈ segment.toList) : c ∈ path.toList := by
  rw [← join_segments path, toList_join]
  exact Chars.subset_intercalate (List.mem_map_of_mem member) inside

end Segments

section Collapsing

variable {stack folder segments target : List String} {segment name : String}

@[simp] theorem applySegment_idle (idle : segment = "" ∨ segment = ".") :
    applySegment stack segment = some stack := if_pos idle

@[simp] theorem applySegment_up : applySegment (name :: stack) ".." = some stack := rfl

@[simp] theorem applySegment_name (named : IsName name) :
    applySegment stack name = some (name :: stack) := by
  unfold applySegment
  rw [if_neg (not_or.2 ⟨named.1, named.2.1⟩), if_neg named.2.2]

/-- The stack holds the names on the way, the innermost first. -/
theorem leads_iff : Leads folder segments target ↔
    segments.foldlM applySegment folder.reverse = some target.reverse := by
  constructor
  · intro leads
    induction leads with
    | here => rfl
    | stay idle _ ih => rw [List.foldlM_cons, applySegment_idle idle]; exact ih
    | up _ ih => rw [List.foldlM_cons, List.reverse_concat, applySegment_up]; exact ih
    | down named _ ih =>
      rw [List.reverse_concat] at ih
      rw [List.foldlM_cons, applySegment_name named]
      exact ih
  · intro followed
    induction segments generalizing folder with
    | nil =>
      cases List.reverse_injective (Option.some.inj followed)
      exact .here _
    | cons segment rest ih =>
      rw [List.foldlM_cons] at followed
      rcases segment_cases segment with idle | rfl | named
      · rw [applySegment_idle idle] at followed
        exact .stay idle (ih followed)
      · rcases List.eq_nil_or_concat folder with rfl | ⟨outer, name, rfl⟩
        · cases followed
        · rw [List.concat_eq_append, List.reverse_concat] at followed
          rw [List.concat_eq_append]
          exact .up (ih followed)
      · rw [applySegment_name named] at followed
        refine .down named (ih ?_)
        rw [List.reverse_concat]
        exact followed

private theorem exists_prefix_cons {holds : List String → Prop} {segment : String}
    {rest : List String} :
    (∃ lead, lead <+: segment :: rest ∧ holds lead) ↔
      holds [] ∨ ∃ lead, lead <+: rest ∧ holds (segment :: lead) := by
  simp only [List.prefix_cons_iff]
  constructor
  · rintro ⟨_, rfl | ⟨lead, rfl, within⟩, held⟩
    · exact .inl held
    · exact .inr ⟨lead, within, held⟩
  · rintro (held | ⟨lead, within, held⟩)
    · exact ⟨[], .inl rfl, held⟩
    · exact ⟨_, .inr ⟨lead, rfl, within⟩, held⟩

/-- The stack runs empty where steps up outnumber the names before them, those on the stack included. -/
theorem foldlM_applySegment_eq_none : segments.foldlM applySegment stack = none ↔
    ∃ lead, lead <+: segments ∧ stack.length + lead.countP (IsName ·) < lead.count ".." := by
  induction segments generalizing stack with
  | nil => simp
  | cons segment rest ih =>
    rw [List.foldlM_cons, exists_prefix_cons]
    rcases segment_cases segment with idle | rfl | named
    · have unnamed : ¬IsName segment := fun named => idle.elim named.1 named.2.1
      have level : segment ≠ ".." := by
        rintro rfl
        revert idle
        decide
      rw [applySegment_idle idle]
      simpa [unnamed, level] using ih
    · have unnamed : ¬IsName ".." := fun named => named.2.2 rfl
      cases stack with
      | nil =>
        refine iff_of_true rfl (.inr ⟨[], List.nil_prefix, ?_⟩)
        simp [unnamed]
      | cons name stack =>
        rw [applySegment_up]
        refine ih.trans ?_
        simp [unnamed, Nat.add_right_comm _ 1]
    · rw [applySegment_name named]
      refine ih.trans ?_
      simp [named, named.2.2, Nat.add_assoc, Nat.add_comm 1]

/-- What holds of the names in a folder and of all names among the segments holds of those of the target. -/
theorem Leads.forall_mem {holds : String → Prop} (leads : Leads folder segments target)
    (inFolder : ∀ name ∈ folder, holds name)
    (below : ∀ segment ∈ segments, IsName segment → holds segment) :
    ∀ name ∈ target, holds name := by
  induction leads with
  | here => exact inFolder
  | stay _ _ ih => exact ih inFolder (List.forall_mem_cons.1 below).2
  | up _ ih =>
    exact ih (fun name member => inFolder name (List.mem_append_left _ member))
      (List.forall_mem_cons.1 below).2
  | down named _ ih =>
    obtain ⟨here, below⟩ := List.forall_mem_cons.1 below
    refine ih (fun name member => ?_) below
    rcases List.mem_append.1 member with outer | inner
    · exact inFolder name outer
    · exact List.mem_singleton.1 inner ▸ here named

/-- Names lead down, one folder after the other. -/
theorem leads_names {names : List String} (named : ∀ name ∈ names, IsName name) :
    Leads folder names (folder ++ names) := by
  induction names generalizing folder with
  | nil =>
    rw [List.append_nil]
    exact .here folder
  | cons name rest ih =>
    obtain ⟨here, below⟩ := List.forall_mem_cons.1 named
    have deeper := @ih (folder ++ [name]) below
    rw [List.append_assoc, List.singleton_append] at deeper
    exact .down here deeper

end Collapsing

section Normal

variable {path result : String}

/-- The paths that are not followed: absolute ones, those with a backslash and those that leave the root. -/
def Refused (path : String) : Prop :=
  path.toList.head? = some '/' ∨ '\\' ∈ path.toList ∨ Escapes (segments path)

theorem guard_iff : (Text.startsWith path "/" || Text.contains path "\\") = true ↔
    path.toList.head? = some '/' ∨ '\\' ∈ path.toList := by
  rw [Bool.or_eq_true]
  exact or_congr Chars.startsWith_singleton Chars.contains_singleton

theorem normalize?_eq_none_iff : normalize? path = none ↔ Refused path := by
  unfold normalize? Refused
  by_cases guarded : (Text.startsWith path "/" || Text.contains path "\\") = true
  · rw [if_pos guarded]
    exact iff_of_true rfl (or_assoc.1 (.inl (guard_iff.1 guarded)))
  · rw [if_neg guarded, Option.map_eq_none_iff, foldlM_applySegment_eq_none, ← or_assoc,
      ← guard_iff, or_iff_right guarded]
    simp [Escapes]

theorem normalize?_eq_some_iff : normalize? path = some result ↔
    (path.toList.head? ≠ some '/' ∧ '\\' ∉ path.toList) ∧
      ∃ parts, Leads [] (segments path) parts ∧ result = Text.join "/" parts := by
  unfold normalize?
  rw [← not_or, ← guard_iff]
  by_cases guarded : (Text.startsWith path "/" || Text.contains path "\\") = true
  · rw [if_pos guarded]
    exact iff_of_false nofun fun ⟨free, _⟩ => free guarded
  · rw [if_neg guarded, and_iff_right guarded, Option.map_eq_some_iff]
    simp only [leads_iff, List.reverse_nil]
    constructor
    · rintro ⟨stack, followed, rfl⟩
      exact ⟨stack.reverse, by rwa [List.reverse_reverse], rfl⟩
    · rintro ⟨parts, followed, rfl⟩
      exact ⟨parts.reverse, followed, by rw [List.reverse_reverse]⟩

private theorem isPlain_of_leads {parts : List String} (free : '\\' ∉ path.toList)
    (leads : Leads [] (segments path) parts) : ∀ part ∈ parts, IsPlain part := by
  refine leads.forall_mem nofun fun segment member named => ?_
  exact ⟨named, slash_not_mem_segment member, fun inside => free (mem_of_mem_segment member inside)⟩

theorem IsNormal.of_normalize? (normalized : normalize? path = some result) : IsNormal result := by
  obtain ⟨⟨-, free⟩, parts, leads, rfl⟩ := normalize?_eq_some_iff.1 normalized
  exact ⟨parts, rfl, isPlain_of_leads free leads⟩

/-- The segments of a normal path that name something are its parts. -/
private theorem filter_segments_join {parts : List String} (plain : ∀ part ∈ parts, IsPlain part) :
    (segments (Text.join "/" parts)).filter (IsName ·) = parts := by
  by_cases empty : parts = []
  · subst empty
    decide
  · rw [segments_join empty fun part member => (plain part member).noSlash, List.filter_eq_self]
    exact fun part member => decide_eq_true (plain part member).named

theorem head?_segments (absolute : path.toList.head? = some '/') : (segments path).head? = some "" := by
  obtain ⟨rest, written⟩ := List.head?_eq_some_iff.1 absolute
  rw [segments_eq, written, List.splitOn_cons_eq_if_modifyHead, if_pos (beq_self_eq_true '/')]
  rfl

theorem backslash_not_mem_join {parts : List String} (plain : ∀ part ∈ parts, IsPlain part) :
    '\\' ∉ (Text.join "/" parts).toList := by
  rw [toList_join]
  induction parts with
  | nil => exact List.not_mem_nil
  | cons part rest ih =>
    obtain ⟨here, later⟩ := List.forall_mem_cons.1 plain
    cases rest with
    | nil => simpa using here.noBackslash
    | cons next rest =>
      rw [List.map_cons, List.map_cons, List.intercalate_cons_cons]
      simpa [here.noBackslash] using ih later

/-- Normal paths are left as they are. -/
theorem IsNormal.normalize? (normal : IsNormal path) : normalize? path = some path := by
  obtain ⟨parts, rfl, plain⟩ := normal
  have kept := filter_segments_join plain
  have named (segment : String) (member : segment ∈ parts) : IsName segment := (plain segment member).named
  by_cases empty : parts = []
  · subst empty
    rfl
  · have whole := segments_join empty fun part member => (plain part member).noSlash
    refine normalize?_eq_some_iff.2 ⟨⟨fun absolute => ?_, backslash_not_mem_join plain⟩, parts, ?_, rfl⟩
    · exact (named "" (List.mem_of_head? (whole ▸ head?_segments absolute))).1 rfl
    · rw [whole]
      exact leads_names named

end Normal

section Inside

theorem components_append (a b : String) :
    FileTree.components (a ++ "/" ++ b) = FileTree.components a ++ FileTree.components b := by
  rw [FileTree.components, segments_append, List.filter_append]
  rfl

private theorem components_slash (a : String) :
    FileTree.components (a ++ "/") = FileTree.components a := by
  have ended := components_append a ""
  rwa [String.append_empty, show FileTree.components "" = [] by decide, List.append_nil] at ended

theorem components_join (root : String) {path : String} (relative : path.toList.head? ≠ some '/') :
    FileTree.components (FileTree.join root path) =
      FileTree.components root ++ FileTree.components path := by
  have notAbsolute : ¬Text.startsWith path "/" = true := fun starts =>
    relative (Chars.startsWith_singleton.1 starts)
  rw [FileTree.join, if_neg notAbsolute]
  by_cases closed : (root.isEmpty || Text.endsWith root "/") = true
  · rw [if_pos closed]
    rcases Bool.or_eq_true_iff.1 closed with empty | slash
    · rw [String.isEmpty_iff.1 empty, String.empty_append]
      rfl
    · obtain ⟨lead, written⟩ := List.isSuffixOf_iff_suffix.1 slash
      have same : root = String.ofList lead ++ "/" := by
        rw [← String.toList_inj, ← written]
        simp
      rw [same, components_append, components_slash]
  · rw [if_neg closed, components_append]

/-- From any root a normal path leads further down, by its parts. -/
theorem IsNormal.components_join {path : String} (normal : IsNormal path) (root : String) :
    ∃ parts, FileTree.components (FileTree.join root path) = FileTree.components root ++ parts ∧
      ∀ part ∈ parts, IsName part := by
  obtain ⟨⟨relative, -⟩, -⟩ := normalize?_eq_some_iff.1 normal.normalize?
  refine ⟨FileTree.components path, Path.components_join root relative, ?_⟩
  obtain ⟨parts, rfl, plain⟩ := normal
  have levels : ∀ segment ∈ segments (Text.join "/" parts), segment ≠ ".." := by
    by_cases empty : parts = []
    · subst empty
      decide
    · rw [segments_join empty fun part member => (plain part member).noSlash]
      exact fun part member => (plain part member).named.2.2
  intro part member
  obtain ⟨listed, solid⟩ := List.mem_filter.1 member
  obtain ⟨nonempty, dot⟩ := of_decide_eq_true solid
  exact ⟨nonempty, dot, levels part listed⟩

end Inside

/-- A path is refused or collapsed to the normal path that its segments lead to, so whatever is filled
into a template, it is refused or names a place below any root. -/
theorem normal_paths_stay_inside :
    (∀ path, normalize? path = none ↔
      path.toList.head? = some '/' ∨ '\\' ∈ path.toList ∨
        ∃ lead, lead <+: segments path ∧ lead.countP (IsName ·) < lead.count "..") ∧
    (∀ path result, normalize? path = some result →
      IsNormal result ∧ normalize? result = some result ∧
        ∃ parts, Leads [] (segments path) parts ∧ result = Text.join "/" parts) ∧
    ∀ path template, expandTemplate? path template = none ∧ Refused (fillTemplate path template) ∨
      ∃ result, expandTemplate? path template = some result ∧ IsNormal result ∧
        normalize? result = some result ∧
        ∀ root, ∃ parts, FileTree.components (FileTree.join root result) =
          FileTree.components root ++ parts ∧ ∀ part ∈ parts, IsName part := by
  refine ⟨fun path => normalize?_eq_none_iff, fun path result normalized => ?_, fun path template => ?_⟩
  · have normal := IsNormal.of_normalize? normalized
    exact ⟨normal, normal.normalize?, (normalize?_eq_some_iff.1 normalized).2⟩
  · cases expanded : normalize? (fillTemplate path template) with
    | none => exact .inl ⟨expanded, normalize?_eq_none_iff.1 expanded⟩
    | some result =>
      have normal := IsNormal.of_normalize? expanded
      exact .inr ⟨result, expanded, normal, normal.normalize?, normal.components_join⟩

/-- A stem may hold a placeholder of its own, which is then filled in as well. -/
theorem template_with_inserted_placeholder :
    (∃ result, expandTemplate? "src/\x7bext\x7d.d.ts" "\x7bdir\x7d/../\x7bname\x7d.test" = some result ∧
      IsNormal result ∧ result = "ts.d.test") ∧
    Refused (fillTemplate "src/a.ts" "\x7bdir\x7d/../../\x7bname\x7d") := by
  obtain ⟨-, -, inside⟩ := normal_paths_stay_inside
  constructor
  · rcases inside "src/\x7bext\x7d.d.ts" "\x7bdir\x7d/../\x7bname\x7d.test" with
      ⟨none, -⟩ | ⟨result, expanded, normal, -⟩
    · exact absurd none (by decide +kernel)
    · refine ⟨result, expanded, normal, Option.some.inj (expanded.symm.trans ?_)⟩
      decide +kernel
  · rcases inside "src/a.ts" "\x7bdir\x7d/../../\x7bname\x7d" with ⟨-, refused⟩ | ⟨result, expanded, -⟩
    · exact refused
    · have outside : expandTemplate? "src/a.ts" "\x7bdir\x7d/../../\x7bname\x7d" = none := by
        decide +kernel
      cases outside.symm.trans expanded

end Path

end Conformance
