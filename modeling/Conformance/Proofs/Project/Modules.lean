import Conformance.Proofs.Dict
import Conformance.Proofs.Project.Path

/-! Relative imports. What an import names is given by following its segments from the folder of the
importing file, however deep that folder lies, and moves along when the project is moved as a whole. Files
in a folder get that answer. For files at the root the empty folder leaves a slash in front, and so for
imports of the root itself in front of the index files. -/
namespace Conformance.Path

variable {files : Dict Unit} {importer specifier folder : String} {parts : List String}

def IsRelative (specifier : String) : Prop :=
  Text.startsWith specifier "./" = true ∨ Text.startsWith specifier "../" = true

/-- Where to look for the module at a place, in order: the place itself, with each extension, the index
files below it, and the file of a package. -/
def places (parts : List String) : List String :=
  Text.join "/" parts :: (extensions.map fun ext => Text.join "/" parts ++ "." ++ ext) ++
    (extensions.map fun ext => Text.join "/" (parts ++ ["index." ++ ext])) ++
    [Text.join "/" (parts ++ ["__init__.py"])]

/-- The answer that is due to a relative import: the first file there is at the place where its segments
lead to, and nothing if they leave the root. -/
structure Due (files : Dict Unit) (importer specifier : String) (answer : Option String) : Prop where
  within : ∀ parts, Leads (directory importer) (segments specifier) parts →
    answer = (places parts).find? files.contains
  outside : Escapes (directory importer ++ segments specifier) → answer = none

/-- The files of a project that is put into a folder as a whole. -/
def moved (folder : String) (files : Dict Unit) : Dict Unit :=
  Dict.ofList (files.keys.map fun file => (folder ++ "/" ++ file, ()))

section Following

variable {start segs target : List String}

private theorem leads_append {names : List String} (named : ∀ name ∈ names, IsName name) :
    Leads start (names ++ segs) target ↔ Leads (start ++ names) segs target := by
  have down : names.foldlM applySegment start.reverse = some (start ++ names).reverse :=
    leads_iff.1 (leads_names named)
  rw [leads_iff, leads_iff, List.foldlM_append, down]
  rfl

theorem Leads.inside (outer : List String) (leads : Leads start segs target) :
    Leads (outer ++ start) segs (outer ++ target) := by
  induction leads with
  | here => exact .here _
  | stay idle _ ih => exact .stay idle ih
  | up _ ih =>
    rw [← List.append_assoc]
    exact .up ih
  | down named _ ih =>
    rw [← List.append_assoc] at ih
    exact .down named ih

theorem Leads.unique {target' : List String} (leads : Leads start segs target)
    (leads' : Leads start segs target') : target = target' :=
  List.reverse_injective (Option.some.inj ((leads_iff.1 leads).symm.trans (leads_iff.1 leads')))

/-- Segments lead somewhere or leave the root. -/
theorem exists_leads_iff (named : ∀ name ∈ start, IsName name) :
    (∃ target, Leads start segs target) ↔ ¬Escapes (start ++ segs) := by
  have followed : (start ++ segs).foldlM applySegment [] = segs.foldlM applySegment start.reverse := by
    have down : Leads [] start start := leads_names named
    rw [List.foldlM_append, show List.foldlM applySegment [] start = _ from leads_iff.1 down]
    rfl
  have refused : (start ++ segs).foldlM applySegment [] = none ↔ _ := foldlM_applySegment_eq_none
  simp only [List.length_nil, Nat.zero_add] at refused
  rw [Escapes, ← refused, followed]
  constructor
  · rintro ⟨target, leads⟩
    rw [leads_iff.1 leads]
    exact Option.some_ne_none _
  · intro some
    obtain ⟨stack, reached⟩ := Option.ne_none_iff_exists'.1 some
    refine ⟨stack.reverse, leads_iff.2 ?_⟩
    rw [reached, List.reverse_reverse]

end Following

section Bases

theorem join_concat (nonempty : parts ≠ []) (name : String) :
    Text.join "/" (parts ++ [name]) = Text.join "/" parts ++ "/" ++ name := by
  rw [join_append nonempty (List.cons_ne_nil name [])]
  exact congrArg _ String.intercalate_singleton

/-- The path of the folder of a file; at the root it is empty. -/
private theorem split_fst (path : String) : (split path).1 = Text.join "/" (directory path) := by
  obtain ⟨name, whole⟩ := exists_directory_concat path
  have free : '/' ∉ name.toList :=
    slash_not_mem_segment (whole ▸ List.mem_append_right _ List.mem_cons_self)
  have written := join_segments path
  rw [whole] at written
  rw [split, Text.cutLast?]
  by_cases root : directory path = []
  · rw [root, List.nil_append, Text.join, String.intercalate_singleton] at written
    rw [← written, Chars.cutLast?_eq_none free, written, root]
    rfl
  · rw [join_concat root] at written
    have cut : path.toList = (Text.join "/" (directory path)).toList ++ '/' :: name.toList := by
      rw [← congrArg String.toList written]
      simp
    rw [cut, Chars.cutLast?_append free]
    simp

theorem specifierBase?_eq (relative : IsRelative specifier) : specifierBase? importer specifier =
    normalize? (Text.join "/" (directory importer) ++ "/" ++ specifier) := by
  unfold specifierBase?
  rw [if_pos (Bool.or_eq_true_iff.2 relative), split_fst]

variable (plain : ∀ part ∈ directory importer, IsPlain part)
include plain

private theorem backslash_not_mem_joined (free : '\\' ∉ specifier.toList) :
    '\\' ∉ (Text.join "/" (directory importer) ++ "/" ++ specifier).toList := by
  have before := backslash_not_mem_join plain
  simpa [before] using free

variable (nested : directory importer ≠ [])
include nested

theorem segments_joined : segments (Text.join "/" (directory importer) ++ "/" ++ specifier) =
    directory importer ++ segments specifier := by
  rw [segments_append, segments_join nested fun part member => (plain part member).noSlash]

private theorem joined_relative :
    (Text.join "/" (directory importer) ++ "/" ++ specifier).toList.head? ≠ some '/' := by
  intro absolute
  have first := head?_segments absolute
  rw [segments_joined plain nested, List.head?_append_of_ne_nil _ nested] at first
  exact (plain "" (List.mem_of_head? first)).named.1 rfl

private theorem specifierBase?_of_leads (relative : IsRelative specifier)
    (free : '\\' ∉ specifier.toList)
    (leads : Leads (directory importer) (segments specifier) parts) :
    specifierBase? importer specifier = some (Text.join "/" parts) := by
  rw [specifierBase?_eq relative]
  refine normalize?_eq_some_iff.2 ⟨⟨joined_relative plain nested, backslash_not_mem_joined plain free⟩,
    parts, ?_, rfl⟩
  rw [segments_joined plain nested]
  exact (leads_append fun part member => (plain part member).named).2 leads

private theorem specifierBase?_of_escapes (relative : IsRelative specifier)
    (escapes : Escapes (directory importer ++ segments specifier)) :
    specifierBase? importer specifier = none := by
  rw [specifierBase?_eq relative]
  refine normalize?_eq_none_iff.2 (.inr (.inr ?_))
  rwa [segments_joined plain nested]

omit plain nested

/-- At the root the path starts with the slash that should follow the folder. -/
private theorem specifierBase?_at_root (relative : IsRelative specifier)
    (root : directory importer = []) :
    specifierBase? importer specifier = none := by
  rw [specifierBase?_eq relative, root]
  exact normalize?_eq_none_iff.2 (.inl (by simp [Text.join]))

private theorem specifierBase?_of_backslash (relative : IsRelative specifier)
    (backslash : '\\' ∈ specifier.toList) : specifierBase? importer specifier = none := by
  rw [specifierBase?_eq relative]
  exact normalize?_eq_none_iff.2 (.inr (.inl (by simp [backslash])))

end Bases

section Answers

/-- Away from the root the places of a module are those that are looked at. -/
theorem candidates_join (nonempty : parts ≠ []) : candidates (Text.join "/" parts) = places parts := by
  have index (ext : String) : "/index." ++ ext = "/" ++ ("index." ++ ext) := by
    rw [← String.append_assoc]
    rfl
  simp only [candidates, places, join_concat nonempty, String.append_assoc, index]
  rfl

theorem resolveModule?_of_leads (plain : ∀ part ∈ directory importer, IsPlain part)
    (nested : directory importer ≠ []) (relative : IsRelative specifier)
    (free : '\\' ∉ specifier.toList) (leads : Leads (directory importer) (segments specifier) parts) :
    resolveModule? files importer specifier =
      (candidates (Text.join "/" parts)).find? files.contains := by
  rw [resolveModule?, specifierBase?_of_leads plain nested relative free leads, Option.bind_some]

theorem due_resolveModule? (plain : ∀ part ∈ directory importer, IsPlain part)
    (nested : directory importer ≠ []) (relative : IsRelative specifier)
    (free : '\\' ∉ specifier.toList)
    (below : ¬Leads (directory importer) (segments specifier) []) :
    Due files importer specifier (resolveModule? files importer specifier) where
  within parts leads := by
    have nonempty : parts ≠ [] := fun empty => below (empty ▸ leads)
    rw [resolveModule?_of_leads plain nested relative free leads, candidates_join nonempty]
  outside escapes := by
    rw [resolveModule?, specifierBase?_of_escapes plain nested relative escapes, Option.bind_none]

theorem existsUnique_due (named : ∀ name ∈ directory importer, IsName name) (files : Dict Unit)
    (specifier : String) : ∃! answer, Due files importer specifier answer := by
  by_cases escapes : Escapes (directory importer ++ segments specifier)
  · have nowhere := mt (exists_leads_iff named).1 (not_not.2 escapes)
    refine ⟨none, ⟨fun parts leads => absurd ⟨parts, leads⟩ nowhere, fun _ => rfl⟩, ?_⟩
    exact fun answer due => due.outside escapes
  · obtain ⟨parts, leads⟩ := (exists_leads_iff named).2 escapes
    refine ⟨_, ⟨fun other leads' => ?_, fun leaves => absurd leaves escapes⟩,
      fun answer due => due.within parts leads⟩
    rw [leads.unique leads']

end Answers

section Moving

private theorem contains_moved (folder : String) (files : Dict Unit) (file : String) :
    (moved folder files).contains (folder ++ "/" ++ file) = files.contains file := by
  rw [Bool.eq_iff_iff, Dict.contains_iff, Dict.contains_iff, moved, Dict.mem_keys_ofList]
  simp

private theorem places_moved (nonempty : parts ≠ []) :
    places (folder :: parts) = (places parts).map fun place => folder ++ "/" ++ place := by
  have inside {rest : List String} (nonempty : rest ≠ []) :
      Text.join "/" (folder :: rest) = folder ++ "/" ++ Text.join "/" rest :=
    String.intercalate_cons_of_ne_nil nonempty
  have further (name : String) : parts ++ [name] ≠ [] := by simp
  simp only [places, inside nonempty, inside (further _), List.cons_append, List.map_cons,
    List.map_append, List.map_map, List.map_nil, Function.comp_def, String.append_assoc]

private theorem directory_moved (plain : IsPlain folder) :
    directory (folder ++ "/" ++ importer) = folder :: directory importer := by
  have single : segments folder = [folder] := by
    have alone := segments_join (List.cons_ne_nil folder []) (by simpa using plain.noSlash)
    rwa [Text.join, String.intercalate_singleton] at alone
  rw [directory, segments_append, single, List.singleton_append,
    List.dropLast_cons_of_ne_nil (segments_ne_nil importer), directory]

/-- In a project that lies in a folder as a whole, no file is at the root. -/
theorem resolveModule?_moved (plain : ∀ part ∈ directory importer, IsPlain part)
    (folderPlain : IsPlain folder) (relative : IsRelative specifier) (free : '\\' ∉ specifier.toList)
    (leads : Leads (directory importer) (segments specifier) parts) (nonempty : parts ≠ []) :
    resolveModule? (moved folder files) (folder ++ "/" ++ importer) specifier =
      ((places parts).find? files.contains).map fun place => folder ++ "/" ++ place := by
  have deeper : directory (folder ++ "/" ++ importer) = folder :: directory importer :=
    directory_moved folderPlain
  have inside : Leads (directory (folder ++ "/" ++ importer)) (segments specifier) (folder :: parts) :=
    deeper ▸ leads.inside [folder]
  have there : (moved folder files).contains ∘ (fun place => folder ++ "/" ++ place) = files.contains :=
    funext fun place => contains_moved folder files place
  rw [resolveModule?_of_leads ?_ ?_ relative free inside, candidates_join (List.cons_ne_nil folder parts),
    places_moved nonempty, List.find?_map, there]
  · rw [deeper]
    exact List.forall_mem_cons.2 ⟨folderPlain, plain⟩
  · rw [deeper]
    exact List.cons_ne_nil folder _

end Moving

private theorem plain_directory (normal : normalize? importer = some importer) :
    ∀ part ∈ directory importer, IsPlain part := by
  obtain ⟨parts, written, plain⟩ := IsNormal.of_normalize? normal
  by_cases empty : parts = []
  · subst empty
    rw [written, show directory (Text.join "/" []) = [] by decide]
    exact nofun
  · intro part member
    rw [written, directory, segments_join empty fun part member => (plain part member).noSlash] at member
    exact plain part (List.dropLast_subset parts member)

/-- A file in a folder gets the answer that is due to a relative import, unless it names the root itself.
A file at the root gets none, and a project moved into a folder gets what was due before. -/
theorem relative_import_in_a_folder (files : Dict Unit) (importer specifier : String)
    (normal : normalize? importer = some importer) (relative : IsRelative specifier) :
    (∃! answer, Due files importer specifier answer) ∧
    (directory importer ≠ [] → '\\' ∉ specifier.toList →
      (¬Leads (directory importer) (segments specifier) [] →
        Due files importer specifier (resolveModule? files importer specifier)) ∧
      (Leads (directory importer) (segments specifier) [] →
        resolveModule? files importer specifier = (candidates "").find? files.contains)) ∧
    (directory importer = [] ∨ '\\' ∈ specifier.toList →
      resolveModule? files importer specifier = none) ∧
    ∀ folder answer, IsPlain folder → '\\' ∉ specifier.toList →
      ¬Escapes (directory importer ++ segments specifier) →
      ¬Leads (directory importer) (segments specifier) [] → Due files importer specifier answer →
      resolveModule? (moved folder files) (folder ++ "/" ++ importer) specifier =
        answer.map fun place => folder ++ "/" ++ place := by
  have plain := plain_directory normal
  have named (name : String) (member : name ∈ directory importer) : IsName name :=
    (plain name member).named
  refine ⟨existsUnique_due named files specifier, fun nested free => ⟨fun below => ?_, fun root => ?_⟩,
    fun slip => ?_, fun folder answer folderPlain free stays below due => ?_⟩
  · exact due_resolveModule? plain nested relative free below
  · exact resolveModule?_of_leads plain nested relative free root
  · have nowhere : specifierBase? importer specifier = none :=
      slip.elim (specifierBase?_at_root relative) (specifierBase?_of_backslash relative)
    rw [resolveModule?, nowhere, Option.bind_none]
  · obtain ⟨parts, leads⟩ := (exists_leads_iff named).2 stays
    have nonempty : parts ≠ [] := fun empty => below (empty ▸ leads)
    rw [resolveModule?_moved plain folderPlain relative free leads nonempty, due.within parts leads]

theorem index_file_of_the_folder_beside :
    normalize? "src/lib/b.ts" = some "src/lib/b.ts" ∧ IsRelative "../util" ∧
    Due (Dict.ofList [("src/lib/b.ts", ()), ("src/util/index.ts", ())]) "src/lib/b.ts" "../util"
      (some "src/util/index.ts") := by
  have normal : normalize? "src/lib/b.ts" = some "src/lib/b.ts" := by decide +kernel
  have relative : IsRelative "../util" := .inr (by decide +kernel)
  refine ⟨normal, relative, ?_⟩
  obtain ⟨-, nested, -⟩ := relative_import_in_a_folder
    (Dict.ofList [("src/lib/b.ts", ()), ("src/util/index.ts", ())]) "src/lib/b.ts" "../util" normal relative
  have followed : (segments "../util").foldlM applySegment (directory "src/lib/b.ts").reverse =
      some ["util", "src"] := by decide +kernel
  have due := (nested (by decide +kernel) (by decide +kernel)).1 fun root => by
    cases followed.symm.trans (leads_iff.1 root)
  rwa [show resolveModule? _ "src/lib/b.ts" "../util" = some "src/util/index.ts" by decide +kernel] at due

/-- At the root no import of the file beside is followed, and below another folder it is. -/
theorem import_beside_root_file_is_lost :
    normalize? "a.ts" = some "a.ts" ∧ IsRelative "./b" ∧
    Due (Dict.ofList [("a.ts", ()), ("b.ts", ())]) "a.ts" "./b" (some "b.ts") ∧
    resolveModule? (Dict.ofList [("a.ts", ()), ("b.ts", ())]) "a.ts" "./b" = none ∧
    resolveModule? (moved "app" (Dict.ofList [("a.ts", ()), ("b.ts", ())])) "app/a.ts" "./b" =
      some "app/b.ts" := by
  have followed : (segments "./b").foldlM applySegment (directory "a.ts").reverse = some ["b"] := by
    decide +kernel
  have leads : Leads (directory "a.ts") (segments "./b") ["b"] := leads_iff.2 followed
  refine ⟨by decide +kernel, .inl (by decide +kernel), ⟨fun parts reached => ?_, fun escapes => ?_⟩,
    by decide +kernel, by decide +kernel⟩
  · rw [reached.unique leads]
    decide +kernel
  · exact absurd escapes ((exists_leads_iff (by decide +kernel)).1 ⟨_, leads⟩)


end Conformance.Path
