import Conformance.Proofs.Registry.Checksum
import Mathlib.Data.List.Dedup
import Mathlib.Data.List.Pairwise

/-! Merging registry files. The first definition of a name stays under that name, each further one is an
issue, and a file that cannot be read is as if it were not there. Files that have no name in common may
be merged in any order. -/
namespace Conformance

namespace Dict

variable {α β : Type}

private theorem find?_insertNew (d : Dict α) (key other : String) (value : α) :
    (d.insertNew key value).find? other =
      (d.find? other).or (if key = other then some value else none) := by
  unfold insertNew contains
  split
  · rename_i known
    by_cases same : key = other
    · subst same
      obtain ⟨found, known⟩ := Option.isSome_iff_exists.1 known
      rw [known, Option.some_or]
    · rw [if_neg same, Option.or_none]
  · rename_i new
    rw [find?_insert]
    by_cases same : key = other
    · subst same
      rw [Option.not_isSome_iff_eq_none.1 new, if_pos rfl, Option.none_or]
    · rw [if_neg same, if_neg same, Option.or_none]

@[simp] theorem keys_map (d : Dict α) (f : String → α → β) : (d.map f).keys = d.keys := by
  simp [keys, map]

end Dict

/-- A count over all kinds of definitions. -/
def DefinitionKind.total (count : DefinitionKind → Nat) : Nat :=
  count .architecture + count .mixin + count .intent

/-- The names that a file defines, by kind. -/
def RegistryFile.names (file : RegistryFile) : DefinitionKind → List String
  | .architecture => file.architectures.keys
  | .mixin => file.mixins.keys
  | .intent => file.intents.keys

namespace Registry

/-- The names that are defined, by kind. -/
def names (r : Registry) : DefinitionKind → List String
  | .architecture => r.nodes.keys
  | .mixin => r.mixins.keys
  | .intent => r.intents.keys

/-- The registry after a file, given by path and text, is offered to it: a file that cannot be read
changes nothing. -/
def offer (r : Registry) (file : String × String) : Registry := (r.mergeText? file.1 file.2).getD r

/-- The registry after files are offered to an empty one in their order. -/
def ofOffered (files : List (String × String)) : Registry := files.foldl offer {}

/-- The files that can be read, with what they are read as. -/
def readFiles (files : List (String × String)) : List (String × RegistryFile) :=
  files.filterMap fun file => (RegistryFile.read? file.2).map (file.1, ·)

/-- The registry after read files are merged into it in their order. -/
def mergeAll (r : Registry) (files : List (String × RegistryFile)) : Registry :=
  files.foldl (fun r file => r.merge file.1 file.2) r

/-- The names of a kind that files define, as often as they define them. -/
def definedNames (kind : DefinitionKind) (files : List (String × RegistryFile)) : List String :=
  files.flatMap fun file => file.2.names kind

section Sections

variable {α : Type} (known defined other : Dict α)

theorem find?_addNew_eq (name : String) :
    (addNew known defined).find? name = (known.find? name).or (defined.find? name) := by
  unfold addNew
  change _ = (known.find? name).or (Dict.lookup name defined.entries)
  generalize defined.entries = entries
  induction entries generalizing known with
  | nil => simp [Dict.lookup]
  | cons entry rest ih =>
    obtain ⟨key, value⟩ := entry
    rw [List.foldl_cons, ih, Dict.find?_insertNew, Option.or_assoc, Dict.lookup]
    by_cases same : key = name
    · simp [same]
    · simp [same]

/-- The first map in a row with a name gives its value. -/
private theorem find?_foldl_addNew (ds : List (Dict α)) (name : String) :
    (ds.foldl addNew known).find? name =
      (known.find? name).or (ds.findSome? fun d => d.find? name) := by
  induction ds generalizing known with
  | nil => simp
  | cons d rest ih =>
    rw [List.foldl_cons, ih, find?_addNew_eq, Option.or_assoc, List.findSome?_cons]
    cases d.find? name <;> rfl

theorem mem_keys_addNew {name : String} :
    name ∈ (addNew known defined).keys ↔ name ∈ known.keys ∨ name ∈ defined.keys := by
  rw [Dict.mem_keys, Dict.mem_keys, Dict.mem_keys, find?_addNew_eq, Option.isSome_or, Bool.or_eq_true]

/-- Each definition is a new name or a repeated one. -/
theorem length_repeated :
    (repeated known defined).length + (addNew known defined).keys.length =
      known.keys.length + defined.keys.length := by
  have fresh : (addNew known defined).keys.Perm
      (known.keys ++ defined.keys.filter fun name => !known.contains name) := by
    refine (List.perm_ext_iff_of_nodup (Dict.nodup_keys _) ?_).2 fun name => ?_
    · refine (Dict.nodup_keys known).append ((Dict.nodup_keys defined).filter _) ?_
      intro name old new
      have absent := (List.mem_filter.1 new).2
      rw [Dict.contains_iff.2 old] at absent
      cases absent
    · rw [mem_keys_addNew, List.mem_append, List.mem_filter]
      by_cases old : name ∈ known.keys
      · simp [old]
      · have absent : known.contains name = false := by
          rw [← Bool.not_eq_true, Dict.contains_iff]
          exact old
        simp [old, absent]
  have split := List.length_eq_length_filter_add (l := defined.keys) known.contains
  rw [fresh.length_eq, List.length_append, repeated]
  omega

/-- Maps that share no name are added in either order. -/
theorem addNew_comm (apart : defined.keys.Disjoint other.keys) :
    addNew (addNew known defined) other = addNew (addNew known other) defined := by
  apply Dict.ext_find?
  intro name
  simp only [find?_addNew_eq, Option.or_assoc]
  congr 1
  cases first : defined.find? name with
  | none => rw [Option.none_or, Option.or_none]
  | some value =>
    cases second : other.find? name with
    | none => rfl
    | some value' =>
      exact absurd (Dict.mem_keys.2 (Option.isSome_of_eq_some second))
        (apart (Dict.mem_keys.2 (Option.isSome_of_eq_some first)))

end Sections

section Merging

variable (r : Registry) (files : List (String × RegistryFile)) (kind : DefinitionKind)

private theorem mem_names_merge (path : String) (file : RegistryFile) {name : String} :
    name ∈ (r.merge path file).names kind ↔ name ∈ r.names kind ∨ name ∈ file.names kind := by
  cases kind <;> simp only [names, RegistryFile.names, merge, mem_keys_addNew, Dict.keys_map]

theorem nodup_names : (r.names kind).Nodup := by
  cases kind <;> exact Dict.nodup_keys _

/-- Every definition of a file is taken in or gives an issue of its kind. -/
private theorem countP_issues_merge (path : String) (file : RegistryFile) :
    (r.merge path file).issues.countP (·.kind = kind) + ((r.merge path file).names kind).length =
      r.issues.countP (·.kind = kind) + (r.names kind).length + (file.names kind).length := by
  have nodes := length_repeated r.nodes (file.architectures.map fun id node => { node with id })
  have mixins := length_repeated r.mixins (file.mixins.map fun name mixin => { mixin with name })
  have intents := length_repeated r.intents (file.intents.map fun name intent => { intent with name })
  rw [Dict.keys_map] at nodes mixins intents
  cases kind <;>
    simp [merge, names, RegistryFile.names, List.countP_append, List.countP_map, Function.comp_def] <;>
    omega

theorem mergeAll_cons (file : String × RegistryFile) :
    mergeAll r (file :: files) = mergeAll (r.merge file.1 file.2) files := rfl

theorem sources_mergeAll : (mergeAll r files).sources = r.sources ++ files.map (·.1) := by
  induction files generalizing r with
  | nil => exact (List.append_nil _).symm
  | cons file rest ih =>
    rw [mergeAll_cons, ih]
    exact List.append_assoc r.sources [file.1] _

/-- A section of a registry is merged from the same section of each file. -/
theorem section_mergeAll {β γ : Type} {view : Registry → β} {add : β → γ → β}
    {part : RegistryFile → γ}
    (step : ∀ r path file, view (merge r path file) = add (view r) (part file)) :
    view (mergeAll r files) = (files.map fun file => part file.2).foldl add (view r) := by
  induction files generalizing r with
  | nil => rfl
  | cons file rest ih => rw [mergeAll_cons, ih, step, List.map_cons, List.foldl_cons]

theorem mem_names_mergeAll {name : String} :
    name ∈ (mergeAll r files).names kind ↔ name ∈ r.names kind ∨ name ∈ definedNames kind files := by
  induction files generalizing r with
  | nil => simp [mergeAll, definedNames]
  | cons file rest ih =>
    rw [mergeAll_cons, ih, mem_names_merge, or_assoc, definedNames, definedNames, List.flatMap_cons,
      List.mem_append]

/-- Over all files, every definition is taken in or gives an issue. -/
theorem countP_issues_mergeAll :
    (mergeAll r files).issues.countP (·.kind = kind) + ((mergeAll r files).names kind).length =
      r.issues.countP (·.kind = kind) + (r.names kind).length + (definedNames kind files).length := by
  induction files generalizing r with
  | nil => rfl
  | cons file rest ih =>
    have step := countP_issues_merge r kind file.1 file.2
    rw [mergeAll_cons, ih, definedNames, definedNames, List.flatMap_cons, List.length_append]
    omega

/-- The definition that stays is the one of the first file with its name, and it carries the name. -/
theorem find?_mergeAll {α : Type} {view : Registry → Dict α} {part : RegistryFile → Dict α}
    {named : String → α → α} (start : view {} = ∅)
    (step : ∀ r path file, view (merge r path file) = addNew (view r) ((part file).map named))
    (name : String) :
    (view (mergeAll {} files)).find? name =
      (files.findSome? fun file => (part file.2).find? name).map (named name) := by
  rw [section_mergeAll {} files step, start, find?_foldl_addNew, Dict.find?_empty, Option.none_or,
    List.findSome?_map, List.map_findSome?]
  exact congrArg (List.findSome? · files) (funext fun file => Dict.find?_map (part file.2) named name)

/-- Files without a common name are merged alike in any order. -/
theorem perm_mergeAll {α : Type} {view : Registry → Dict α} {part : RegistryFile → Dict α}
    (step : ∀ r path file, view (merge r path file) = addNew (view r) (part file))
    {files files' : List (String × RegistryFile)} (order : files.Perm files')
    (apart : files.Pairwise fun a b => (part a.2).keys.Disjoint (part b.2).keys) :
    view (mergeAll r files') = view (mergeAll r files) := by
  rw [section_mergeAll r files step, section_mergeAll r files' step]
  refine ((order.map _).foldl_eq' ?_ _).symm
  intro d inside e insideToo z
  obtain ⟨a, member, rfl⟩ := List.mem_map.1 inside
  obtain ⟨b, memberToo, rfl⟩ := List.mem_map.1 insideToo
  by_cases same : a = b
  · rw [same]
  · have : Std.Symm fun a b : String × RegistryFile => (part a.2).keys.Disjoint (part b.2).keys :=
      ⟨fun _ _ disjoint => disjoint.symm⟩
    exact addNew_comm z _ _ (apart.forall member memberToo same)

theorem names_empty : ({} : Registry).names kind = [] := by
  cases kind <;> rfl

/-- The names that end up in a registry are those that some file defines, each once. -/
private theorem length_names_mergeAll :
    ((mergeAll {} files).names kind).length = (definedNames kind files).dedup.length := by
  refine List.Perm.length_eq ?_
  refine (List.perm_ext_iff_of_nodup (nodup_names _ kind) (List.nodup_dedup _)).2 fun name => ?_
  rw [List.mem_dedup, mem_names_mergeAll, names_empty, or_iff_right List.not_mem_nil]

/-- Of the definitions of a kind, all but the first of each name are issues. -/
theorem countP_add_dedup :
    (mergeAll {} files).issues.countP (·.kind = kind) + (definedNames kind files).dedup.length =
      (definedNames kind files).length := by
  rw [← length_names_mergeAll, countP_issues_mergeAll, names_empty]
  simp

private theorem length_issues (issues : List RegistryIssue) :
    issues.length = DefinitionKind.total fun kind => issues.countP (·.kind = kind) := by
  unfold DefinitionKind.total
  induction issues with
  | nil => rfl
  | cons issue rest ih =>
    simp only [List.length_cons, ih, List.countP_cons]
    cases issue.kind <;> simp <;> omega

end Merging

section Offering

theorem offer_of_unread (r : Registry) {path toml : String} (unread : RegistryFile.read? toml = none) :
    r.mergeText? path toml = none ∧ r.offer (path, toml) = r := by
  have fails : r.mergeText? path toml = none := by rw [mergeText?, unread, Option.map_none]
  exact ⟨fails, by rw [offer, fails, Option.getD_none]⟩

theorem offer_of_read (r : Registry) {path toml : String} {parts : RegistryFile}
    (read : RegistryFile.read? toml = some parts) :
    r.mergeText? path toml = some (r.merge path parts) ∧
      r.offer (path, toml) = r.merge path parts := by
  have merged : r.mergeText? path toml = some (r.merge path parts) := by
    rw [mergeText?, read, Option.map_some]
  exact ⟨merged, by rw [offer, merged, Option.getD_some]⟩

theorem readFiles_cons_unread {path toml : String} (unread : RegistryFile.read? toml = none)
    (rest : List (String × String)) : readFiles ((path, toml) :: rest) = readFiles rest :=
  List.filterMap_cons_none (by rw [unread, Option.map_none])

theorem readFiles_cons_read {path toml : String} {parts : RegistryFile}
    (read : RegistryFile.read? toml = some parts) (rest : List (String × String)) :
    readFiles ((path, toml) :: rest) = (path, parts) :: readFiles rest :=
  List.filterMap_cons_some (by rw [read, Option.map_some])

private theorem foldl_offer (r : Registry) (files : List (String × String)) :
    files.foldl offer r = mergeAll r (readFiles files) := by
  induction files generalizing r with
  | nil => rfl
  | cons file rest ih =>
    obtain ⟨path, toml⟩ := file
    rw [List.foldl_cons, ih]
    cases read : RegistryFile.read? toml with
    | none => rw [(offer_of_unread r read).2, readFiles_cons_unread read]
    | some parts => rw [(offer_of_read r read).2, readFiles_cons_read read, mergeAll_cons]

theorem ofOffered_eq (files : List (String × String)) :
    ofOffered files = mergeAll {} (readFiles files) :=
  foldl_offer {} files

/-- A merge that stops at the first file that cannot be read gets through if there is none. -/
theorem foldlM_eq_some_iff (files : List (String × String)) (start r : Registry) :
    files.foldlM (fun r file => r.mergeText? file.1 file.2) start = some r ↔
      (∀ file ∈ files, (RegistryFile.read? file.2).isSome = true) ∧ r = files.foldl offer start := by
  induction files generalizing start with
  | nil =>
    constructor
    · rintro built
      cases built
      exact ⟨List.forall_mem_nil _, rfl⟩
    · rintro ⟨-, rfl⟩
      rfl
  | cons file rest ih =>
    obtain ⟨path, toml⟩ := file
    rw [List.foldlM_cons, List.foldl_cons, List.forall_mem_cons]
    cases read : RegistryFile.read? toml with
    | none =>
      rw [(offer_of_unread start read).1]
      exact iff_of_false nofun fun ⟨⟨read, _⟩, _⟩ => Bool.false_ne_true read
    | some parts =>
      rw [(offer_of_read start read).1, (offer_of_read start read).2]
      refine (ih (start.merge path parts)).trans ?_
      rw [and_iff_right (show (some parts).isSome = true from rfl)]

end Offering

/-- No name is defined by two files. -/
def Apart (files : List (String × RegistryFile)) : Prop :=
  files.Pairwise fun a b => ∀ kind, (a.2.names kind).Disjoint (b.2.names kind)

theorem sameDefinitions_of_perm {files files' : List (String × RegistryFile)}
    (order : files.Perm files') (apart : Apart files) :
    (mergeAll {} files').SameDefinitions (mergeAll {} files) := by
  constructor
  · refine perm_mergeAll {} (fun _ _ _ => rfl) order (apart.imp fun disjoint => ?_)
    simpa [RegistryFile.names] using disjoint .architecture
  · refine perm_mergeAll {} (fun _ _ _ => rfl) order (apart.imp fun disjoint => ?_)
    simpa [RegistryFile.names] using disjoint .mixin
  · refine perm_mergeAll {} (fun _ _ _ => rfl) order (apart.imp fun disjoint => ?_)
    simpa [RegistryFile.names] using disjoint .intent

/-- The first definition of a name stays, each further one is an issue, and a file that cannot be read
changes nothing. Files with no name in common define the same in any order. -/
theorem first_definition_stays (files : List (String × String)) :
    ((∀ id, (ofOffered files).nodes.find? id =
        ((readFiles files).findSome? fun file => file.2.architectures.find? id).map
          fun node => { node with id }) ∧
      (∀ name, (ofOffered files).mixins.find? name =
        ((readFiles files).findSome? fun file => file.2.mixins.find? name).map
          fun mixin => { mixin with name }) ∧
      (∀ name, (ofOffered files).intents.find? name =
        ((readFiles files).findSome? fun file => file.2.intents.find? name).map
          fun intent => { intent with name })) ∧
    (ofOffered files).sources = (readFiles files).map (·.1) ∧
    (∀ kind, (ofOffered files).issues.countP (·.kind = kind) +
        (definedNames kind (readFiles files)).dedup.length =
      (definedNames kind (readFiles files)).length) ∧
    (ofOffered files).issues.length +
        (DefinitionKind.total fun kind => (definedNames kind (readFiles files)).dedup.length) =
      (DefinitionKind.total fun kind => (definedNames kind (readFiles files)).length) ∧
    (∀ (r : Registry) path toml, RegistryFile.read? toml = none →
      r.mergeText? path toml = none ∧ r.offer (path, toml) = r) ∧
    (∀ r, ofFiles? files = some r ↔
      (∀ file ∈ files, (RegistryFile.read? file.2).isSome = true) ∧ r = ofOffered files) ∧
    ∀ files', files.Perm files' → Apart (readFiles files) →
      (ofOffered files').nodes = (ofOffered files).nodes ∧
      (ofOffered files').mixins = (ofOffered files).mixins ∧
      (ofOffered files').intents = (ofOffered files).intents ∧
      (ofOffered files').checksum = (ofOffered files).checksum := by
  refine ⟨?_, ?_, ?_, ?_, fun r path toml => offer_of_unread r, foldlM_eq_some_iff files {}, ?_⟩
  · rw [ofOffered_eq]
    exact ⟨find?_mergeAll _ rfl fun _ _ _ => rfl, find?_mergeAll _ rfl fun _ _ _ => rfl,
      find?_mergeAll _ rfl fun _ _ _ => rfl⟩
  · rw [ofOffered_eq, sources_mergeAll]
    rfl
  · rw [ofOffered_eq]
    exact countP_add_dedup (readFiles files)
  · have each := countP_add_dedup (readFiles files)
    have architectures := each .architecture
    have mixins := each .mixin
    have intents := each .intent
    rw [length_issues, ofOffered_eq]
    simp only [DefinitionKind.total]
    omega
  · intro files' order apart
    have same := sameDefinitions_of_perm (order.filterMap _) apart
    rw [ofOffered_eq, ofOffered_eq]
    exact ⟨same.nodes, same.mixins, same.intents, congrArg Sha256.ofText (canonicalText_congr same)⟩

namespace Overlap

open Hinted (tablesOf plain_read hinted_read)

/-- A mixin, a file that is cut off, and the same mixin once more with a hint. -/
def files : List (String × String) :=
  [("a.toml", "[mixins.m]\n"), ("cut.toml", "["), ("b.toml", "[mixins.m]\nhints = ['x']\n")]

theorem cut_unread : RegistryFile.read? "[" = none := by
  have parts : (RegistryFile.read? "[").isNone = true := by decide +kernel
  exact Option.isNone_iff_eq_none.1 parts

private theorem readFiles_files :
    readFiles files = [("a.toml", tablesOf []), ("b.toml", tablesOf ["x"])] := by
  rw [files, readFiles_cons_read plain_read, readFiles_cons_unread cut_unread,
    readFiles_cons_read hinted_read]
  rfl

private theorem readFiles_alone (rest : List (String × String)) (none : readFiles rest = []) :
    Apart (readFiles (("a.toml", "[mixins.m]\n") :: rest)) := by
  rw [readFiles_cons_read plain_read, none]
  exact List.pairwise_singleton _ _

end Overlap

open Overlap in
theorem repeated_mixin_is_an_issue :
    (ofOffered files).mixins.find? "m" = some { name := "m" } ∧
    (ofOffered files).sources = ["a.toml", "b.toml"] ∧
    (ofOffered files).issues.length = 1 ∧
    (ofOffered [("cut.toml", "["), ("a.toml", "[mixins.m]\n")]).checksum =
      (ofOffered [("a.toml", "[mixins.m]\n"), ("cut.toml", "[")]).checksum := by
  obtain ⟨⟨-, mixins, -⟩, sources, -, issues, -⟩ := first_definition_stays files
  obtain ⟨-, -, -, -, -, -, order⟩ :=
    first_definition_stays [("a.toml", "[mixins.m]\n"), ("cut.toml", "[")]
  rw [readFiles_files] at mixins sources issues
  refine ⟨?_, sources, ?_, ?_⟩
  · rw [mixins]
    decide
  · have known : (DefinitionKind.total fun kind => (definedNames kind
        [("a.toml", Hinted.tablesOf []), ("b.toml", Hinted.tablesOf ["x"])]).dedup.length) = 1 := by
      decide
    rw [known] at issues
    exact Nat.add_right_cancel issues
  · refine (order _ (List.Perm.swap _ _ []) (readFiles_alone _ ?_)).2.2.2
    exact readFiles_cons_unread cut_unread []

end Registry

end Conformance
