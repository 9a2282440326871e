import Conformance.Proofs.Resolution.Chain
import Conformance.Proofs.Resolution.Entries

/-! What the constraints of a flattened architecture are: those that its line of descent
contributes, merged in the order of application. What holds of merged lists holds of them. -/
namespace Conformance.Resolution

/-- The constraints that one mixin reference contributes. -/
def mixinContribution (r : Registry) (ref : MixinRef) : List Constraint :=
  match r.mixins.find? ref.name with
  | some mixin => mixinConstraints mixin ref.params
  | none => []

/-- The constraints that one architecture contributes: those of its mixins, then its own. -/
def contribution (r : Registry) (options : ResolveOptions) (node : ArchitectureNode) :
    List Constraint :=
  (if options.expandMixins then node.mixins else []).flatMap (mixinContribution r) ++
    ownConstraints node

/-- All constraints that a line of descent contributes, in the order of application. -/
def contributions (r : Registry) (options : ResolveOptions) (ids : List String) : List Constraint :=
  (ids.filterMap r.get?).flatMap (contribution r options)

theorem mergeAll_append (acc cs ds : List Constraint) :
    Merge.mergeAll acc (cs ++ ds) = Merge.mergeAll (Merge.mergeAll acc cs) ds :=
  List.foldl_append

/-- A fold that merges a list of constraints at each item merges them all. -/
theorem foldlM_constraints {α ε : Type} {step : Gathered → α → Except ε Gathered}
    (brings : α → List Constraint)
    (merges : ∀ g g' item, step g item = .ok g' →
      g'.constraints = Merge.mergeAll g.constraints (brings item))
    {items : List α} {g g' : Gathered} (done : items.foldlM step g = .ok g') :
    g'.constraints = Merge.mergeAll g.constraints (items.flatMap brings) := by
  induction items generalizing g with
  | nil =>
    cases done
    rfl
  | cons item rest ih =>
    rw [List.foldlM_cons] at done
    cases first : step g item with
    | error e =>
      rw [first] at done
      cases done
    | ok middle =>
      rw [first] at done
      rw [ih done, merges g middle item first, List.flatMap_cons, mergeAll_append]

theorem addMixin_constraints {r : Registry} {archId : String} {g g' : Gathered} {ref : MixinRef}
    (done : addMixin r archId g ref = .ok g') :
    g'.constraints = Merge.mergeAll g.constraints (mixinContribution r ref) := by
  unfold addMixin at done
  split at done
  · cases done
  · rename_i mixin found
    cases done
    simp [mixinContribution, found]

theorem addNode_constraints {r : Registry} {options : ResolveOptions} {g g' : Gathered}
    {node : ArchitectureNode} (done : addNode r options g node = .ok g') :
    g'.constraints = Merge.mergeAll g.constraints (contribution r options node) := by
  unfold addNode at done
  unfold contribution
  generalize (if options.expandMixins then node.mixins else []) = mixins at done ⊢
  dsimp only at done
  cases gathered : mixins.foldlM (addMixin r node.id) g with
  | error e =>
    rw [gathered] at done
    cases done
  | ok middle =>
    rw [gathered] at done
    cases done
    have mixed := foldlM_constraints (mixinContribution r) (fun _ _ _ => addMixin_constraints) gathered
    rw [mergeAll_append, ← mixed]

/-- A flattened architecture holds the contributions of its line of descent, merged in order. -/
theorem resolve_constraints {r : Registry} {id : String} {options : ResolveOptions}
    {a : FlattenedArchitecture} (resolved : resolve r id options = .ok a) :
    a.constraints = Merge.mergeAll [] (contributions r options a.inheritanceChain) := by
  unfold resolve at resolved
  split at resolved
  · cases resolved
  · rename_i ids walked
    dsimp only at resolved
    split at resolved
    · cases resolved
    · rename_i g gathered
      cases resolved
      exact foldlM_constraints (contribution r options) (fun _ _ _ => addNode_constraints) gathered

/-- However constraints are merged, and so in every flattened architecture: a singleton rule, a
list of one rule and severity, and a scalar stand there at most once, and no entry is both an
error and a warning of one rule. -/
theorem merged_constraints_flat :
    (∀ cs : List Constraint, Merge.Flat (Merge.mergeAll [] cs)) ∧
    ∀ (r : Registry) (id : String) (options : ResolveOptions) (a : FlattenedArchitecture),
      resolve r id options = .ok a → Merge.Flat a.constraints := by
  have flat (cs : List Constraint) : Merge.Flat (Merge.mergeAll [] cs) :=
    Merge.flat_of_compatible (Merge.mergeAll_compatible cs List.Pairwise.nil)
  refine ⟨flat, ?_⟩
  intro r id options a resolved
  rw [resolve_constraints resolved]
  exact flat _

/-- The last word on an entry counts. A forbidden entry is left exactly if its rule spoke of it
last, and not the rule that allows it; where all contributions of a rule are lists, its entries
have the severity of the last that names them; and a rule that nothing lifts loses no entry. -/
theorem flattened_entries_have_last_word {r : Registry} {id : String} {options : ResolveOptions}
    {a : FlattenedArchitecture} (resolved : resolve r id options = .ok a) :
    (∀ allow forbid : Rule, allow.negates? = some forbid → ∀ entry,
      Merge.Occurs a.constraints forbid.name entry ↔
        ∃ c, Merge.lastWord? (contributions r options a.inheritanceChain)
          [forbid.name, allow.name] entry = some c ∧ c.rule = forbid.name) ∧
    (∀ rule, Rule.isSingleName rule = false →
      (∀ c ∈ contributions r options a.inheritanceChain, c.rule = rule → Merge.isList c.value) →
      ∀ entry, Merge.Occurs a.constraints rule entry →
        ∃ c, Merge.lastWord? (contributions r options a.inheritanceChain) [rule] entry = some c ∧
          ∀ severity, Merge.OccursAs a.constraints rule severity entry ↔ severity = c.severity) ∧
    (∀ rule, Rule.isSingleName rule = false →
      (∀ allow forbid : Rule, allow.negates? = some forbid → forbid.name ≠ rule) →
      ∀ c ∈ contributions r options a.inheritanceChain, c.rule = rule → ∀ entry, c.mentions entry →
        Merge.Occurs a.constraints rule entry) := by
  rw [resolve_constraints resolved]
  refine ⟨?_, ?_, ?_⟩
  · intro allow forbid negates entry
    exact Merge.occurs_mergeAll_iff negates _ entry
  · rintro rule many lists entry ⟨d, member, own, named⟩
    obtain ⟨c, last, level⟩ := Merge.occursAs_mergeAll many lists ⟨d, member, own, rfl, named⟩
    refine ⟨c, last, fun severity => ⟨?_, ?_⟩⟩
    · intro occurs
      obtain ⟨c', last', level'⟩ := Merge.occursAs_mergeAll many lists occurs
      cases last.symm.trans last'
      exact level'.symm
    · rintro rfl
      exact ⟨d, member, own, level.symm, named⟩
  · intro rule many unlifted c member own entry named
    exact Merge.occurs_mergeAll_of_unlifted many unlifted member own named

/-- A layer that forbids two imports, and one above it that warns of one and takes in a mixin that
allows the other, which is a parameter. -/
def layered : Registry where
  nodes := .ofList [
    ("base", { id := "base", constraints := [.ofRule .forbidImport (.list ["axios", "fs"])] }),
    ("edge", {
      id := "edge", inherits := some "base"
      mixins := [.withParams "opens" (.ofList [("module", "fs")])]
      constraints := [
        { Constraint.ofRule .forbidImport (.list ["axios"]) with severity := .warning }] })]
  mixins := .ofList [
    ("opens", {
      name := "opens", constraints := [.ofRule .allowImport (.list ["$\x7bmodule\x7d"])] })]

theorem flattened_entries_of_layered : ∃ a, resolve layered "edge" = .ok a ∧
    ¬ Merge.Occurs a.constraints "forbid_import" "fs" ∧
    ∀ severity,
      Merge.OccursAs a.constraints "forbid_import" severity "axios" ↔ severity = .warning := by
  obtain ⟨a, resolved⟩ : ∃ a, resolve layered "edge" = .ok a := ⟨_, rfl⟩
  have line : a.inheritanceChain = ["base", "edge"] := by
    cases resolved
    rfl
  have given : contributions layered {} ["base", "edge"] = [
      { Constraint.ofRule .forbidImport (.list ["axios", "fs"]) with source := some "base" },
      { Constraint.ofRule .allowImport (.list ["fs"]) with source := some "mixin:opens" },
      { Constraint.ofRule .forbidImport (.list ["axios"]) with
        severity := .warning, source := some "edge" }] := by
    decide +kernel
  obtain ⟨lifted, levels, -⟩ := flattened_entries_have_last_word resolved
  rw [line, given] at lifted levels
  have left : Merge.Occurs a.constraints "forbid_import" "axios" :=
    (lifted .allowImport .forbidImport rfl "axios").mpr ⟨_, rfl, by decide⟩
  refine ⟨a, resolved, ?_, ?_⟩
  · intro occurs
    obtain ⟨c, last, own⟩ := (lifted .allowImport .forbidImport rfl "fs").mp occurs
    cases last
    exact absurd own (by decide)
  · obtain ⟨c, last, level⟩ := levels "forbid_import" (by decide) (by decide) "axios" left
    cases last
    exact level

end Conformance.Resolution
