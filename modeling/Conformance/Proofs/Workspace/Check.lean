import Conformance.Proofs.Resolution.Merge
import Conformance.Proofs.Validator.Reach
import Conformance.Proofs.Workspace.Run

/-! What the result of checking a file depends on: the rules of the project, the file itself, what
its rules see of other files, and how its overrides are judged on the day. -/
namespace Conformance

/-- Registries with the same definitions, wherever they were read from. -/
structure Registry.SameDefinitions (r r' : Registry) : Prop where
  nodes : r.nodes = r'.nodes
  mixins : r.mixins = r'.mixins
  intents : r.intents = r'.intents

namespace Resolution
variable {r r' : Registry}

theorem walk_congr (same : r.nodes = r'.nodes) (follow : Bool) (fuel : Nat)
    (visited : List String) (id : String) :
    walk r follow fuel visited id = walk r' follow fuel visited id := by
  induction fuel generalizing visited id with
  | zero => rfl
  | succ fuel ih => simp only [walk, Registry.get?, same, ih]

/-- Resolution reads the definitions only. -/
theorem resolve_congr (same : r.SameDefinitions r') (id : String) (options : ResolveOptions) :
    resolve r id options = resolve r' id options := by
  have get : r.get? = r'.get? := by
    funext key
    rw [Registry.get?, Registry.get?, same.nodes]
  have mixin (archId : String) : addMixin r archId = addMixin r' archId := by
    funext g ref
    simp only [addMixin, same.mixins]
  have node : addNode r options = addNode r' options := by
    funext g n
    simp only [addNode, mixin]
  simp only [resolve, chain, walk_congr same.nodes, same.nodes, get, node]

end Resolution

namespace Catalogue

private theorem find?_builtin {name : String} {rule : Rule} {v : Validator}
    (found : builtin.find? name = some (rule, v)) :
    Rule.ofName? name = some rule ∧ v = rule.validator := by
  have named : rule.name = name := by simpa using List.find?_some found
  have member := List.mem_of_find?_eq_some found
  obtain ⟨known, -, same⟩ := List.mem_map.1 member
  cases same
  exact ⟨by rw [← named, Rule.ofName?_name], rfl⟩

/-- The verdict on a constraint changes only with what its rule sees of the project. -/
theorem run_builtin_congr {c : Constraint} {ctx : FileContext} {q : ProjectIndex}
    (same : ∀ rule, c.rule? = some rule →
      rule.reach.Same ctx.filePath ctx.model ctx.project q) :
    builtin.run c { ctx with project := q } = builtin.run c ctx := by
  unfold run
  cases found : builtin.find? c.rule with
  | none => rfl
  | some entry =>
    obtain ⟨rule, v⟩ := entry
    obtain ⟨known, rfl⟩ := find?_builtin found
    simp only [Validator.validator_congr rule (same rule known)]

end Catalogue

namespace Override

/-- Overrides that are judged alike are applied alike. -/
theorem apply_congr {policy : OverridePolicy} {today today' : Date} {overrides : List OverrideTag}
    (same : ∀ t ∈ overrides, policy.check t today = policy.check t today')
    (ds : List Diagnostic) :
    apply ds overrides policy today = apply ds overrides policy today' := by
  have judged {entry : OverrideTag × Nat} (member : entry ∈ overrides.zipIdx) :
      policy.check entry.1 today = policy.check entry.1 today' :=
    same entry.1 (List.fst_mem_of_mem_zipIdx member)
  have actives : active policy today overrides = active policy today' overrides := by
    unfold active
    congr 1
    refine List.filter_congr fun entry member => ?_
    simp only [judged member]
  have issues : overrides.zipIdx.flatMap (issuesOf policy today overrides.length) =
      overrides.zipIdx.flatMap (issuesOf policy today' overrides.length) := by
    refine List.flatMap_congr fun entry member => ?_
    simp only [issuesOf, judged member]
  simp only [apply, actives, issues]

end Override

namespace Workspace

/-- Two opened projects that judge files by the same rules, on whichever day and with or without
stored results. -/
structure SameRules (w w' : Workspace) : Prop where
  registry : w.registry.SameDefinitions w'.registry
  catalogue : w.catalogue = w'.catalogue
  files : w.config.files = w'.config.files
  validation : w.config.validation = w'.config.validation
  overrides : w.config.overrides = w'.config.overrides
  patterns : w.config.patterns = w'.config.patterns

/-- Two projects that look the same to all constraints of an architecture. -/
def SameView (a : FlattenedArchitecture) (path : String) (model : SourceModel)
    (p q : ProjectIndex) : Prop :=
  ∀ c ∈ a.constraints, ∀ rule, c.rule? = some rule → rule.reach.Same path model p q

variable {w w' : Workspace}

theorem SameRules.resolve (rules : w.SameRules w') (id : String) : w.resolve id = w'.resolve id :=
  Resolution.resolve_congr rules.registry id {}

theorem contextOf_congr (rules : w.SameRules w') (project project' : ProjectIndex)
    (f : ParsedFile) (archId : String) (model : SourceModel) :
    w'.contextOf project' f archId model =
      { w.contextOf project f archId model with project := project' } := by
  simp only [contextOf, rules.registry.intents, rules.patterns, rules.validation]

/-- The findings about a file are the same in projects that look the same to its constraints. -/
theorem findings_congr (rules : w.SameRules w') (builtin : w.catalogue = .builtin)
    {a : FlattenedArchitecture} {f : ParsedFile} {model : SourceModel}
    {project project' : ProjectIndex} (view : SameView a f.path model project project')
    (archId : String) :
    w'.findings archId a (w'.contextOf project' f archId model) =
      w.findings archId a (w.contextOf project f archId model) := by
  rw [contextOf_congr rules project project']
  unfold findings
  rw [← rules.catalogue, builtin]
  congr 1
  refine List.flatMap_congr fun c member => ?_
  refine congrArg Verdict.violations (Catalogue.run_builtin_congr fun rule known => ?_)
  rcases List.mem_append.1 member with own | implicit
  · exact view c own rule known
  · unfold implicitConstraints at implicit
    split at implicit
    · cases List.mem_singleton.1 implicit
      cases known.symm.trans (Rule.ofName?_name .verifyIntent)
      trivial
    · cases implicit

/-- The same file read twice, whether asked for or not. -/
structure SameFile (f f' : ParsedFile) : Prop where
  path : f.path = f'.path
  content : f.content = f'.content
  tags : f.tags = f'.tags
  model : f.model = f'.model
  imports : f.imports = f'.imports

theorem checked_of_sameFile {f f' : ParsedFile} (file : SameFile f f') (project : ProjectIndex) :
    Run.checked w project f = Run.checked w project f' := by
  obtain ⟨path, content, checksum, target, tags, model, imports⟩ := f
  obtain ⟨path', content', checksum', target', tags', model', imports'⟩ := f'
  obtain ⟨rfl, rfl, rfl, rfl, rfl⟩ := file
  rfl

/-- A check gives the same result by the same rules on the same file, if the project looks the
same to the constraints of its architecture and its overrides are judged alike. -/
theorem checked_congr (rules : w.SameRules w') (builtin : w.catalogue = .builtin)
    {f f' : ParsedFile} (file : SameFile f f') {project project' : ProjectIndex}
    (overrides : ∀ t ∈ f.tags.overrides,
      w.config.overrides.check t w.today = w.config.overrides.check t w'.today)
    (view : ∀ tag a model, f.tags.arch = some tag → w.resolve tag.id = .ok a → f.model = .ok model →
      SameView a f.path model project project') :
    Run.checked w project f = Run.checked w' project' f' := by
  rw [← checked_of_sameFile file project']
  unfold Run.checked
  cases arch : f.tags.arch with
  | none => simp only [checkUntagged, rules.validation]
  | some tag =>
    simp only [checkTagged, ← rules.resolve]
    cases resolved : w.resolve tag.id with
    | error e =>
      have closest (id : String) : w'.registry.closestId? id = w.registry.closestId? id := by
        rw [Registry.closestId?, Registry.closestId?, Registry.ids, Registry.ids, rules.registry.nodes]
      simp only [unresolved, closest]
    | ok a =>
      cases model : f.model with
      | error e => rfl
      | ok m =>
        have found := findings_congr rules builtin (view tag a m arch resolved model) tag.id
        simp only [found, ← rules.overrides, Override.apply_congr overrides]

end Workspace

end Conformance
