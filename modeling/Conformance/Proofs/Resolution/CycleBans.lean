import Conformance.Proofs.Project.Cycles
import Conformance.Proofs.Resolution.Latest
import Conformance.Proofs.Validator.Verdicts

/-! What becomes of a ban on import cycles when an architecture inherits it. The ban holds inside the
files that its globs match, and without a glob in the whole project; a cycle has to lie in the scope
of one constraint. So a ban stays as long as its scope is not narrowed or divided, and merging, which
goes by entries, can do both. -/
namespace Conformance

open ProjectIndex Validator

section Scope

/-- Without a glob the scope is the whole project. -/
theorem Validator.inCycleScope_of_blank {globs : List String} (blank : ∀ glob ∈ globs, glob = "")
    {path : String} : inCycleScope globs path = true := by
  have all : globs.all (·.isEmpty) = true :=
    List.all_eq_true.2 fun glob member => String.isEmpty_iff.2 (blank glob member)
  rw [inCycleScope, all, Bool.true_or]

/-- More globs make for a wider scope, if there was one to begin with or there is still none. -/
theorem Validator.inCycleScope_of_subset {globs more : List String} (sub : ∀ glob ∈ globs, glob ∈ more)
    (proper : (∃ glob ∈ globs, glob ≠ "") ∨ ∀ glob ∈ more, glob = "") {path : String}
    (inside : inCycleScope globs path = true) : inCycleScope more path = true := by
  rcases proper with ⟨glob, member, named⟩ | blank
  · rw [inCycleScope, Bool.or_eq_true] at *
    rcases inside with all | some
    · have empty := List.all_eq_true.1 all glob member
      exact absurd (String.isEmpty_iff.1 empty) named
    · obtain ⟨glob, member, fits⟩ := List.any_eq_true.1 some
      exact .inr (List.any_eq_true.2 ⟨glob, sub glob member, fits⟩)
  · exact inCycleScope_of_blank blank

/-- A cycle inside a condition is one inside any weaker condition. -/
theorem ProjectIndex.IsCycle.mono {p : ProjectIndex} {within wider : String → Bool} {start : String}
    {inner : List String} (cycle : IsCycle p within start inner)
    (weaker : ∀ file, within file = true → wider file = true) : IsCycle p wider start inner :=
  ⟨cycle.edges, fun file member => weaker file (cycle.inside file member)⟩

end Scope

/-- Some finding of a constraint is a cycle through the file. -/
def Constraint.ReportsCycle (c : Constraint) (ctx : FileContext) : Prop :=
  ∃ d ∈ (Catalogue.builtin.run c ctx).violations, d.code = "E014"

instance (c : Constraint) (ctx : FileContext) : Decidable (c.ReportsCycle ctx) :=
  inferInstanceAs (Decidable (∃ d ∈ (Catalogue.builtin.run c ctx).violations, d.code = "E014"))

/-- A ban reports a file exactly if imports lead from it back to it inside the scope of the ban. -/
theorem Constraint.reportsCycle_iff {c : Constraint} {globs : List String}
    (ban : c.rule = Rule.forbidCircularDeps.name) (list : c.value = .list globs) (ctx : FileContext) :
    c.ReportsCycle ctx ↔
      ∃ inner, ctx.project.IsCycle (inCycleScope globs) ctx.filePath inner := by
  have verdict : (Catalogue.builtin.run c ctx).violations =
      (ctx.project.cycleThrough? ctx.filePath (inCycleScope globs)).toList.map fun cycle =>
        .ofConstraint "E014" c c.value ("Circular dependency: " ++ Text.join " -> " cycle)
          "Break the cycle by extracting the shared code or inverting one dependency" := by
    rw [Catalogue.run, Catalogue.find?_builtin_eq, ban, Rule.ofName?_name]
    simp only [Option.map_some, Rule.validator, forbidCircularDeps, onList, list,
      ConstraintValue.toList?]
    cases ctx.project.cycleThrough? ctx.filePath (inCycleScope globs) <;> rfl
  have answers := answers_cycleThrough? ctx.project ctx.filePath (inCycleScope globs)
  rw [ReportsCycle, verdict]
  generalize ctx.project.cycleThrough? ctx.filePath (inCycleScope globs) = outcome at answers
  cases answers with
  | absent no =>
    refine iff_of_false (by simp) ?_
    rintro ⟨inner, cycle⟩
    exact no inner cycle
  | found shortest => exact iff_of_true ⟨_, List.mem_singleton_self _, rfl⟩ ⟨_, shortest.cycle⟩

namespace Merge

section Lists

variable {rule : String}

/-- Of one rule and severity there is one list. -/
private theorem list_unique {cs : List Constraint} {d e : Constraint} (inD : d ∈ mergeAll [] cs)
    (inE : e ∈ mergeAll [] cs) (same : d.rule = e.rule) (severity : d.severity = e.severity)
    (listD : isList d.value = true) (listE : isList e.value = true) : d = e := by
  refine Decidable.byContradiction fun different => ?_
  have compatible := mergeAll_compatible cs List.Pairwise.nil
  obtain ⟨-, lists, -⟩ := compatible_of_ne compatible inD inE different same
  obtain ⟨xs, valueD⟩ := isList_iff.1 listD
  obtain ⟨ys, valueE⟩ := isList_iff.1 listE
  exact (lists xs ys valueD valueE).1 severity

/-- Entries that were given one severity last stand in one list. -/
private theorem exists_list_of_lastWord (many : Rule.isSingleName rule = false)
    (unlifted : ∀ allow forbid : Rule, allow.negates? = some forbid → forbid.name ≠ rule)
    {cs : List Constraint} (lists : ∀ c ∈ cs, c.rule = rule → isList c.value = true)
    {entries : List String} (nonempty : entries ≠ [])
    (named : ∀ entry ∈ entries, ∃ c ∈ cs, c.rule = rule ∧ c.mentions entry = true)
    {severity : Severity} (level : ∀ entry ∈ entries, ∀ c, lastWord? cs [rule] entry = some c →
      c.severity = severity) :
    ∃ d ∈ mergeAll [] cs, d.rule = rule ∧
      ∃ items, d.value = .list items ∧ ∀ entry ∈ entries, entry ∈ items := by
  have occurs : ∀ entry ∈ entries, OccursAs (mergeAll [] cs) rule severity entry := by
    intro entry member
    obtain ⟨c, given, own, mentions⟩ := named entry member
    obtain ⟨d, inside, same, mentioned⟩ :=
      occurs_mergeAll_of_unlifted many unlifted given own mentions
    obtain ⟨last, found, same'⟩ := occursAs_mergeAll many lists ⟨d, inside, same, rfl, mentioned⟩
    exact ⟨d, inside, same, same'.symm.trans (level entry member last found), mentioned⟩
  have shaped := mergeAll_lists lists
  obtain ⟨first, member⟩ := List.exists_mem_of_ne_nil entries nonempty
  obtain ⟨d, inside, same, severe, -⟩ := occurs first member
  obtain ⟨items, value⟩ := isList_iff.1 (shaped d inside same)
  refine ⟨d, inside, same, items, value, fun entry member => ?_⟩
  obtain ⟨e, insideE, sameE, severeE, mentioned⟩ := occurs entry member
  have one : e = d := list_unique insideE inside (sameE.trans same.symm) (severeE.trans severe.symm)
    (shaped e insideE sameE) (shaped d inside same)
  rw [one] at mentioned
  exact (Constraint.mentions_of_list value).1 mentioned

/-- A list goes on as it is or joined with a new one, as long as new ones have its severity. -/
theorem merge_joins (many : Rule.isSingleName rule = false)
    (unlifted : ∀ c : Constraint, c.lifts rule = false) {acc : List Constraint} {c d : Constraint}
    {items : List String} (member : d ∈ acc) (same : d.rule = rule) (list : d.value = .list items)
    (own : c.rule = rule → c.severity = d.severity ∧ isList c.value = true) :
    ∃ e ∈ merge acc c, e.rule = rule ∧ e.severity = d.severity ∧
      (e.value = .list items ∨
        ∃ new, c.rule = rule ∧ c.value = .list new ∧ e.value = .list (unite items new)) := by
  by_cases equal : c.rule = rule
  · obtain ⟨severity, shape⟩ := own equal
    obtain ⟨new, value⟩ := isList_iff.1 shape
    have single : c.isSingle = false := by rw [Constraint.isSingle, equal, many]
    have left : d ∈ remaining acc c := mem_remaining_of_unlifted member (same ▸ unlifted c)
    have yielded : d ∈ yieldEntries (remaining acc c) c new :=
      List.mem_filter.2 ⟨List.mem_map.2 ⟨d, left, by simp [severity]⟩, by simp [severity]⟩
    have alike : sameList c d = true := by
      simp [sameList, same, equal, severity, list, isList]
    rw [merge_list single value]
    rcases mergeList_cases (remaining acc c) c new with ⟨old, earlier, found, before, result⟩ | ⟨unlike, _⟩
    · rw [result]
      rcases mem_replaceOrAppend_or_first { c with value := .list (unite earlier new) } yielded with
        kept | first
      · exact ⟨d, kept, same, rfl, .inl list⟩
      · cases found.symm.trans first
        cases list.symm.trans before
        exact ⟨_, self_mem_replaceOrAppend _ _ _, equal, severity, .inr ⟨new, equal, value, rfl⟩⟩
    · rw [unlike d yielded] at alike
      cases alike
  · refine ⟨d, mem_merge_of_other member (same ▸ Ne.symm equal) (same ▸ unlifted c), same, rfl, ?_⟩
    exact .inl list

/-- What holds of a list and of all that join it, and stays true when lists unite, holds in the end. -/
theorem mergeAll_joins (many : Rule.isSingleName rule = false)
    (unlifted : ∀ c : Constraint, c.lifts rule = false) {P : List String → Prop}
    (unites : ∀ items new, P items → P new → P (unite items new)) {cs : List Constraint}
    {severity : Severity} (joining : ∀ c ∈ cs, c.rule = rule →
      c.severity = severity ∧ ∃ items, c.value = .list items ∧ P items)
    {acc : List Constraint} {d : Constraint} {items : List String} (member : d ∈ acc)
    (same : d.rule = rule) (level : d.severity = severity) (list : d.value = .list items)
    (holds : P items) :
    ∃ e ∈ mergeAll acc cs, e.rule = rule ∧ ∃ items, e.value = .list items ∧ P items := by
  induction cs generalizing acc d items with
  | nil => exact ⟨d, member, same, items, list, holds⟩
  | cons c rest ih =>
    have own : c.rule = rule → c.severity = d.severity ∧ isList c.value = true := by
      intro equal
      obtain ⟨severe, new, value, -⟩ := joining c List.mem_cons_self equal
      exact ⟨severe.trans level.symm, isList_iff.2 ⟨new, value⟩⟩
    have later := fun c inside => joining c (List.mem_cons_of_mem _ inside)
    obtain ⟨e, inside, same', severe, kept | ⟨new, equal, value, joined⟩⟩ :=
      merge_joins many unlifted member same list own
    · exact ih later inside same' (severe.trans level) kept holds
    · obtain ⟨-, new', value', holds'⟩ := joining c List.mem_cons_self equal
      cases value.symm.trans value'
      exact ih later inside same' (severe.trans level) joined (unites items new holds holds')

/-- What a merged list names, some contribution named. -/
theorem exists_mention (many : Rule.isSingleName rule = false) {cs : List Constraint}
    (lists : ∀ c ∈ cs, c.rule = rule → isList c.value = true) {d : Constraint} {items : List String}
    (member : d ∈ mergeAll [] cs) (same : d.rule = rule) (list : d.value = .list items)
    {entry : String} (inside : entry ∈ items) :
    ∃ c ∈ cs, c.rule = rule ∧ c.mentions entry = true := by
  have mentioned : d.mentions entry = true := (Constraint.mentions_of_list list).2 inside
  obtain ⟨c, last, -⟩ := occursAs_mergeAll many lists ⟨d, member, same, rfl, mentioned⟩
  obtain ⟨given, kind⟩ := List.mem_filter.1 (List.mem_of_getLast? last)
  exact ⟨c, given, by simpa using kind⟩

end Lists

end Merge

/-- All values of a rule are lists, in architectures and in mixins. -/
structure Registry.HasLists (r : Registry) (rule : String) : Prop where
  nodes : ∀ node ∈ r.nodes.values, ∀ c ∈ node.constraints, c.rule = rule →
    Merge.isList c.value = true
  mixins : ∀ mixin ∈ r.mixins.values, ∀ c ∈ mixin.constraints, c.rule = rule →
    Merge.isList c.value = true

theorem Constraint.isList_substitute (c : Constraint) (params : Dict String)
    (list : Merge.isList c.value = true) : Merge.isList (c.substitute params).value = true := by
  obtain ⟨items, value⟩ := Merge.isList_iff.1 list
  unfold Constraint.substitute
  split
  · exact list
  · simp [value, fillValue, Merge.isList]

theorem Constraint.rule_substitute (c : Constraint) (params : Dict String) :
    (c.substitute params).rule = c.rule := by
  unfold Constraint.substitute
  split <;> rfl

namespace Resolution

/-- The rule that bans import cycles. -/
abbrev cycleRule : String := Rule.forbidCircularDeps.name

theorem cycleRule_many : Rule.isSingleName cycleRule = false := by decide

theorem cycleRule_unlifted (allow forbid : Rule) (negates : allow.negates? = some forbid) :
    forbid.name ≠ cycleRule := by
  cases allow <;> cases negates <;> decide

/-- Mixin parameters do not change that values are lists. -/
theorem contributions_lists {r : Registry} {rule : String} (lists : r.HasLists rule)
    (options : ResolveOptions) (ids : List String) :
    ∀ c ∈ contributions r options ids, c.rule = rule → Merge.isList c.value = true := by
  intro c member same
  obtain ⟨node, inLine, brought⟩ := List.mem_flatMap.1 member
  obtain ⟨id, -, found⟩ := List.mem_filterMap.1 inLine
  rcases List.mem_append.1 brought with mixed | own
  · obtain ⟨ref, -, given⟩ := List.mem_flatMap.1 mixed
    unfold mixinContribution at given
    split at given
    · rename_i mixin defined
      obtain ⟨written, inside, rfl⟩ := List.mem_map.1 given
      refine Constraint.isList_substitute written ref.params ?_
      refine lists.mixins mixin (Dict.mem_values defined) written inside ?_
      exact (Constraint.rule_substitute written ref.params).symm.trans same
    · cases given
  · obtain ⟨written, inside, rfl⟩ := List.mem_map.1 own
    exact lists.nodes node (Dict.mem_values found) written inside same

/-- How a child leaves enough of the scope of a ban in one piece: globs of the ban that report the file
by themselves have one severity in the end; or all that joins the ban has its severity and reports
the file itself; or no list of the line has a glob. -/
inductive KeepsScope (r : Registry) (node : ArchitectureNode) (line : List String)
    (ctx : FileContext) (ban : Constraint) : Prop where
  | together {globs : List String} (list : ban.value = .list globs) (part : List String)
    (sub : ∀ glob ∈ part, glob ∈ globs) (proper : ∃ glob ∈ part, glob ≠ "")
    (reports : { ban with value := .list part }.ReportsCycle ctx) (severity : Severity)
    (last : ∀ glob ∈ part, ∀ c,
      Merge.lastWord? (contributions r {} line) [cycleRule] glob = some c → c.severity = severity)
  | joined (alike : ∀ c ∈ contribution r {} node, c.rule = cycleRule →
      c.severity = ban.severity ∧ c.ReportsCycle ctx)
  | whole (blank : ∀ c ∈ contributions r {} line, c.rule = cycleRule →
      ∀ glob, c.mentions glob = true → glob = "")

private theorem contributions_concat {r : Registry} {options : ResolveOptions} {id : String}
    {node : ArchitectureNode} (found : r.get? id = some node) (ids : List String) :
    contributions r options (ids ++ [id]) =
      contributions r options ids ++ contribution r options node := by
  have last : [id].filterMap r.get? = [node] := by simp [found]
  rw [contributions, contributions, List.filterMap_append, last, List.flatMap_append]
  simp

/-- A cycle that lies in the scopes of two lists lies in the scope of both together. -/
private theorem cycle_unite {p : ProjectIndex} {start : String} {globs more : List String}
    (first : ∃ inner, p.IsCycle (inCycleScope globs) start inner)
    (second : ∃ inner, p.IsCycle (inCycleScope more) start inner) :
    ∃ inner, p.IsCycle (inCycleScope (Merge.unite globs more)) start inner := by
  obtain ⟨inner, cycle⟩ := first
  obtain ⟨inner', cycle'⟩ := second
  by_cases proper : ∃ glob ∈ globs, glob ≠ ""
  · exact ⟨inner, cycle.mono fun _ inside => inCycleScope_of_subset
      (fun glob member => Merge.mem_unite.2 (.inl member)) (.inl proper) inside⟩
  · refine ⟨inner', cycle'.mono fun _ inside => inCycleScope_of_subset
      (fun glob member => Merge.mem_unite.2 (.inr member)) ?_ inside⟩
    by_cases properToo : ∃ glob ∈ more, glob ≠ ""
    · exact .inl properToo
    · refine .inr fun glob member => Decidable.byContradiction fun named => ?_
      rcases Merge.mem_unite.1 member with old | new
      · exact proper ⟨glob, old, named⟩
      · exact properToo ⟨glob, new, named⟩

section Cases

variable {ctx : FileContext} {within : String → Bool} {inner : List String}
  (cycle : ctx.project.IsCycle within ctx.filePath inner) {cs : List Constraint}
  (lists : ∀ c ∈ cs, c.rule = cycleRule → Merge.isList c.value = true)
include cycle lists

/-- Globs under one severity make up a scope at least as wide as their own. -/
private theorem reports_together {globs : List String} (scope : within = inCycleScope globs)
    (proper : ∃ glob ∈ globs, glob ≠ "")
    (named : ∀ glob ∈ globs, ∃ c ∈ cs, c.rule = cycleRule ∧ c.mentions glob = true)
    {severity : Severity} (last : ∀ glob ∈ globs, ∀ c,
      Merge.lastWord? cs [cycleRule] glob = some c → c.severity = severity) :
    ∃ ban ∈ Merge.mergeAll [] cs, ban.rule = cycleRule ∧ ban.ReportsCycle ctx := by
  have nonempty : globs ≠ [] := proper.elim fun _ found => List.ne_nil_of_mem found.1
  obtain ⟨ban, there, bans, items, list, sub⟩ := Merge.exists_list_of_lastWord cycleRule_many
    cycleRule_unlifted lists nonempty named last
  refine ⟨ban, there, bans, (Constraint.reportsCycle_iff bans list ctx).2 ⟨inner, ?_⟩⟩
  rw [scope] at cycle
  exact cycle.mono fun _ inScope => inCycleScope_of_subset sub (.inl proper) inScope

/-- Without globs there is a ban all the same, and it is for the whole project. -/
private theorem reports_whole (blank : ∀ c ∈ cs, c.rule = cycleRule →
      ∀ glob, c.mentions glob = true → glob = "") {c : Constraint} (member : c ∈ cs)
    (own : c.rule = cycleRule) :
    ∃ ban ∈ Merge.mergeAll [] cs, ban.rule = cycleRule ∧ ban.ReportsCycle ctx := by
  obtain ⟨ban, there, bans⟩ := Merge.exists_mergeAll_of_unlifted
    (Constraint.lifts_eq_false cycleRule_unlifted) member own
  obtain ⟨items, list⟩ := Merge.isList_iff.1 (Merge.mergeAll_lists lists ban there bans)
  refine ⟨ban, there, bans, (Constraint.reportsCycle_iff bans list ctx).2 ⟨inner, ?_⟩⟩
  refine cycle.mono fun _ _ => inCycleScope_of_blank fun glob inside => ?_
  obtain ⟨c, given, own, mention⟩ :=
    Merge.exists_mention cycleRule_many lists there bans list inside
  exact blank c given own glob mention

omit cycle in
/-- Lists of the same severity that report the file themselves go on reporting it when they join. -/
private theorem reports_joined {acc : List Constraint} {ban : Constraint} (member : ban ∈ acc)
    (bans : ban.rule = cycleRule) (list : Merge.isList ban.value = true)
    (reports : ban.ReportsCycle ctx) (alike : ∀ c ∈ cs, c.rule = cycleRule →
      c.severity = ban.severity ∧ c.ReportsCycle ctx) :
    ∃ ban' ∈ Merge.mergeAll acc cs, ban'.rule = cycleRule ∧ ban'.ReportsCycle ctx := by
  obtain ⟨globs, value⟩ := Merge.isList_iff.1 list
  have joining : ∀ c ∈ cs, c.rule = cycleRule → c.severity = ban.severity ∧
      ∃ items, c.value = .list items ∧
        ∃ inner, ctx.project.IsCycle (inCycleScope items) ctx.filePath inner := by
    intro c given same
    obtain ⟨severity, reportsToo⟩ := alike c given same
    obtain ⟨items, value⟩ := Merge.isList_iff.1 (lists c given same)
    exact ⟨severity, items, value, (Constraint.reportsCycle_iff same value ctx).1 reportsToo⟩
  obtain ⟨ban', there, bans', items, value', cycle⟩ := Merge.mergeAll_joins cycleRule_many
    (Constraint.lifts_eq_false cycleRule_unlifted) (fun _ _ => cycle_unite) joining member bans rfl
    value ((Constraint.reportsCycle_iff bans value ctx).1 reports)
  exact ⟨ban', there, bans', (Constraint.reportsCycle_iff bans' value' ctx).2 cycle⟩

end Cases

/-- A ban on cycles is inherited with its scope. If a constraint of the parent reports a cycle through
a file, so does one of the child, unless the child divides or narrows the scope of that constraint. -/
theorem cycle_ban_is_inherited {r : Registry} (lists : r.HasLists cycleRule) {id parent : String}
    {node : ArchitectureNode} (found : r.get? id = some node) (inherits : node.inherits = some parent)
    {above child : FlattenedArchitecture} (resolved : resolve r parent = .ok above)
    (resolvedToo : resolve r id = .ok child) {ctx ctx' : FileContext}
    (path : ctx'.filePath = ctx.filePath) (project : ctx'.project = ctx.project) {ban : Constraint}
    (member : ban ∈ above.constraints) (bans : ban.rule = cycleRule) (reports : ban.ReportsCycle ctx)
    (keeps : KeepsScope r node child.inheritanceChain ctx' ban) :
    ∃ ban' ∈ child.constraints, ban'.rule = cycleRule ∧ ban'.ReportsCycle ctx' := by
  obtain ⟨-, above', again, adds⟩ := extends_of_resolve found inherits resolvedToo
  cases resolved.symm.trans again
  have given : contributions r {} child.inheritanceChain =
      contributions r {} above.inheritanceChain ++ contribution r {} node := by
    rw [adds.chain, contributions_concat found]
  have listsAbove := contributions_lists lists {} above.inheritanceChain
  have listsChild := contributions_lists lists {} child.inheritanceChain
  rw [resolve_constraints resolved] at member
  rw [resolve_constraints resolvedToo]
  have list := Merge.mergeAll_lists listsAbove ban member bans
  obtain ⟨globs, value⟩ := Merge.isList_iff.1 list
  have cyclic := (Constraint.reportsCycle_iff bans value ctx).1 reports
  rw [← path, ← project] at cyclic
  obtain ⟨inner, cycle⟩ := cyclic
  cases keeps with
  | together valueToo part sub proper reportsPart severity last =>
    cases value.symm.trans valueToo
    have bansToo : { ban with value := .list part }.rule = cycleRule := bans
    obtain ⟨inner, cycle⟩ := (Constraint.reportsCycle_iff bansToo rfl ctx').1 reportsPart
    refine reports_together cycle listsChild rfl proper (fun glob inside => ?_) last
    obtain ⟨c, earlier, mention⟩ :=
      Merge.exists_mention cycleRule_many listsAbove member bans value (sub glob inside)
    exact ⟨c, given ▸ List.mem_append_left _ earlier, mention⟩
  | joined alike =>
    rw [given, mergeAll_append]
    have listsBrought : ∀ c ∈ contribution r {} node, c.rule = cycleRule →
        Merge.isList c.value = true :=
      fun c brought => listsChild c (given ▸ List.mem_append_right _ brought)
    have reportsToo := (Constraint.reportsCycle_iff bans value ctx').2 ⟨inner, cycle⟩
    exact reports_joined listsBrought member bans list reportsToo alike
  | whole blank =>
    obtain ⟨c, latest, restates⟩ := Merge.restates_latest member
    refine reports_whole cycle listsChild blank ?_ (restates.rule.symm.trans bans)
    exact given ▸ List.mem_append_left _ (Merge.mem_of_latest? latest)

namespace TwoFolders

/-- A file that imports one of another folder, which imports it back. -/
def ctx : FileContext where
  filePath := "a/x.ts"
  archId := "edge"
  model := {}
  content := ""
  intents := []
  intentRegistry := ∅
  project := ((({} : ProjectIndex).setImports "a/x.ts" ["b/y.ts"]).setImports "b/y.ts" ["a/x.ts"]).link
  limits := {}
  testFilePatterns := []

/-- A ban with some globs, and one with other globs and a severity that inherits it. -/
def bans (globs more : List String) (severity : Severity) : Registry where
  nodes := .ofList [
    ("base", { id := "base", constraints := [.ofRule .forbidCircularDeps (.list globs)] }),
    ("edge", {
      id := "edge", inherits := some "base"
      constraints := [{ Constraint.ofRule .forbidCircularDeps (.list more) with severity }] })]

end TwoFolders

open TwoFolders in
/-- The child takes one glob of three, and the cycle lies in the scope of the other two. -/
theorem ban_on_both_folders_is_inherited :
    ∃ above child, resolve (bans ["a/**", "b/**", "c/**"] ["c/**"] .warning) "base" = .ok above ∧
      resolve (bans ["a/**", "b/**", "c/**"] ["c/**"] .warning) "edge" = .ok child ∧
      (∃ ban ∈ above.constraints, ban.rule = cycleRule ∧ ban.ReportsCycle ctx) ∧
      ∃ ban ∈ child.constraints, ban.rule = cycleRule ∧ ban.ReportsCycle ctx := by
  obtain ⟨above, resolved⟩ :
    ∃ a, resolve (bans ["a/**", "b/**", "c/**"] ["c/**"] .warning) "base" = .ok a := ⟨_, rfl⟩
  obtain ⟨child, resolvedToo⟩ :
    ∃ a, resolve (bans ["a/**", "b/**", "c/**"] ["c/**"] .warning) "edge" = .ok a := ⟨_, rfl⟩
  have line : child.inheritanceChain = ["base", "edge"] := by
    cases resolvedToo
    rfl
  have member : { Constraint.ofRule .forbidCircularDeps (.list ["a/**", "b/**", "c/**"]) with
      source := some "base" } ∈ above.constraints := by
    cases resolved
    decide +kernel
  have reports : { Constraint.ofRule .forbidCircularDeps (.list ["a/**", "b/**", "c/**"]) with
      source := some "base" }.ReportsCycle ctx := by
    decide +kernel
  refine ⟨above, child, resolved, resolvedToo, ⟨_, member, rfl, reports⟩, ?_⟩
  refine cycle_ban_is_inherited ⟨by decide, by decide⟩ rfl rfl resolved resolvedToo rfl rfl member rfl
    reports (.together rfl ["a/**", "b/**"] (by decide) ⟨"a/**", by decide⟩ ?_ .error ?_)
  · decide +kernel
  · rw [line]
    decide +kernel

/-- A child reports no cycle through a file of which its parent reports one. -/
structure LiftsBan (r : Registry) (parent id : String) (ctx : FileContext) : Prop where
  lists : r.HasLists cycleRule
  inherits : ∃ node, r.get? id = some node ∧ node.inherits = some parent
  above : ∃ a, resolve r parent = .ok a ∧
    ∃ ban ∈ a.constraints, ban.rule = cycleRule ∧ ban.ReportsCycle ctx
  child : ∃ a, resolve r id = .ok a ∧
    ∀ ban ∈ a.constraints, ban.rule = cycleRule → ¬ban.ReportsCycle ctx

open TwoFolders in
/-- A ban is divided when its globs come under two severities, and narrowed from the whole project to
the first glob that it is joined with. -/
theorem child_lifts_cycle_ban :
    LiftsBan (bans ["a/**", "b/**"] ["a/**"] .warning) "base" "edge" ctx ∧
      LiftsBan (bans [] ["a/**"] .error) "base" "edge" ctx := by
  constructor
  · exact {
      lists := ⟨by decide, by decide⟩
      inherits := ⟨_, rfl, rfl⟩
      above := ⟨_, rfl, by decide +kernel⟩
      child := ⟨_, rfl, by decide +kernel⟩ }
  · exact {
      lists := ⟨by decide, by decide⟩
      inherits := ⟨_, rfl, rfl⟩
      above := ⟨_, rfl, by decide +kernel⟩
      child := ⟨_, rfl, by decide +kernel⟩ }

end Resolution

end Conformance
