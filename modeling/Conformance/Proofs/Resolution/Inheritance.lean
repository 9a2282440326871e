import Conformance.Proofs.Canonical
import Conformance.Proofs.Resolution.Flatten

/-! Resolving an architecture and the one that it inherits from. The walk and the fold start anew
for each, and yet the line of descent, the hints, the mixins and the constraints of the child are
those of its parent with the child's own added, and what breaks the parent breaks the child. -/
namespace Conformance.Resolution

/-- The mixins that an architecture names, in order. -/
def mixinsOf (r : Registry) (node : ArchitectureNode) : List Mixin :=
  node.mixins.filterMap fun ref => r.mixins.find? ref.name

/-- All mixins that an architecture names are defined. -/
def HasMixins (r : Registry) (node : ArchitectureNode) : Prop :=
  ∀ ref ∈ node.mixins, r.mixins.contains ref.name

/-- One flattened architecture adds a node to another. -/
structure Extends (r : Registry) (id : String) (node : ArchitectureNode)
    (parent child : FlattenedArchitecture) : Prop where
  chain : child.inheritanceChain = parent.inheritanceChain ++ [id]
  hints : child.hints = parent.hints ++ (mixinsOf r node).flatMap (·.hints) ++ node.hints
  appliedMixins : child.appliedMixins =
    Merge.unite parent.appliedMixins ((mixinsOf r node).map (·.name))
  constraints : child.constraints = Merge.mergeAll parent.constraints
    (node.mixins.flatMap (mixinContribution r) ++ ownConstraints node)

section Walk

variable {r : Registry} {id parent : String} {node : ArchitectureNode}

section Child

variable (found : r.get? id = some node) (inherits : node.inherits = some parent)
include found inherits

/-- The way up from a child goes through its parent. -/
theorem ancestor?_child (steps : Nat) : ancestor? r id (steps + 1) = ancestor? r parent steps := by
  induction steps with
  | zero => simp [ancestor?, found, inherits]
  | succ steps ih => rw [ancestor?, ih, ancestor?]

theorem ancestors_child (count : Nat) :
    ancestors r id (count + 1) = id :: ancestors r parent count := by
  rw [ancestors, List.range_succ_eq_map, List.filterMap_cons, List.filterMap_map]
  simp only [ancestor?, ancestors]
  congr 2
  funext steps
  exact ancestor?_child found inherits steps

/-- A way up that meets a child of its start comes back to its start. -/
theorem loopsAt_of_mem {count : Nat} (distinct : (ancestors r parent count).Nodup)
    (member : id ∈ ancestors r parent count) :
    ∃ steps < count, ancestor? r parent steps = some id ∧ LoopsAt r parent (steps + 1) parent := by
  obtain ⟨steps, less, atChild⟩ := mem_ancestors.1 member
  refine ⟨steps, less, atChild, ?_, ?_, ?_⟩
  · simp [ancestor?, atChild, found, inherits]
  · exact List.Nodup.sublist ((List.range_sublist.2 less).filterMap _) distinct
  · exact mem_ancestors.2 ⟨0, by omega, rfl⟩

theorem Lineage.child {ids : List String} (line : Lineage r parent ids) :
    Lineage r id (ids ++ [id]) := by
  obtain ⟨steps, length⟩ : ∃ steps, ids.length = steps + 1 :=
    Nat.exists_eq_succ_of_ne_zero (Nat.ne_of_gt ((line.depth 0).1 rfl))
  have upward := line.upward
  rw [length] at upward
  obtain ⟨last, reached⟩ := Option.isSome_iff_exists.1 ((line.depth steps).2 (by omega))
  have inside : last ∈ ids := by
    rw [← List.mem_reverse, upward]
    exact mem_ancestors.2 ⟨steps, by omega, reached⟩
  obtain ⟨root, atRoot⟩ := Option.isSome_iff_exists.1 (line.registered last inside)
  have rootFound : r.get? last = some root := atRoot
  have stops : root.inherits = none := by
    have beyond := (line.depth (steps + 1)).not.2 (by omega)
    simpa [ancestor?, reached, rootFound] using beyond
  have distinct : (ancestors r parent (steps + 1)).Nodup := by
    rw [← upward]
    exact (List.reverse_perm ids).nodup_iff.2 line.distinct
  have new : id ∉ ancestors r parent (steps + 1) := by
    intro member
    obtain ⟨_, _, _, loops⟩ := loopsAt_of_mem found inherits distinct member
    exact loops.not_lineage line
  have longer : (ancestors r id (steps + 1 + 1)).Nodup := by
    rw [ancestors_child found inherits]
    exact List.nodup_cons.2 ⟨new, distinct⟩
  have whole :=
    lineage_of_root ((ancestor?_child found inherits steps).trans reached) longer rootFound stops
  rwa [ancestors_child found inherits, ← upward, List.reverse_cons, List.reverse_reverse] at whole

theorem DanglesAt.child {steps : Nat} {last : String} (dangles : DanglesAt r parent steps last) :
    DanglesAt r id (steps + 1) last where
  reached := (ancestor?_child found inherits steps).trans dangles.reached
  unregistered := dangles.unregistered
  distinct := by
    rw [ancestors_child found inherits]
    refine List.nodup_cons.2 ⟨?_, dangles.distinct⟩
    intro member
    obtain ⟨_, _, _, loops⟩ := loopsAt_of_mem found inherits dangles.distinct member
    exact dangles.not_loops loops

/-- A child of an architecture that loops does so too: where its parent does, or already when the
way up comes back to the child. -/
theorem LoopsAt.child {steps : Nat} {last : String} (loops : LoopsAt r parent steps last) :
    ∃ steps last, LoopsAt r id steps last := by
  by_cases member : id ∈ ancestors r parent steps
  · obtain ⟨first, less, atChild, _⟩ := loopsAt_of_mem found inherits loops.distinct member
    refine ⟨first + 1, id, (ancestor?_child found inherits first).trans atChild, ?_, ?_⟩
    · have shorter : (ancestors r parent (first + 1)).Nodup :=
        List.Nodup.sublist ((List.range_sublist.2 less).filterMap _) loops.distinct
      rw [ancestors_succ atChild, List.nodup_append] at shorter
      rw [ancestors_child found inherits]
      refine List.nodup_cons.2 ⟨?_, shorter.1⟩
      intro again
      exact shorter.2.2 id again id (by simp) rfl
    · exact mem_ancestors.2 ⟨0, by omega, rfl⟩
  · refine ⟨steps + 1, last, (ancestor?_child found inherits steps).trans loops.reached, ?_, ?_⟩
    · rw [ancestors_child found inherits]
      exact List.nodup_cons.2 ⟨member, loops.distinct⟩
    · rw [ancestors_child found inherits]
      exact List.mem_cons_of_mem _ loops.metBefore

/-- A walk that fails from the parent fails from the child, for the same kind of reason. -/
theorem chain_error_child {e : ResolutionError} (failed : chain r parent true = .error e) :
    ∃ e', chain r id true = .error e' ∧ e'.kind = e.kind := by
  have outcome := chain_classified r parent
  rw [failed] at outcome
  cases e with
  | unknownArch last line =>
    obtain ⟨steps, dangles, -⟩ := outcome
    exact ⟨_, chain_unknownArch_iff.2 ⟨_, dangles.child found inherits, rfl⟩, rfl⟩
  | circularInheritance last line =>
    obtain ⟨steps, loops, -⟩ := outcome
    obtain ⟨steps', last', loopsToo⟩ := loops.child found inherits
    exact ⟨_, chain_circularInheritance_iff.2 ⟨_, loopsToo, rfl⟩, rfl⟩
  | missingMixin archId mixin => exact outcome.elim

/-- A walk from the child succeeds exactly if one from the parent does, with one id more. -/
theorem chain_child {ids : List String} : chain r id true = .ok ids ↔
    ∃ line, chain r parent true = .ok line ∧ ids = line ++ [id] := by
  constructor
  · intro walked
    cases result : chain r parent true with
    | error e =>
      obtain ⟨e', failed, -⟩ := chain_error_child found inherits result
      cases walked.symm.trans failed
    | ok line =>
      have longer := chain_ok_iff.2 ((chain_ok_iff.1 result).child found inherits)
      exact ⟨line, rfl, Except.ok.inj (walked.symm.trans longer)⟩
  · rintro ⟨line, walked, rfl⟩
    exact chain_ok_iff.2 ((chain_ok_iff.1 walked).child found inherits)

end Child

end Walk

section Fold

variable {r : Registry}

/-- What is gathered with one more architecture whose mixins are all defined. -/
def gatherNode (r : Registry) (g : Gathered) (node : ArchitectureNode) : Gathered where
  constraints := Merge.mergeAll g.constraints
    (node.mixins.flatMap (mixinContribution r) ++ ownConstraints node)
  hints := g.hints ++ (mixinsOf r node).flatMap (·.hints) ++ node.hints
  appliedMixins := Merge.unite g.appliedMixins ((mixinsOf r node).map (·.name))

private theorem foldlM_addMixin {archId : String} {refs : List MixinRef}
    (defined : ∀ ref ∈ refs, r.mixins.contains ref.name) (g : Gathered) :
    refs.foldlM (addMixin r archId) g = .ok {
      constraints := Merge.mergeAll g.constraints (refs.flatMap (mixinContribution r))
      hints := g.hints ++ (refs.filterMap fun ref => r.mixins.find? ref.name).flatMap (·.hints)
      appliedMixins := Merge.unite g.appliedMixins
        ((refs.filterMap fun ref => r.mixins.find? ref.name).map (·.name)) } := by
  induction refs generalizing g with
  | nil =>
    simp only [List.foldlM_nil, List.flatMap_nil, List.filterMap_nil, List.append_nil]
    rfl
  | cons ref rest ih =>
    obtain ⟨mixin, found⟩ := Option.isSome_iff_exists.1 (defined ref List.mem_cons_self)
    have step : addMixin r archId g ref = .ok {
        constraints := Merge.mergeAll g.constraints (mixinConstraints mixin ref.params)
        hints := g.hints ++ mixin.hints
        appliedMixins := Merge.unite g.appliedMixins [mixin.name] } := by
      simp only [addMixin, found]
      rfl
    have brings : mixinContribution r ref = mixinConstraints mixin ref.params := by
      simp only [mixinContribution, found]
    rw [List.foldlM_cons, step]
    change rest.foldlM (addMixin r archId) _ = _
    rw [ih fun later inside => defined later (List.mem_cons_of_mem _ inside)]
    simp only [List.filterMap_cons, found, List.flatMap_cons, List.map_cons, mergeAll_append,
      brings, List.append_assoc]
    rfl

theorem addNode_eq {node : ArchitectureNode} (defined : HasMixins r node) (g : Gathered) :
    addNode r {} g node = .ok (gatherNode r g node) := by
  simp only [addNode, if_true, foldlM_addMixin defined, Except.map, gatherNode, mixinsOf,
    mergeAll_append]

private theorem defined_of_foldlM {archId : String} {refs : List MixinRef} {g g' : Gathered}
    (done : refs.foldlM (addMixin r archId) g = .ok g') :
    ∀ ref ∈ refs, r.mixins.contains ref.name := by
  induction refs generalizing g with
  | nil => simp
  | cons ref rest ih =>
    rw [List.foldlM_cons] at done
    cases step : addMixin r archId g ref with
    | error e =>
      rw [step] at done
      cases done
    | ok next =>
      rw [step] at done
      intro other member
      rcases List.mem_cons.1 member with rfl | inside
      · unfold addMixin at step
        split at step
        · cases step
        · rename_i mixin found
          exact Option.isSome_iff_exists.2 ⟨mixin, found⟩
      · exact ih done other inside

private theorem hasMixins_of_addNode {node : ArchitectureNode} {g g' : Gathered}
    (done : addNode r {} g node = .ok g') : HasMixins r node := by
  cases mixed : node.mixins.foldlM (addMixin r node.id) g with
  | error e =>
    simp only [addNode, if_true, mixed, Except.map] at done
    cases done
  | ok between => exact defined_of_foldlM mixed

/-- What a line of descent gathers. -/
def gathered (r : Registry) (ids : List String) : Except ResolutionError Gathered :=
  (ids.filterMap r.get?).foldlM (addNode r {}) {}

theorem gathered_concat {ids : List String} {id : String} {node : ArchitectureNode}
    (found : r.get? id = some node) :
    gathered r (ids ++ [id]) = (gathered r ids).bind fun g => addNode r {} g node := by
  have last : [id].filterMap r.get? = [node] := by simp [found]
  rw [gathered, List.filterMap_append, last, List.foldlM_append]
  refine congrArg _ ?_
  funext g
  rw [List.foldlM_cons]
  cases addNode r {} g node <;> rfl

/-- A line with a child at its end gathers what the line gathers and the child adds. -/
theorem gathered_concat_ok {ids : List String} {id : String} {node : ArchitectureNode}
    (found : r.get? id = some node) {g' : Gathered} :
    gathered r (ids ++ [id]) = .ok g' ↔
      ∃ g, gathered r ids = .ok g ∧ HasMixins r node ∧ g' = gatherNode r g node := by
  rw [gathered_concat found]
  cases gathered r ids with
  | error e => exact iff_of_false nofun nofun
  | ok g =>
    simp only [Except.bind, Except.ok.injEq, exists_eq_left']
    constructor
    · intro done
      have defined := hasMixins_of_addNode done
      exact ⟨defined, Except.ok.inj (done.symm.trans (addNode_eq defined g))⟩
    · rintro ⟨defined, rfl⟩
      exact addNode_eq defined g

variable {id : String} {ids : List String}

theorem resolve_of_gathered {g : Gathered} (walked : chain r id true = .ok ids)
    (done : gathered r ids = .ok g) : ∃ a, resolve r id = .ok a ∧ a.inheritanceChain = ids ∧
      ⟨a.constraints, a.hints, a.appliedMixins⟩ = g := by
  simp only [resolve, walked]
  rw [gathered] at done
  rw [done]
  exact ⟨_, rfl, rfl, rfl⟩

theorem resolve_error_of_gathered {e : ResolutionError} (walked : chain r id true = .ok ids)
    (failed : gathered r ids = .error e) : resolve r id = .error e := by
  simp only [resolve, walked]
  rw [gathered] at failed
  rw [failed]

/-- Resolving is walking and gathering. -/
theorem resolve_ok_iff {a : FlattenedArchitecture} (resolved : resolve r id = .ok a) :
    chain r id true = .ok a.inheritanceChain ∧
      gathered r a.inheritanceChain = .ok ⟨a.constraints, a.hints, a.appliedMixins⟩ := by
  have walked : chain r id true = .ok a.inheritanceChain := chain_of_resolve resolved
  refine ⟨walked, ?_⟩
  cases done : gathered r a.inheritanceChain with
  | error e => cases resolved.symm.trans (resolve_error_of_gathered walked done)
  | ok g =>
    obtain ⟨a', again, -, rfl⟩ := resolve_of_gathered walked done
    cases resolved.symm.trans again
    rfl

end Fold

section Child

variable {r : Registry} {id parent : String} {node : ArchitectureNode}
  (found : r.get? id = some node) (inherits : node.inherits = some parent)
include found inherits

theorem extends_of_resolve {child : FlattenedArchitecture} (resolved : resolve r id = .ok child) :
    HasMixins r node ∧ ∃ above, resolve r parent = .ok above ∧ Extends r id node above child := by
  obtain ⟨walked, done⟩ := resolve_ok_iff resolved
  obtain ⟨line, walkedToo, same⟩ := (chain_child found inherits).1 walked
  rw [same] at done
  obtain ⟨g, before, defined, adds⟩ := (gathered_concat_ok found).1 done
  obtain ⟨above, resolvedToo, rfl, rfl⟩ := resolve_of_gathered walkedToo before
  simp only [gatherNode, Gathered.mk.injEq] at adds
  obtain ⟨constraints, hints, mixins⟩ := adds
  exact ⟨defined, above, resolvedToo, same, hints, mixins, constraints⟩

theorem resolve_child {above : FlattenedArchitecture} (resolved : resolve r parent = .ok above)
    (defined : HasMixins r node) : ∃ child, resolve r id = .ok child := by
  obtain ⟨walked, done⟩ := resolve_ok_iff resolved
  have longer := (chain_child found inherits).2 ⟨_, walked, rfl⟩
  obtain ⟨child, resolvedToo, -⟩ :=
    resolve_of_gathered longer ((gathered_concat_ok found).2 ⟨_, done, defined, rfl⟩)
  exact ⟨child, resolvedToo⟩

private theorem resolve_missingMixin_child {archId mixin : String}
    (failed : resolve r parent = .error (.missingMixin archId mixin)) :
    resolve r id = .error (.missingMixin archId mixin) := by
  cases walked : chain r parent true with
  | error e =>
    have outcome := chain_classified r parent
    have refused : resolve r parent = .error e := resolve_of_chain_error walked
    cases failed.symm.trans refused
    rw [walked] at outcome
    exact outcome.elim
  | ok line =>
    have longer := (chain_child found inherits).2 ⟨_, walked, rfl⟩
    cases done : gathered r line with
    | error e =>
      cases failed.symm.trans (resolve_error_of_gathered walked done)
      refine resolve_error_of_gathered longer ?_
      rw [gathered_concat found, done]
      rfl
    | ok g =>
      obtain ⟨above, resolved, -⟩ := resolve_of_gathered walked done
      cases failed.symm.trans resolved

end Child

theorem source_ownConstraints (node : ArchitectureNode) :
    ∀ k ∈ ownConstraints node, k.source = some node.id := by
  intro k member
  obtain ⟨own, -, rfl⟩ := List.mem_map.1 member
  rfl

private theorem source_mixinContribution {r : Registry} (named : r.WellNamed) (ref : MixinRef) :
    ∀ k ∈ mixinContribution r ref, k.source = some ("mixin:" ++ ref.name) := by
  intro k member
  unfold mixinContribution at member
  split at member
  · rename_i mixin found
    obtain ⟨own, -, rfl⟩ := List.mem_map.1 member
    rw [← named.mixins ref.name mixin found]
  · cases member

/-- A child resolves exactly if its parent does and its mixins are defined, and then adds itself to what
its parent comes to. Where the parent fails, the child fails likewise. -/
theorem resolve_along_inheritance {r : Registry} {id parent : String} {node : ArchitectureNode}
    (found : r.get? id = some node) (inherits : node.inherits = some parent) :
    ((∃ child, resolve r id = .ok child) ↔
      (∃ above, resolve r parent = .ok above) ∧ HasMixins r node) ∧
    (∀ above child, resolve r parent = .ok above → resolve r id = .ok child →
      Extends r id node above child) ∧
    (r.WellNamed → (∀ k ∈ ownConstraints node, k.source = some id) ∧ ∀ ref ∈ node.mixins,
      (∀ k ∈ mixinContribution r ref, k.source = some ("mixin:" ++ ref.name)) ∧
      ∀ mixin, r.mixins.find? ref.name = some mixin → mixin.name = ref.name) ∧
    (∀ archId mixin, resolve r parent = .error (.missingMixin archId mixin) →
      resolve r id = .error (.missingMixin archId mixin)) ∧
    ∀ e, chain r parent true = .error e → ∃ e', resolve r id = .error e' ∧ e'.kind = e.kind := by
  refine ⟨⟨?_, ?_⟩, ?_, ?_, ?_, ?_⟩
  · rintro ⟨child, resolved⟩
    obtain ⟨defined, above, resolvedToo, -⟩ := extends_of_resolve found inherits resolved
    exact ⟨⟨above, resolvedToo⟩, defined⟩
  · rintro ⟨⟨above, resolved⟩, defined⟩
    exact resolve_child found inherits resolved defined
  · intro above child resolved resolvedToo
    obtain ⟨-, above', again, adds⟩ := extends_of_resolve found inherits resolvedToo
    cases resolved.symm.trans again
    exact adds
  · intro named
    refine ⟨?_, fun ref _ => ⟨?_, fun mixin => named.mixins ref.name mixin⟩⟩
    · rw [← named.nodes id node found]
      exact source_ownConstraints node
    · exact source_mixinContribution named ref
  · intro archId mixin failed
    exact resolve_missingMixin_child found inherits failed
  · intro e failed
    obtain ⟨e', failedToo, kind⟩ := chain_error_child found inherits failed
    exact ⟨e', resolve_of_chain_error failedToo, kind⟩

/-- An architecture that takes in a mixin of its parent once more, and one with a parameter. -/
def edge : ArchitectureNode where
  id := "edge"
  inherits := some "base"
  mixins := [.named "strict", .withParams "limit" (.ofList [("lines", "90")])]
  constraints := [.ofRule .forbidImport (.list ["fs"])]

def capped : Registry where
  nodes := .ofList [
    ("base", { id := "base", mixins := [.named "strict"], hints := ["keep it small"] }),
    ("edge", edge)]
  mixins := .ofList [
    ("strict", {
      name := "strict", hints := ["no shortcuts"]
      constraints := [.ofRule .forbidImport (.list ["axios"])] }),
    ("limit", {
      name := "limit", constraints := [.ofRule .maxFileLines (.text "$\x7blines\x7d")] })]

theorem resolve_capped : ∃ base child, resolve capped "base" = .ok base ∧
    resolve capped "edge" = .ok child ∧ child.inheritanceChain = ["base", "edge"] ∧
    child.hints = ["no shortcuts", "keep it small", "no shortcuts"] ∧
    child.appliedMixins = ["strict", "limit"] ∧
    child.constraints.map (fun k => (k.rule, k.value)) =
      [("forbid_import", .list ["axios", "fs"]), ("max_file_lines", .number 90)] := by
  have found : capped.get? "edge" = some edge := rfl
  obtain ⟨base, resolved⟩ : ∃ a, resolve capped "base" = .ok a := ⟨_, rfl⟩
  have defined : HasMixins capped edge := by
    unfold HasMixins
    decide
  obtain ⟨resolves, adds, -⟩ := resolve_along_inheritance found rfl
  obtain ⟨child, resolvedToo⟩ := resolves.2 ⟨⟨base, resolved⟩, defined⟩
  have gained := adds base child resolved resolvedToo
  cases resolved
  exact ⟨_, child, rfl, resolvedToo, gained.chain, gained.hints, gained.appliedMixins,
    by rw [gained.constraints]; decide +kernel⟩

end Conformance.Resolution
