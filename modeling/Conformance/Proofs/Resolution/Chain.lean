import Conformance.Proofs.Dict
import Conformance.Resolution.Basic
import Mathlib.Data.List.Chain

/-! The walk from an architecture to its root. It ends in exactly one of three ways: at an id that
is not registered, at an id met before, or at a registered id that inherits from nothing. The
number of registered ids bounds its steps, so no line of ancestors is too long for it. -/
namespace Conformance.Resolution

/-- The id met after a number of steps up from an id. -/
def ancestor? (r : Registry) (id : String) : Nat → Option String
  | 0 => some id
  | steps + 1 => (ancestor? r id steps).bind fun p => (r.get? p).bind (·.inherits)

/-- The first ids met on the way up, the id itself among them. -/
def ancestors (r : Registry) (id : String) (count : Nat) : List String :=
  (List.range count).filterMap (ancestor? r id)

/-- The way up ends at an unregistered id, and meets no id twice. -/
structure DanglesAt (r : Registry) (id : String) (steps : Nat) (last : String) : Prop where
  reached : ancestor? r id steps = some last
  unregistered : r.get? last = none
  distinct : (ancestors r id (steps + 1)).Nodup

/-- The way up comes back to an id for the first time. All ids before are registered, or there
would be no way on from them. -/
structure LoopsAt (r : Registry) (id : String) (steps : Nat) (last : String) : Prop where
  reached : ancestor? r id steps = some last
  distinct : (ancestors r id steps).Nodup
  metBefore : last ∈ ancestors r id steps

/-- A list of ids is the line of descent of an id, from its root to itself. -/
structure Lineage (r : Registry) (id : String) (ids : List String) : Prop where
  upward : ids.reverse = ancestors r id ids.length
  depth : ∀ steps, (ancestor? r id steps).isSome ↔ steps < ids.length
  distinct : ids.Nodup
  registered : ∀ member ∈ ids, r.contains member
  inherited : ids.IsChain fun parent child => (r.get? child).bind (·.inherits) = some parent
  root : ∀ first ∈ ids.head?, (r.get? first).bind (·.inherits) = none
  leaf : ids.getLast? = some id

variable {r : Registry} {id : String}

theorem ancestors_succ {steps : Nat} {p : String} (reached : ancestor? r id steps = some p) :
    ancestors r id (steps + 1) = ancestors r id steps ++ [p] := by
  simp [ancestors, List.range_succ, List.filterMap_append, reached]

theorem mem_ancestors {count : Nat} {p : String} :
    p ∈ ancestors r id count ↔ ∃ steps < count, ancestor? r id steps = some p := by
  simp [ancestors, List.mem_filterMap]

theorem ancestor?_isSome_of_le {steps further : Nat} (le : steps ≤ further)
    (reached : (ancestor? r id further).isSome) : (ancestor? r id steps).isSome := by
  induction le with
  | refl => exact reached
  | step _ ih =>
    apply ih
    rw [ancestor?] at reached
    exact Option.isSome_of_isSome_bind reached

theorem length_ancestors {steps : Nat} (reached : (ancestor? r id steps).isSome) :
    (ancestors r id steps).length = steps := by
  induction steps with
  | zero => rfl
  | succ steps ih =>
    have before := ancestor?_isSome_of_le (Nat.le_succ steps) reached
    obtain ⟨p, atP⟩ := Option.isSome_iff_exists.1 before
    rw [ancestors_succ atP, List.length_append, ih before]
    rfl

/-- Every id that the way up goes on from is registered. -/
theorem registered_of_mem_ancestors {steps : Nat} {p : String}
    (reached : (ancestor? r id steps).isSome) (member : p ∈ ancestors r id steps) :
    r.contains p := by
  obtain ⟨earlier, less, atP⟩ := mem_ancestors.1 member
  have next : (ancestor? r id (earlier + 1)).isSome := ancestor?_isSome_of_le less reached
  rw [ancestor?, atP, Option.bind_some] at next
  exact Option.isSome_of_isSome_bind next

/-- Ids that are met once each and registered are no more than the registry holds. -/
private theorem steps_le_size {steps : Nat} (reached : (ancestor? r id steps).isSome)
    (distinct : (ancestors r id steps).Nodup) : steps ≤ r.nodes.size := by
  have bounded : (ancestors r id steps).length ≤ r.nodes.keys.length := by
    apply distinct.length_le_of_subset
    intro p member
    exact Dict.contains_iff.1 (registered_of_mem_ancestors reached member)
  rwa [length_ancestors reached, Dict.keys, List.length_map] at bounded

/-- Neighbours on the way up, read downwards, inherit from one another. -/
theorem ancestors_linked (steps : Nat) (reached : (ancestor? r id steps).isSome) :
    (ancestors r id (steps + 1)).reverse.IsChain
      fun parent child => (r.get? child).bind (·.inherits) = some parent := by
  induction steps with
  | zero => simp [ancestors, ancestor?]
  | succ steps ih =>
    have before := ancestor?_isSome_of_le (Nat.le_succ steps) reached
    obtain ⟨child, atChild⟩ := Option.isSome_iff_exists.1 before
    obtain ⟨parent, atParent⟩ := Option.isSome_iff_exists.1 reached
    have link : (r.get? child).bind (·.inherits) = some parent := by
      rw [ancestor?, atChild, Option.bind_some] at atParent
      exact atParent
    have linked := ih before
    rw [ancestors_succ atParent, List.reverse_append]
    rw [ancestors_succ atChild, List.reverse_append] at linked ⊢
    exact List.IsChain.cons_cons link linked

/-- The way up ends at a registered id that inherits from nothing. -/
theorem lineage_of_root {steps : Nat} {p : String} {node : ArchitectureNode}
    (reached : ancestor? r id steps = some p) (distinct : (ancestors r id (steps + 1)).Nodup)
    (found : r.get? p = some node) (root : node.inherits = none) :
    Lineage r id (ancestors r id (steps + 1)).reverse := by
  have some : (ancestor? r id steps).isSome := by simp [reached]
  have stops : ancestor? r id (steps + 1) = none := by simp [ancestor?, reached, found, root]
  have length : (ancestors r id (steps + 1)).reverse.length = steps + 1 := by
    rw [List.length_reverse, ancestors_succ reached, List.length_append, length_ancestors some]
    rfl
  refine {
    upward := by rw [length, List.reverse_reverse]
    depth := ?_
    distinct := (List.reverse_perm _).nodup_iff.2 distinct
    registered := ?_
    inherited := ancestors_linked steps some
    root := ?_
    leaf := ?_ }
  · intro k
    rw [length]
    constructor
    · intro present
      apply Decidable.byContradiction
      intro beyond
      have atStop : (ancestor? r id _).isSome :=
        ancestor?_isSome_of_le (Nat.le_of_not_lt beyond) present
      simp [stops] at atStop
    · intro less
      exact ancestor?_isSome_of_le (Nat.le_of_lt_succ less) some
  · intro member inside
    rw [List.mem_reverse, ancestors_succ reached, List.mem_append] at inside
    rcases inside with before | last
    · exact registered_of_mem_ancestors some before
    · rw [List.mem_singleton.1 last]
      exact Option.isSome_iff_exists.2 ⟨node, found⟩
  · intro first head
    rw [ancestors_succ reached, List.reverse_append] at head
    simp only [List.reverse_cons, List.reverse_nil, List.nil_append, List.cons_append,
      List.head?_cons, Option.mem_some_iff] at head
    simp [← head, found, root]
  · rw [List.getLast?_reverse, ancestors, List.range_succ_eq_map]
    simp [ancestor?]

/-- What a walk has found out. -/
def Classified (r : Registry) (id : String) : Except ResolutionError (List String) → Prop
  | .error (.unknownArch last chain) =>
    ∃ steps, DanglesAt r id steps last ∧ chain = ancestors r id steps
  | .error (.circularInheritance last chain) =>
    ∃ steps, LoopsAt r id steps last ∧ chain = ancestors r id (steps + 1)
  | .error (.missingMixin _ _) => False
  | .ok ids => Lineage r id ids

/-- One step of the walk: it ends, or it goes on with one id more behind it. -/
theorem walk_classified (fuel steps : Nat) {p : String} (reached : ancestor? r id steps = some p)
    (distinct : (ancestors r id steps).Nodup) (enough : r.nodes.size + 1 ≤ fuel + steps) :
    Classified r id (walk r true fuel (ancestors r id steps).reverse p) := by
  induction fuel generalizing steps p with
  | zero =>
    -- Fuel runs out only after more steps than there are registered ids.
    have bounded := steps_le_size (by simp [reached]) distinct
    omega
  | succ fuel ih =>
    have behind : ancestors r id (steps + 1) = ancestors r id steps ++ [p] := ancestors_succ reached
    unfold walk
    split
    · rename_i met
      rw [List.contains_iff_mem, List.mem_reverse] at met
      exact ⟨steps, ⟨reached, distinct, met⟩, by rw [behind, List.reverse_reverse]⟩
    · rename_i new
      rw [List.contains_iff_mem, List.mem_reverse] at new
      have longer : (ancestors r id (steps + 1)).Nodup := by
        rw [behind, List.nodup_append]
        exact ⟨distinct, by simp, fun a member b same => by
          rw [List.mem_singleton.1 same]
          exact fun equal => new (equal ▸ member)⟩
      split
      · rename_i unregistered
        exact ⟨steps, ⟨reached, unregistered, longer⟩, List.reverse_reverse _⟩
      · rename_i node found
        rw [if_pos rfl]
        have onward : p :: (ancestors r id steps).reverse = (ancestors r id (steps + 1)).reverse := by
          rw [behind, List.reverse_append]
          rfl
        split
        · rename_i parent inherits
          rw [onward]
          apply ih (steps + 1) _ longer (by omega)
          simp [ancestor?, reached, found, inherits]
        · rename_i inherits
          rw [onward]
          exact lineage_of_root reached longer found inherits

theorem chain_classified (r : Registry) (id : String) : Classified r id (chain r id true) :=
  walk_classified (r.nodes.size + 1) 0 rfl (by simp [ancestors]) (by omega)

/-- Beyond an unregistered id there is no way on. -/
theorem DanglesAt.last_step {steps further : Nat} {last : String} (dangles : DanglesAt r id steps last)
    (reached : (ancestor? r id further).isSome) : further ≤ steps := by
  apply Decidable.byContradiction
  intro beyond
  have next := ancestor?_isSome_of_le (Nat.lt_of_not_le beyond) reached
  simp [ancestor?, dangles.reached, dangles.unregistered] at next

/-- Up to where an id comes back, all ids differ. -/
theorem LoopsAt.le_of_distinct {steps further : Nat} {last : String} (loops : LoopsAt r id steps last)
    (distinct : (ancestors r id further).Nodup) : further ≤ steps := by
  apply Decidable.byContradiction
  intro beyond
  have some : steps + 1 ≤ further := Nat.lt_of_not_le beyond
  have shorter : (ancestors r id (steps + 1)).Nodup := by
    exact List.Nodup.sublist ((List.range_sublist.2 some).filterMap _) distinct
  rw [ancestors_succ loops.reached, List.nodup_append] at shorter
  exact shorter.2.2 last loops.metBefore last (by simp) rfl

theorem DanglesAt.not_loops {steps steps' : Nat} {last last' : String}
    (dangles : DanglesAt r id steps last) : ¬ LoopsAt r id steps' last' := by
  intro loops
  have le := loops.le_of_distinct dangles.distinct
  have ge : steps' ≤ steps := dangles.last_step (by simp [loops.reached])
  omega

theorem DanglesAt.not_lineage {steps : Nat} {last : String} {ids : List String}
    (dangles : DanglesAt r id steps last) : ¬ Lineage r id ids := by
  intro line
  have inside := (line.depth steps).1 (by simp [dangles.reached])
  have member : last ∈ ids.reverse := by
    rw [line.upward]
    exact mem_ancestors.2 ⟨steps, inside, dangles.reached⟩
  have registered := line.registered last (List.mem_reverse.1 member)
  rw [Registry.contains, Dict.contains] at registered
  have unregistered : r.nodes.find? last = none := dangles.unregistered
  simp [unregistered] at registered

theorem LoopsAt.not_lineage {steps : Nat} {last : String} {ids : List String}
    (loops : LoopsAt r id steps last) : ¬ Lineage r id ids := by
  intro line
  have inside := (line.depth steps).1 (by simp [loops.reached])
  have distinct : (ancestors r id ids.length).Nodup := by
    rw [← line.upward]
    exact (List.reverse_perm ids).nodup_iff.2 line.distinct
  have le := loops.le_of_distinct distinct
  omega

/-- Where a walk dangles is settled by the registry and the id it starts from. -/
theorem DanglesAt.unique {steps steps' : Nat} {last last' : String}
    (first : DanglesAt r id steps last) (second : DanglesAt r id steps' last') :
    steps = steps' ∧ last = last' := by
  have le : steps' ≤ steps := first.last_step (by simp [second.reached])
  have ge : steps ≤ steps' := second.last_step (by simp [first.reached])
  have same : steps = steps' := by omega
  subst same
  exact ⟨rfl, Option.some.inj (first.reached.symm.trans second.reached)⟩

theorem LoopsAt.unique {steps steps' : Nat} {last last' : String}
    (first : LoopsAt r id steps last) (second : LoopsAt r id steps' last') :
    steps = steps' ∧ last = last' := by
  have le := first.le_of_distinct second.distinct
  have ge := second.le_of_distinct first.distinct
  have same : steps = steps' := by omega
  subst same
  exact ⟨rfl, Option.some.inj (first.reached.symm.trans second.reached)⟩

theorem Lineage.unique {ids ids' : List String} (first : Lineage r id ids)
    (second : Lineage r id ids') : ids = ids' := by
  have length : ids.length = ids'.length := by
    have here := (first.depth ids'.length).not.symm.trans (second.depth ids'.length).not
    have there := (second.depth ids.length).not.symm.trans (first.depth ids.length).not
    omega
  rw [← List.reverse_reverse ids, ← List.reverse_reverse ids', first.upward, second.upward, length]

theorem chain_unknownArch_iff {last : String} {line : List String} :
    chain r id true = .error (.unknownArch last line) ↔
      ∃ steps, DanglesAt r id steps last ∧ line = ancestors r id steps := by
  have outcome := chain_classified r id
  constructor
  · intro failed
    rwa [failed] at outcome
  · rintro ⟨steps, dangles, rfl⟩
    cases result : chain r id true with
    | ok ids =>
      rw [result] at outcome
      exact absurd outcome dangles.not_lineage
    | error e =>
      rw [result] at outcome
      cases e with
      | unknownArch last' line' =>
        obtain ⟨steps', dangles', rfl⟩ := outcome
        obtain ⟨rfl, rfl⟩ := dangles.unique dangles'
        rfl
      | circularInheritance last' line' =>
        obtain ⟨steps', loops, _⟩ := outcome
        exact absurd loops dangles.not_loops
      | missingMixin archId mixin => exact outcome.elim

theorem chain_circularInheritance_iff {last : String} {line : List String} :
    chain r id true = .error (.circularInheritance last line) ↔
      ∃ steps, LoopsAt r id steps last ∧ line = ancestors r id (steps + 1) := by
  have outcome := chain_classified r id
  constructor
  · intro failed
    rwa [failed] at outcome
  · rintro ⟨steps, loops, rfl⟩
    cases result : chain r id true with
    | ok ids =>
      rw [result] at outcome
      exact absurd outcome loops.not_lineage
    | error e =>
      rw [result] at outcome
      cases e with
      | unknownArch last' line' =>
        obtain ⟨steps', dangles, _⟩ := outcome
        exact absurd loops dangles.not_loops
      | circularInheritance last' line' =>
        obtain ⟨steps', loops', rfl⟩ := outcome
        obtain ⟨rfl, rfl⟩ := loops.unique loops'
        rfl
      | missingMixin archId mixin => exact outcome.elim

theorem chain_ok_iff {ids : List String} : chain r id true = .ok ids ↔ Lineage r id ids := by
  have outcome := chain_classified r id
  constructor
  · intro walked
    rwa [walked] at outcome
  · intro line
    cases result : chain r id true with
    | ok ids' =>
      rw [result] at outcome
      rw [Lineage.unique line outcome]
    | error e =>
      rw [result] at outcome
      cases e with
      | unknownArch last line' =>
        obtain ⟨steps, dangles, _⟩ := outcome
        exact absurd line dangles.not_lineage
      | circularInheritance last line' =>
        obtain ⟨steps, loops, _⟩ := outcome
        exact absurd line loops.not_lineage
      | missingMixin archId mixin => exact outcome.elim

theorem foldlM_error {α β ε : Type} {step : β → α → Except ε β} {e : ε} {items : List α} {start : β}
    (failed : items.foldlM step start = .error e) : ∃ item ∈ items, ∃ b, step b item = .error e := by
  induction items generalizing start with
  | nil => cases failed
  | cons item rest ih =>
    rw [List.foldlM_cons] at failed
    cases result : step start item with
    | error e' =>
      rw [result] at failed
      cases failed
      exact ⟨item, List.mem_cons_self, start, result⟩
    | ok b =>
      rw [result] at failed
      obtain ⟨later, member, found⟩ := ih failed
      exact ⟨later, List.mem_cons_of_mem item member, found⟩

/-- Past the walk, only a mixin that is not there can fail. -/
private theorem addNode_error {options : ResolveOptions} {g : Gathered} {node : ArchitectureNode}
    {e : ResolutionError} (failed : addNode r options g node = .error e) :
    ∃ mixin, e = .missingMixin node.id mixin := by
  unfold addNode at failed
  generalize (if options.expandMixins then node.mixins else []) = mixins at failed
  cases gathered : mixins.foldlM (addMixin r node.id) g with
  | ok g' => simp [gathered, Except.map] at failed
  | error e' =>
    simp only [gathered, Except.map, Except.error.injEq] at failed
    subst failed
    obtain ⟨ref, _, g', step⟩ := foldlM_error gathered
    unfold addMixin at step
    split at step
    · cases step
      exact ⟨ref.name, rfl⟩
    · cases step

theorem resolve_of_chain_error {options : ResolveOptions} {e : ResolutionError}
    (failed : chain r id options.resolveInherits = .error e) : resolve r id options = .error e := by
  simp [resolve, failed]

theorem resolve_error_of_chain_ok {options : ResolveOptions} {e : ResolutionError} {ids : List String}
    (walked : chain r id options.resolveInherits = .ok ids) (failed : resolve r id options = .error e) :
    ∃ archId mixin, e = .missingMixin archId mixin := by
  simp only [resolve, walked] at failed
  split at failed
  · rename_i e' gathered
    cases failed
    obtain ⟨node, _, g, step⟩ := foldlM_error gathered
    obtain ⟨mixin, same⟩ := addNode_error step
    exact ⟨node.id, mixin, same⟩
  · cases failed

theorem chain_of_resolve {options : ResolveOptions} {a : FlattenedArchitecture}
    (resolved : resolve r id options = .ok a) :
    chain r id options.resolveInherits = .ok a.inheritanceChain := by
  unfold resolve at resolved
  split at resolved
  · cases resolved
  · rename_i ids walked
    dsimp only at resolved
    split at resolved
    · cases resolved
    · cases resolved
      exact walked

/-- Resolving fails on the walk just as the walk does. -/
theorem resolve_error_iff_chain {options : ResolveOptions} {e : ResolutionError}
    (walking : ∀ archId mixin, e ≠ .missingMixin archId mixin) :
    resolve r id options = .error e ↔ chain r id options.resolveInherits = .error e := by
  constructor
  · intro failed
    cases walked : chain r id options.resolveInherits with
    | error e' =>
      rw [resolve_of_chain_error walked] at failed
      exact congrArg Except.error (Except.error.inj failed)
    | ok ids =>
      obtain ⟨archId, mixin, same⟩ := resolve_error_of_chain_ok walked failed
      exact absurd same (walking archId mixin)
  · exact resolve_of_chain_error

/-- The walk up from an id ends in one of three ways, which exclude one another, and resolving
reports each with the id it ended at and the ids behind it: an unregistered id, an id that comes
back, or a root, with the whole line of descent however long it is. -/
theorem resolve_walk_outcomes (r : Registry) (id : String) (expandMixins : Bool) :
    (∀ last line, resolve r id { expandMixins, resolveInherits := true } =
        .error (.unknownArch last line) ↔
      ∃ steps, DanglesAt r id steps last ∧ line = ancestors r id steps) ∧
    (∀ last line, resolve r id { expandMixins, resolveInherits := true } =
        .error (.circularInheritance last line) ↔
      ∃ steps, LoopsAt r id steps last ∧ line = ancestors r id (steps + 1)) ∧
    (∀ ids, chain r id true = .ok ids ↔ Lineage r id ids) ∧
    (∀ a, resolve r id { expandMixins, resolveInherits := true } = .ok a →
      Lineage r id a.inheritanceChain) ∧
    ((∃ steps last, DanglesAt r id steps last) ∨ (∃ steps last, LoopsAt r id steps last) ∨
      ∃ ids, Lineage r id ids) := by
  refine ⟨?_, ?_, fun ids => chain_ok_iff, ?_, ?_⟩
  · intro last line
    rw [resolve_error_iff_chain (by simp)]
    exact chain_unknownArch_iff
  · intro last line
    rw [resolve_error_iff_chain (by simp)]
    exact chain_circularInheritance_iff
  · intro a resolved
    exact chain_ok_iff.1 (chain_of_resolve resolved)
  · have outcome := chain_classified r id
    cases result : chain r id true with
    | ok ids =>
      rw [result] at outcome
      exact .inr (.inr ⟨ids, outcome⟩)
    | error e =>
      rw [result] at outcome
      cases e with
      | unknownArch last line =>
        obtain ⟨steps, dangles, _⟩ := outcome
        exact .inl ⟨steps, last, dangles⟩
      | circularInheritance last line =>
        obtain ⟨steps, loops, _⟩ := outcome
        exact .inr (.inl ⟨steps, last, loops⟩)
      | missingMixin archId mixin => exact outcome.elim

end Conformance.Resolution
