import Conformance.Proofs.Resolution.Chain

/-! What an architecture depends on: the ids that the walk from it looks up, and the mixins that
their architectures name. Registries that agree on these resolve it alike, whether it resolves or
fails, so that a broken definition breaks only what depends on it. -/
namespace Conformance.Resolution

/-- An id that the walk from an id looks up, be it registered or not. -/
inductive Visits (r : Registry) (follow : Bool) (id : String) : String → Prop where
  | self : Visits r follow id id
  | up {p parent : String} (below : Visits r follow id p) (follows : follow = true)
    (inherits : (r.get? p).bind (·.inherits) = some parent) : Visits r follow id parent

/-- A mixin that an architecture on the way up from an id names. -/
def RefersTo (r : Registry) (follow : Bool) (id name : String) : Prop :=
  ∃ p node ref, Visits r follow id p ∧ r.get? p = some node ∧ ref ∈ node.mixins ∧ ref.name = name

/-- Two registries have the same definitions of all that an id depends on, and lack the same ones.
Mixins matter only if they are taken in. -/
structure AgreeOn (r q : Registry) (options : ResolveOptions) (id : String) : Prop where
  nodes : ∀ p, Visits r options.resolveInherits id p → r.get? p = q.get? p
  mixins : options.expandMixins = true → ∀ name, RefersTo r options.resolveInherits id name →
    r.mixins.find? name = q.mixins.find? name

section Walk

variable {r q : Registry} {follow : Bool} {id : String}

/-- A walk goes the same way where the same definitions are met. -/
theorem walk_agree (agree : ∀ p, Visits r follow id p → r.get? p = q.get? p) (fuel : Nat)
    (visited : List String) {p : String} (visits : Visits r follow id p) :
    walk r follow fuel visited p = walk q follow fuel visited p := by
  induction fuel generalizing visited p with
  | zero => rfl
  | succ fuel ih =>
    unfold walk
    rw [← agree p visits]
    split
    · rfl
    · cases found : r.get? p with
      | none => rfl
      | some node =>
        dsimp only
        cases follows : follow with
        | false => rfl
        | true =>
          rw [if_pos rfl]
          cases inherits : node.inherits with
          | none => rfl
          | some parent =>
            subst follows
            exact ih (p :: visited) (visits.up rfl (by rw [found, Option.bind_some, inherits]))

/-- A walk ends on ids that it looked up. -/
theorem visits_of_walk {fuel : Nat} {visited : List String} {p : String}
    (behind : ∀ x ∈ visited, Visits r follow id x) (visits : Visits r follow id p)
    {ids : List String} (walked : walk r follow fuel visited p = .ok ids) :
    ∀ x ∈ ids, Visits r follow id x := by
  have longer : ∀ x ∈ p :: visited, Visits r follow id x := by
    intro x member
    rcases List.mem_cons.1 member with rfl | before
    · exact visits
    · exact behind x before
  induction fuel generalizing visited p with
  | zero => cases walked
  | succ fuel ih =>
    unfold walk at walked
    split at walked
    · cases walked
    · split at walked
      · cases walked
      · rename_i node found
        split at walked
        · rename_i parent onward
          cases follows : follow with
          | false =>
            rw [follows] at onward
            cases onward
          | true =>
            rw [follows, if_pos rfl] at onward
            have next : Visits r follow id parent :=
              visits.up follows (by rw [found, Option.bind_some, onward])
            subst follows
            refine ih longer next walked ?_
            intro x member
            rcases List.mem_cons.1 member with rfl | before
            · exact next
            · exact longer x before
        · cases walked
          exact longer

/-- A walk with more steps to spare ends as the walk of a chain does. -/
theorem chain_eq_walk {fuel : Nat} (enough : r.nodes.size + 1 ≤ fuel) (id : String) :
    chain r id follow = walk r follow fuel [] id := by
  obtain ⟨more, rfl⟩ := Nat.exists_eq_add_of_le' (Nat.le_of_add_left_le enough)
  cases follow with
  | false => rfl
  | true =>
    have outcome : Classified r id (walk r true (more + 1) [] id) :=
      walk_classified (more + 1) 0 rfl (by simp [ancestors]) (by omega)
    cases walked : walk r true (more + 1) [] id with
    | ok ids =>
      rw [walked] at outcome
      exact chain_ok_iff.2 outcome
    | error e =>
      rw [walked] at outcome
      cases e with
      | unknownArch last line => exact chain_unknownArch_iff.2 outcome
      | circularInheritance last line => exact chain_circularInheritance_iff.2 outcome
      | missingMixin archId mixin => exact outcome.elim

/-- The registries may differ in size, and so in how many steps they give a walk. -/
theorem chain_agree (agree : ∀ p, Visits r follow id p → r.get? p = q.get? p) :
    chain r id follow = chain q id follow := by
  have enough : r.nodes.size + 1 ≤ r.nodes.size + q.nodes.size + 1 := by omega
  have enoughToo : q.nodes.size + 1 ≤ r.nodes.size + q.nodes.size + 1 := by omega
  rw [chain_eq_walk enough, chain_eq_walk enoughToo]
  exact walk_agree agree _ [] .self

theorem visits_of_chain {ids : List String} (walked : chain r id follow = .ok ids) :
    ∀ p ∈ ids, Visits r follow id p :=
  visits_of_walk (by simp) .self walked

end Walk

section Fold

theorem foldlM_agree {α β ε : Type} {step step' : β → α → Except ε β} {items : List α}
    (agree : ∀ item ∈ items, ∀ b, step b item = step' b item) (start : β) :
    items.foldlM step start = items.foldlM step' start := by
  induction items generalizing start with
  | nil => rfl
  | cons item rest ih =>
    rw [List.foldlM_cons, List.foldlM_cons, agree item List.mem_cons_self]
    refine congrArg _ (funext fun b => ?_)
    exact ih (fun other member => agree other (List.mem_cons_of_mem _ member)) b

variable {r q : Registry} {options : ResolveOptions}

theorem addNode_agree {node : ArchitectureNode}
    (agree : options.expandMixins = true →
      ∀ ref ∈ node.mixins, r.mixins.find? ref.name = q.mixins.find? ref.name) (g : Gathered) :
    addNode r options g node = addNode q options g node := by
  unfold addNode
  cases expands : options.expandMixins with
  | false => rfl
  | true =>
    have same : node.mixins.foldlM (addMixin r node.id) g =
        node.mixins.foldlM (addMixin q node.id) g := by
      refine foldlM_agree (fun ref member b => ?_) g
      rw [addMixin, addMixin, agree expands ref member]
    simp only [if_true, same]

variable {id : String}

/-- Resolving reads no more of a registry than what the id depends on. -/
theorem resolve_agree (agree : AgreeOn r q options id) :
    resolve r id options = resolve q id options := by
  unfold resolve
  rw [← chain_agree agree.nodes]
  cases walked : chain r id options.resolveInherits with
  | error e => rfl
  | ok ids =>
    have visited := visits_of_chain walked
    have nodes : ids.filterMap r.get? = ids.filterMap q.get? :=
      List.filterMap_congr fun p member => agree.nodes p (visited p member)
    have gathered : (ids.filterMap r.get?).foldlM (addNode r options) {} =
        (ids.filterMap r.get?).foldlM (addNode q options) {} := by
      refine foldlM_agree (fun node member g => ?_) _
      obtain ⟨p, inside, found⟩ := List.mem_filterMap.1 member
      refine addNode_agree (fun expands ref named => ?_) g
      exact agree.mixins expands ref.name ⟨p, node, ref, visited p inside, found, named, rfl⟩
    simp only [← nodes, gathered]

theorem resolveAll_agree (agree : AgreeOn r q options id) :
    (resolveAll r options).find? id = (resolveAll q options).find? id := by
  have registered : r.nodes.find? id = q.nodes.find? id := agree.nodes id .self
  rw [resolveAll, resolveAll, Dict.find?_map, Dict.find?_map, resolve_agree agree, registered]

end Fold

/-- One change of a registry: a definition put in, in place of one of its name if there is one, or
taken out. -/
inductive Edit where
  | architecture (id : String) (node : Option ArchitectureNode)
  | mixin (name : String) (mixin : Option Mixin)
  | intent (name : String) (intent : Option IntentDefinition)

namespace Edit

/-- Put a definition in a map, or take it out. -/
def set {α : Type} (d : Dict α) (key : String) : Option α → Dict α
  | some value => d.insert key value
  | none => d.erase key

theorem find?_set {α : Type} (d : Dict α) {key other : String} (different : key ≠ other)
    (value : Option α) : (set d key value).find? other = d.find? other := by
  cases value with
  | none => simp [set, different.symm]
  | some value => simp [set, different]

def apply (r : Registry) : Edit → Registry
  | architecture id node => { r with nodes := set r.nodes id node }
  | mixin name value => { r with mixins := set r.mixins name value }
  | intent name value => { r with intents := set r.intents name value }

/-- The change is of nothing that an id depends on. -/
def Spares (r : Registry) (options : ResolveOptions) (id : String) : Edit → Prop
  | architecture changed _ => ¬ Visits r options.resolveInherits id changed
  | mixin changed _ => ¬ RefersTo r options.resolveInherits id changed
  | intent _ _ => True

variable {r q : Registry} {options : ResolveOptions} {id : String}

theorem agreeOn_apply (agree : AgreeOn r q options id) {edit : Edit}
    (spares : edit.Spares r options id) : AgreeOn r (edit.apply q) options id := by
  cases edit with
  | architecture changed node =>
    refine ⟨fun p visits => ?_, agree.mixins⟩
    have other : changed ≠ p := fun same => spares (same ▸ visits)
    exact (agree.nodes p visits).trans (find?_set q.nodes other node).symm
  | mixin changed mixin =>
    refine ⟨agree.nodes, fun expands name refers => ?_⟩
    have other : changed ≠ name := fun same => spares (same ▸ refers)
    exact (agree.mixins expands name refers).trans (find?_set q.mixins other mixin).symm
  | intent => exact ⟨agree.nodes, agree.mixins⟩

/-- What an id depends on stays as it is however many other definitions change. -/
theorem agreeOn_foldl {edits : List Edit} (spare : ∀ edit ∈ edits, edit.Spares r options id)
    (agree : AgreeOn r q options id) : AgreeOn r (edits.foldl apply q) options id := by
  induction edits generalizing q with
  | nil => exact agree
  | cons edit rest ih =>
    rw [List.foldl_cons]
    exact ih (fun other member => spare other (List.mem_cons_of_mem _ member))
      (agreeOn_apply agree (spare edit List.mem_cons_self))

end Edit

/-- Failures stay local. Registries that agree on the ids met on the way up from an id, and on the
mixins named there, give it the same outcome, alone and among all architectures. So changing other
definitions, to the worse or to the better, leaves it as it is. -/
theorem failures_stay_local (r : Registry) (id : String) (options : ResolveOptions) :
    (∀ q, AgreeOn r q options id → resolve q id options = resolve r id options ∧
      (resolveAll q options).find? id = (resolveAll r options).find? id) ∧
    ∀ edits : List Edit, (∀ edit ∈ edits, edit.Spares r options id) →
      resolve (edits.foldl Edit.apply r) id options = resolve r id options ∧
      (resolveAll (edits.foldl Edit.apply r) options).find? id =
        (resolveAll r options).find? id := by
  have alike (q : Registry) (agree : AgreeOn r q options id) :
      resolve q id options = resolve r id options ∧
        (resolveAll q options).find? id = (resolveAll r options).find? id :=
    ⟨(resolve_agree agree).symm, (resolveAll_agree agree).symm⟩
  refine ⟨alike, fun edits spare => alike _ ?_⟩
  exact Edit.agreeOn_foldl spare ⟨fun _ _ => rfl, fun _ _ _ => rfl⟩

/-- Two architectures under one root, and a mixin that the first of them names. -/
def branches : Registry where
  nodes := .ofList [
    ("api", { id := "api", inherits := some "base", mixins := [.named "strict"] }),
    ("base", { id := "base", hints := ["keep it small"] }),
    ("worker", { id := "worker", inherits := some "base" })]
  mixins := .ofList [("strict", { name := "strict", hints := ["no shortcuts"] })]

/-- The second architecture loses its root, and one that is its own parent comes in. -/
def breaks : List Edit := [
  .architecture "worker" (some { id := "worker", inherits := some "gone" }),
  .architecture "loop" (some { id := "loop", inherits := some "loop" }),
  .mixin "lax" none, .intent "pure" none]

theorem visits_branches {p : String} (visits : Visits branches true "api" p) :
    p = "api" ∨ p = "base" := by
  induction visits with
  | self => exact .inl rfl
  | up below follows inherits ih =>
    rcases ih with rfl | rfl
    · have parent : (branches.get? "api").bind (·.inherits) = some "base" := rfl
      exact .inr (Option.some.inj (inherits.symm.trans parent))
    · have root : (branches.get? "base").bind (·.inherits) = none := rfl
      cases inherits.symm.trans root

private theorem refersTo_branches {name : String} (refers : RefersTo branches true "api" name) :
    name = "strict" := by
  obtain ⟨p, node, ref, visits, found, named, rfl⟩ := refers
  rcases visits_branches visits with rfl | rfl
  · cases found
    rw [List.mem_singleton.1 named]
    rfl
  · cases found
    cases named

theorem breaks_spare : ∀ edit ∈ breaks, edit.Spares branches {} "api" := by
  intro edit member
  simp only [breaks, List.mem_cons, List.not_mem_nil, or_false] at member
  rcases member with rfl | rfl | rfl | rfl
  · intro visits
    rcases visits_branches visits with same | same <;> simp at same
  · intro visits
    rcases visits_branches visits with same | same <;> simp at same
  · intro refers
    simpa using refersTo_branches refers
  · trivial

/-- What is broken fails, and what stands beside it does not. -/
theorem broken_sibling_is_no_matter :
    (∀ edit ∈ breaks, edit.Spares branches {} "api") ∧
    (∃ a, resolve (breaks.foldl Edit.apply branches) "api" = .ok a ∧
      a.inheritanceChain = ["base", "api"] ∧ a.hints = ["keep it small", "no shortcuts"]) ∧
    resolve (breaks.foldl Edit.apply branches) "worker" =
      .error (.unknownArch "gone" ["worker"]) ∧
    resolve (breaks.foldl Edit.apply branches) "loop" =
      .error (.circularInheritance "loop" ["loop", "loop"]) := by
  obtain ⟨-, edits⟩ := failures_stay_local branches "api" {}
  obtain ⟨same, -⟩ := edits breaks breaks_spare
  obtain ⟨a, resolved⟩ : ∃ a, resolve branches "api" = .ok a := ⟨_, rfl⟩
  refine ⟨breaks_spare, ⟨a, same.trans resolved, ?_⟩, rfl, rfl⟩
  cases resolved
  exact ⟨rfl, rfl⟩

end Conformance.Resolution
