import Conformance.Proofs.Dict
import Conformance.Project.Index
import Mathlib.Data.List.Chain
import Mathlib.Data.List.Nodup

/-! Cycles in the import graph. A search from a file goes on in rounds, and after each round it has met
all files that so many imports lead to. So it finds a cycle if there is one, and a shortest one. -/
namespace Conformance.ProjectIndex

variable {p : ProjectIndex} {within : String → Bool} {start : String}

/-- Imports lead from a file through others back to it, all of them inside a condition. -/
structure IsCycle (p : ProjectIndex) (within : String → Bool) (start : String)
    (inner : List String) : Prop where
  edges : (start :: (inner ++ [start])).IsChain fun a b => b ∈ p.importsOf a
  inside : ∀ file ∈ start :: inner, within file = true

/-- A number of imports that lead from a file to another one. -/
inductive Reaches (p : ProjectIndex) (within : String → Bool) (start : String) :
    Nat → String → Prop where
  | self : Reaches p within start 0 start
  | step {n : Nat} {file target : String} (reached : Reaches p within start n file)
    (edge : target ∈ p.importsOf file) (inside : within target = true) :
    Reaches p within start (n + 1) target

/-- A walk along imports that meets no file twice, from its end back to its start. -/
structure Trail (p : ProjectIndex) (within : String → Bool) (start : String)
    (path : List String) : Prop where
  edges : path.IsChain fun b a => b ∈ p.importsOf a
  origin : path.getLast? = some start
  inside : ∀ file ∈ path, within file = true
  distinct : path.Nodup

section Walks

theorem Trail.extend {file target : String} {path : List String}
    (trail : Trail p within start (file :: path)) (edge : target ∈ p.importsOf file)
    (inside : within target = true) (fresh : target ∉ file :: path) :
    Trail p within start (target :: file :: path) where
  edges := .cons_cons edge trail.edges
  origin := by
    rw [List.getLast?_cons_cons]
    exact trail.origin
  inside := List.forall_mem_cons.2 ⟨inside, trail.inside⟩
  distinct := .cons fresh trail.distinct

/-- A walk whose end imports its start is a cycle. -/
theorem Trail.close {file : String} {path : List String}
    (trail : Trail p within start (file :: path)) (edge : start ∈ p.importsOf file) :
    ∃ inner, (file :: path).reverse = start :: inner ∧ IsCycle p within start inner ∧
      (start :: inner).Nodup ∧ path.length = inner.length := by
  obtain ⟨edges, origin, inside, distinct⟩ := trail
  obtain ⟨back, whole⟩ := List.getLast?_eq_some_iff.1 origin
  have written : (file :: path).reverse = start :: back.reverse := by simp [whole]
  refine ⟨back.reverse, written, ⟨?_, ?_⟩, ?_, ?_⟩
  · have closed : (start :: (file :: path)).IsChain fun b a => b ∈ p.importsOf a :=
      .cons_cons edge edges
    rw [whole] at closed
    simpa using List.isChain_reverse.2 closed
  · rw [← written]
    exact fun file member => inside file (List.mem_reverse.1 member)
  · rw [← written]
    exact List.nodup_reverse.2 distinct
  · have length := congrArg List.length whole
    simpa using length

/-- Along a walk each import is one step more. -/
theorem Reaches.along {n : Nat} {file : String} {later : List String}
    (reached : Reaches p within start n file)
    (edges : (file :: later).IsChain fun a b => b ∈ p.importsOf a)
    (inside : ∀ f ∈ later, within f = true) :
    Reaches p within start (n + later.length) (later.getLastD file) := by
  induction later generalizing n file with
  | nil => exact reached
  | cons target rest ih =>
    obtain ⟨edge, edges⟩ := List.isChain_cons_cons.1 edges
    obtain ⟨here, inside⟩ := List.forall_mem_cons.1 inside
    have next := ih (reached.step edge here) edges inside
    rw [List.length_cons, List.getLastD_cons, ← Nat.succ_add_eq_add_succ]
    exact next

/-- The imports of a cycle lead back to its file. -/
theorem IsCycle.reaches {inner : List String} (cycle : IsCycle p within start inner) :
    Reaches p within start (inner.length + 1) start := by
  have inside : ∀ file ∈ inner ++ [start], within file = true := fun file member =>
    cycle.inside file (by simpa [or_comm] using member)
  simpa using Reaches.self.along cycle.edges inside

end Walks

section Ways

variable {parents parents' : Dict String}

/-- Parents lead from the end of a walk back over all its files, and no further. -/
inductive LeadsBack (parents : Dict String) : List String → Prop where
  | start {file : String} (first : parents.find? file = none) : LeadsBack parents [file]
  | step {file parent : String} {path : List String} (noted : parents.find? file = some parent)
    (onward : LeadsBack parents (parent :: path)) : LeadsBack parents (file :: parent :: path)

theorem LeadsBack.of_same {path : List String} (leads : LeadsBack parents path)
    (same : ∀ file ∈ path, parents'.find? file = parents.find? file) : LeadsBack parents' path := by
  induction leads with
  | start first => exact .start ((same _ List.mem_cons_self).trans first)
  | step noted onward ih =>
    obtain ⟨here, later⟩ := List.forall_mem_cons.1 same
    exact .step (here.trans noted) (ih later)

theorem wayBack_eq {fuel : Nat} {file : String} {path : List String}
    (leads : LeadsBack parents (file :: path)) (enough : path.length ≤ fuel) :
    Search.wayBack parents fuel file = file :: path := by
  induction fuel generalizing file path with
  | zero => rw [List.length_eq_zero_iff.1 (Nat.le_zero.1 enough), Search.wayBack]
  | succ fuel ih =>
    rw [Search.wayBack]
    cases leads with
    | start first => rw [first]
    | step noted onward =>
      rw [noted]
      exact congrArg (file :: ·) (ih onward (Nat.le_of_succ_le_succ enough))

end Ways

section Rounds

/-- What a search has gained after some steps, each a file and one that it imports. The files met on
the way were added, in the order of the steps, with the file that each was met from, and no step
leads to the start. -/
structure Gains (within : String → Bool) (start : String) (steps : List (String × String))
    (before : Search) (added : List (String × String)) (after : Search) : Prop where
  next : after.next = before.next ++ added.map Prod.snd
  seen : after.seen = (added.map Prod.snd).reverse ++ before.seen
  kept : ∀ file ∉ added.map Prod.snd, after.parents.find? file = before.parents.find? file
  noted : ∀ step ∈ added, after.parents.find? step.2 = some step.1
  taken : ∀ step ∈ added, step ∈ steps ∧ within step.2 = true ∧ step.2 ∉ before.seen
  distinct : (added.map Prod.snd).Nodup
  settled : ∀ step ∈ steps, within step.2 = true → step.2 ≠ start ∧ step.2 ∈ after.seen

theorem Gains.none (s : Search) : Gains within start [] s [] s :=
  ⟨by simp, rfl, fun _ _ => rfl, nofun, nofun, .nil, nofun⟩

variable {steps added : List (String × String)} {s s' : Search}

theorem Gains.seen_of_seen (gains : Gains within start steps s added s') {file : String}
    (seen : file ∈ s.seen) : file ∈ s'.seen := by
  rw [gains.seen]
  exact List.mem_append_right _ seen

theorem Gains.seen_of_added (gains : Gains within start steps s added s') {step : String × String}
    (member : step ∈ added) : step.2 ∈ s'.seen := by
  rw [gains.seen]
  exact List.mem_append_left _ (List.mem_reverse.2 (List.mem_map_of_mem member))

/-- Files that were met before are met from where they were. -/
theorem Gains.kept_of_seen (gains : Gains within start steps s added s') {file : String}
    (seen : file ∈ s.seen) : s'.parents.find? file = s.parents.find? file := by
  refine gains.kept file fun member => ?_
  obtain ⟨step, new, rfl⟩ := List.mem_map.1 member
  exact (gains.taken step new).2.2 seen

theorem Gains.append {more later : List (String × String)} {s'' : Search}
    (first : Gains within start steps s added s') (second : Gains within start more s' later s'') :
    Gains within start (steps ++ more) s (added ++ later) s'' where
  next := by rw [second.next, first.next, List.map_append, List.append_assoc]
  seen := by rw [second.seen, first.seen, List.map_append, List.reverse_append, List.append_assoc]
  kept := by
    intro file other
    rw [List.map_append, List.mem_append, not_or] at other
    exact (second.kept file other.2).trans (first.kept file other.1)
  noted := by
    intro step member
    rcases List.mem_append.1 member with old | new
    · exact (second.kept_of_seen (first.seen_of_added old)).trans (first.noted step old)
    · exact second.noted step new
  taken := by
    intro step member
    rcases List.mem_append.1 member with old | new
    · obtain ⟨taken, inside, fresh⟩ := first.taken step old
      exact ⟨List.mem_append_left _ taken, inside, fresh⟩
    · obtain ⟨taken, inside, fresh⟩ := second.taken step new
      exact ⟨List.mem_append_right _ taken, inside, fun seen => fresh (first.seen_of_seen seen)⟩
  distinct := by
    rw [List.map_append]
    refine first.distinct.append second.distinct fun file old new => ?_
    obtain ⟨step, member, rfl⟩ := List.mem_map.1 old
    obtain ⟨step', member', same⟩ := List.mem_map.1 new
    exact (second.taken step' member').2.2 (same ▸ first.seen_of_added member)
  settled := by
    intro step member inside
    rcases List.mem_append.1 member with old | new
    · obtain ⟨other, seen⟩ := first.settled step old inside
      exact ⟨other, second.seen_of_seen seen⟩
    · exact second.settled step new inside

theorem Gains.idle {step : String × String}
    (old : within step.2 = true → step.2 ≠ start ∧ step.2 ∈ s.seen) :
    Gains within start [step] s [] s :=
  ⟨by simp, rfl, fun _ _ => rfl, nofun, nofun, .nil, fun _ member => List.mem_singleton.1 member ▸ old⟩

theorem Gains.meet {file target : String} (inside : within target = true) (other : target ≠ start)
    (fresh : target ∉ s.seen) :
    Gains within start [(file, target)] s [(file, target)] (s.meet file target) where
  next := rfl
  seen := rfl
  kept := by
    intro f unlike
    rw [Search.meet, Dict.find?_insert, if_neg]
    exact fun same => unlike (by simp [same])
  noted := by
    intro step member
    cases List.mem_singleton.1 member
    rw [Search.meet, Dict.find?_insert, if_pos rfl]
  taken := by
    intro step member
    exact ⟨member, List.mem_singleton.1 member ▸ ⟨inside, fresh⟩⟩
  distinct := List.nodup_singleton _
  settled := by
    intro step member _
    exact List.mem_singleton.1 member ▸ ⟨other, List.mem_cons_self⟩

/-- The outcome of some steps: all that they lead to is met, or one of them leads to the start, and the
way is read off the parents noted by then. -/
inductive Visits (within : String → Bool) (start : String) (steps : List (String × String))
    (s : Search) : List String ⊕ Search → Prop where
  | met {added : List (String × String)} {s' : Search} (gains : Gains within start steps s added s') :
    Visits within start steps s (.inr s')
  | closed {before added : List (String × String)} {s' : Search} {file : String}
    (gains : Gains within start before s added s') (step : (file, start) ∈ steps) :
    Visits within start steps s (.inl (s'.cycle start file))

/-- Steps that meet all they lead to leave the rest as it is. -/
theorem Visits.after_gains {more : List (String × String)} {outcome : List String ⊕ Search}
    (gains : Gains within start steps s added s') (visits : Visits within start more s' outcome) :
    Visits within start (steps ++ more) s outcome := by
  cases visits with
  | met later => exact .met (gains.append later)
  | closed later step => exact .closed (gains.append later) (List.mem_append_right _ step)

private theorem visits_targets (file : String) (targets : List String) (s : Search) :
    Visits within start (targets.map (file, ·)) s (visitTargets within start file targets s) := by
  induction targets generalizing s with
  | nil => exact .met (.none s)
  | cons target rest ih =>
    rw [visitTargets, List.map_cons]
    split
    · rename_i outside
      exact (ih s).after_gains (Gains.idle fun inside => by simp [inside] at outside)
    · rename_i inside
      split
      · rename_i same
        exact .closed (.none s) (same ▸ List.mem_cons_self)
      · rename_i other
        split
        · rename_i old
          exact (ih s).after_gains (Gains.idle fun _ => ⟨other, List.contains_iff_mem.1 old⟩)
        · rename_i fresh
          exact (ih _).after_gains
            (Gains.meet (by simpa using inside) other (by simpa using fresh))

/-- The steps of a round. -/
def stepsFrom (p : ProjectIndex) (files : List String) : List (String × String) :=
  files.flatMap fun file => (p.importsOf file).map (file, ·)

theorem mem_stepsFrom {files : List String} {step : String × String} :
    step ∈ stepsFrom p files ↔ step.1 ∈ files ∧ step.2 ∈ p.importsOf step.1 := by
  obtain ⟨file, target⟩ := step
  simp only [stepsFrom, List.mem_flatMap, List.mem_map, Prod.mk.injEq]
  constructor
  · rintro ⟨_, member, _, edge, rfl, rfl⟩
    exact ⟨member, edge⟩
  · rintro ⟨member, edge⟩
    exact ⟨file, member, target, edge, rfl, rfl⟩

theorem visits_round (files : List String) (s : Search) :
    Visits within start (stepsFrom p files) s (visitRound p within start files s) := by
  induction files generalizing s with
  | nil => exact .met (.none s)
  | cons file rest ih =>
    have first : Visits within start ((p.importsOf file).map (file, ·)) s
        (visitTargets within start file (p.importsOf file) s) := visits_targets ..
    rw [visitRound, stepsFrom, List.flatMap_cons]
    generalize visitTargets within start file (p.importsOf file) s = outcome at first ⊢
    cases first with
    | met gains => exact (ih _).after_gains gains
    | closed gains step => exact .closed gains (List.mem_append_left _ step)

theorem visits_next {outcome : List String ⊕ Search}
    (visited : visitRound p within start s.next { s with next := [] } = outcome) :
    Visits within start (stepsFrom p s.next) { s with next := [] } outcome :=
  visited ▸ visits_round s.next _

end Rounds

section Searching

/-- What a search knows after some rounds that closed no cycle. The files to go on from are the ends of
walks of as many imports as there were rounds, and their parents lead back along these. It has met
whatever at most so many imports lead to, and gone on from all of it but those ends. -/
structure Progress (p : ProjectIndex) (within : String → Bool) (start : String) (rounds : Nat)
    (s : Search) : Prop where
  trails : ∀ file ∈ s.next, ∃ path, Trail p within start (file :: path) ∧ path.length = rounds ∧
    (∀ f ∈ file :: path, f ∈ s.seen) ∧ LeadsBack s.parents (file :: path)
  settled : ∀ file ∈ s.seen, file ∈ s.next ∨
    ∀ target ∈ p.importsOf file, within target = true → target ≠ start ∧ target ∈ s.seen
  reached : ∀ n ≤ rounds, ∀ file, Reaches p within start n file → file ∈ s.seen
  unclosed : ∀ n < rounds, ¬ Reaches p within start (n + 1) start

theorem progress_start (inside : within start = true) :
    Progress p within start 0 (.ofStart start) where
  trails := by
    intro file member
    cases List.mem_singleton.1 member
    exact ⟨[], ⟨.singleton _, rfl, by simpa using inside, List.nodup_singleton _⟩, rfl,
      fun _ member => member, .start rfl⟩
  settled := fun file member => .inl member
  reached := by
    intro n none file reached
    cases reached with
    | self => exact List.mem_singleton_self _
    | step => omega
  unclosed := nofun

variable {rounds : Nat} {s s' : Search}

theorem Progress.round (progress : Progress p within start rounds s)
    (visited : visitRound p within start s.next { s with next := [] } = .inr s') :
    Progress p within start (rounds + 1) s' := by
  cases visits_next visited with
  | @met added _ gains =>
    -- Whatever was met before this round has been gone on from by now.
    have settled : ∀ file ∈ s.seen, ∀ target ∈ p.importsOf file, within target = true →
        target ≠ start ∧ target ∈ s'.seen := by
      intro file member target edge inside
      rcases progress.settled file member with current | before
      · exact gains.settled (file, target) (mem_stepsFrom.2 ⟨current, edge⟩) inside
      · exact (before target edge inside).imp id gains.seen_of_seen
    refine ⟨fun target member => ?_, fun file member => ?_, fun n bound file reached => ?_,
      fun n bound reached => ?_⟩
    · rw [gains.next, List.nil_append] at member
      obtain ⟨⟨file, target⟩, new, rfl⟩ := List.mem_map.1 member
      obtain ⟨taken, inside, fresh⟩ := gains.taken _ new
      obtain ⟨current, edge⟩ := mem_stepsFrom.1 taken
      obtain ⟨path, trail, length, known, leads⟩ := progress.trails file current
      refine ⟨file :: path, trail.extend edge inside fun again => fresh (known _ again), ?_, ?_, ?_⟩
      · rw [List.length_cons, length]
      · refine List.forall_mem_cons.2 ⟨gains.seen_of_added new, ?_⟩
        exact fun f member => gains.seen_of_seen (known f member)
      · refine .step (gains.noted _ new) ?_
        exact leads.of_same fun f member => gains.kept_of_seen (known f member)
    · rw [gains.seen] at member
      rcases List.mem_append.1 member with new | old
      · refine .inl ?_
        rw [gains.next, List.nil_append]
        exact List.mem_reverse.1 new
      · exact .inr (settled file old)
    · cases reached with
      | self => exact gains.seen_of_seen (progress.reached 0 (Nat.zero_le _) start .self)
      | step before edge inside =>
        exact (settled _ (progress.reached _ (Nat.le_of_succ_le_succ bound) _ before) _ edge inside).2
    · cases reached with
      | step before edge inside =>
        exact (settled _ (progress.reached n (Nat.le_of_lt_succ bound) _ before) _ edge inside).1 rfl

/-- When no file is left to go on from, no number of imports leads back to the start. -/
theorem Progress.no_cycle (progress : Progress p within start rounds s) (done : s.next = [])
    (inner : List String) : ¬ IsCycle p within start inner := by
  have settled : ∀ file ∈ s.seen, ∀ target ∈ p.importsOf file, within target = true →
      target ≠ start ∧ target ∈ s.seen := by
    intro file member
    rcases progress.settled file member with left | settled
    · rw [done] at left
      cases left
    · exact settled
  have all (n : Nat) (file : String) (reached : Reaches p within start n file) : file ∈ s.seen := by
    induction reached with
    | self => exact progress.reached 0 (Nat.zero_le _) start .self
    | step _ edge inside met => exact (settled _ met _ edge inside).2
  intro cycle
  cases cycle.reaches with
  | step before edge inside => exact (settled _ (all _ _ before) _ edge inside).1 rfl

/-- A cycle that meets no file twice, and no cycle through its file has fewer imports. -/
structure IsShortest (p : ProjectIndex) (within : String → Bool) (start : String)
    (inner : List String) : Prop where
  cycle : IsCycle p within start inner
  distinct : (start :: inner).Nodup
  least : ∀ other, IsCycle p within start other → inner.length ≤ other.length

/-- The cycle that a round closes is a shortest one. -/
theorem Progress.closes (progress : Progress p within start rounds s) {cycle : List String}
    (visited : visitRound p within start s.next { s with next := [] } = .inl cycle) :
    ∃ inner, cycle = start :: (inner ++ [start]) ∧ IsShortest p within start inner := by
  cases visits_next visited with
  | closed gains step =>
    obtain ⟨current, edge⟩ := mem_stepsFrom.1 step
    obtain ⟨path, trail, length, known, leads⟩ := progress.trails _ current
    obtain ⟨inner, written, closed, distinct, size⟩ := trail.close edge
    -- The way was noted before this round, and nothing noted since is on it.
    have back := leads.of_same fun f member => gains.kept_of_seen (known f member)
    have few := trail.distinct.length_le_of_subset fun f member => gains.seen_of_seen (known f member)
    rw [Search.cycle, wayBack_eq back (Nat.le_of_succ_le few), written]
    refine ⟨inner, rfl, closed, distinct, fun other cycle => ?_⟩
    refine Nat.le_of_not_lt fun shorter => progress.unclosed other.length ?_ cycle.reaches
    omega

/-- The outcome of a search that goes on while files are left, without a bound on its rounds. -/
inductive Ends (p : ProjectIndex) (within : String → Bool) (start : String) :
    Search → Option (List String) → Prop where
  | exhausted {s : Search} (done : s.next = []) : Ends p within start s none
  | closed {s : Search} {cycle : List String} (left : s.next ≠ [])
    (visited : visitRound p within start s.next { s with next := [] } = .inl cycle) :
    Ends p within start s (some cycle)
  | round {s s' : Search} {outcome : Option (List String)} (left : s.next ≠ [])
    (visited : visitRound p within start s.next { s with next := [] } = .inr s')
    (onward : Ends p within start s' outcome) : Ends p within start s outcome

theorem mem_edges {edge : String × String} : edge ∈ p.edges ↔ edge.2 ∈ p.importsOf edge.1 := by
  obtain ⟨file, target⟩ := edge
  simp only [edges, importsOf, List.mem_flatMap, List.mem_map, Prod.exists, Prod.mk.injEq]
  constructor
  · rintro ⟨_, targets, entry, _, member, rfl, rfl⟩
    rw [Dict.find?_eq_some.2 entry]
    exact member
  · intro member
    cases found : p.imports.find? file with
    | none =>
      rw [found] at member
      cases member
    | some targets =>
      rw [found] at member
      exact ⟨file, targets, Dict.find?_eq_some.1 found, target, member, rfl, rfl⟩

/-- The files that a search has met are the start and targets of imports, none of them twice. -/
structure Bounded (p : ProjectIndex) (start : String) (s : Search) : Prop where
  distinct : s.seen.Nodup
  known : ∀ file ∈ s.seen, file ∈ start :: p.edges.map Prod.snd

theorem Bounded.length_le (bounded : Bounded p start s) : s.seen.length ≤ p.edges.length + 1 := by
  have few := bounded.distinct.length_le_of_subset bounded.known
  rwa [List.length_cons, List.length_map] at few

/-- Every file that a round leaves was not met before. -/
theorem Bounded.round (bounded : Bounded p start s)
    (visited : visitRound p within start s.next { s with next := [] } = .inr s') :
    Bounded p start s' ∧ s'.seen.length = s.seen.length + s'.next.length := by
  cases visits_next visited with
  | @met added _ gains =>
    have new : ∀ file ∈ (added.map Prod.snd).reverse,
        file ∉ s.seen ∧ file ∈ p.edges.map Prod.snd := by
      intro file member
      obtain ⟨step, gained, rfl⟩ := List.mem_map.1 (List.mem_reverse.1 member)
      obtain ⟨taken, -, fresh⟩ := gains.taken step gained
      exact ⟨fresh, List.mem_map.2 ⟨step, mem_edges.2 (mem_stepsFrom.1 taken).2, rfl⟩⟩
    refine ⟨⟨?_, fun file member => ?_⟩, ?_⟩
    · rw [gains.seen]
      refine (List.nodup_reverse.2 gains.distinct).append bounded.distinct ?_
      exact fun file member old => (new file member).1 old
    · rw [gains.seen] at member
      rcases List.mem_append.1 member with fresh | old
      · exact List.mem_cons_of_mem _ (new file fresh).2
      · exact bounded.known file old
    · rw [gains.seen, gains.next]
      simp [Nat.add_comm]

/-- The bound on the rounds is never met: with it the search ends as it does without. -/
theorem ends_searchRounds {fuel : Nat} (bounded : Bounded p start s)
    (enough : p.edges.length + 3 ≤ fuel + s.seen.length) :
    Ends p within start s (searchRounds p within start fuel s) := by
  induction fuel generalizing s with
  | zero =>
    have few := bounded.length_le
    omega
  | succ fuel ih =>
    rw [searchRounds]
    split
    · rename_i empty
      exact .exhausted (List.isEmpty_iff.1 empty)
    · rename_i left
      have left : s.next ≠ [] := fun empty => left (List.isEmpty_iff.2 empty)
      split
      · rename_i cycle visited
        exact .closed left visited
      · rename_i s' visited
        obtain ⟨bounded', grown⟩ := bounded.round visited
        refine .round left visited ?_
        -- A round without new files is the last one but for a look at the empty list of files.
        cases onward : s'.next with
        | nil =>
          have few := bounded.length_le
          obtain ⟨more, rfl⟩ : ∃ more, fuel = more + 1 := ⟨fuel - 1, by omega⟩
          rw [searchRounds, onward]
          exact .exhausted onward
        | cons file rest =>
          refine ih bounded' ?_
          rw [grown, onward, List.length_cons]
          omega

/-- What may be answered about the cycles through a file: none if there are none, else a shortest. -/
inductive Answers (p : ProjectIndex) (within : String → Bool) (start : String) :
    Option (List String) → Prop where
  | absent (no : ∀ inner, ¬ IsCycle p within start inner) : Answers p within start none
  | found {inner : List String} (shortest : IsShortest p within start inner) :
    Answers p within start (some (start :: (inner ++ [start])))

theorem Progress.answers {outcome : Option (List String)} (progress : Progress p within start rounds s)
    (ends : Ends p within start s outcome) : Answers p within start outcome := by
  induction ends generalizing rounds with
  | exhausted done => exact .absent (progress.no_cycle done)
  | closed _ visited =>
    obtain ⟨inner, rfl, shortest⟩ := progress.closes visited
    exact .found shortest
  | round _ visited _ ih => exact ih (progress.round visited)

theorem ends_cycleThrough? (inside : within start = true) :
    Ends p within start (.ofStart start) (p.cycleThrough? start within) := by
  rw [cycleThrough?, if_pos inside]
  exact ends_searchRounds ⟨List.nodup_singleton _, by simp [Search.ofStart]⟩ (by simp [Search.ofStart])

theorem answers_cycleThrough? (p : ProjectIndex) (start : String) (within : String → Bool) :
    Answers p within start (p.cycleThrough? start within) := by
  cases inside : within start with
  | true => exact (progress_start inside).answers (ends_cycleThrough? inside)
  | false =>
    rw [cycleThrough?, if_neg (by simp [inside])]
    refine .absent fun inner cycle => ?_
    have := cycle.inside start List.mem_cons_self
    exact absurd (inside.symm.trans this) Bool.false_ne_true

end Searching

/-- A search for a cycle through a file ends. It finds one exactly if imports lead from the file back to
it inside the condition. What it finds starts and ends with the file, follows imports between files of
the condition, meets no other file twice and not its own, and no way back has fewer imports. -/
theorem shortest_cycle_is_found (p : ProjectIndex) (start : String) (within : String → Bool) :
    (within start = true → Ends p within start (.ofStart start) (p.cycleThrough? start within)) ∧
    ((p.cycleThrough? start within).isSome = true ↔ ∃ inner, IsCycle p within start inner) ∧
    ∀ cycle, p.cycleThrough? start within = some cycle →
      ∃ inner, cycle = start :: (inner ++ [start]) ∧
        (cycle.IsChain fun a b => b ∈ p.importsOf a) ∧ (∀ file ∈ cycle, within file = true) ∧
        inner.Nodup ∧ start ∉ inner ∧
        ∀ other, IsCycle p within start other →
          cycle.length ≤ (start :: (other ++ [start])).length := by
  have answers := answers_cycleThrough? p start within
  refine ⟨ends_cycleThrough?, ?_, fun cycle answered => ?_⟩
  · generalize p.cycleThrough? start within = outcome at answers
    cases answers with
    | absent no => exact iff_of_false Bool.false_ne_true fun ⟨inner, cycle⟩ => no inner cycle
    | found shortest => exact iff_of_true rfl ⟨_, shortest.cycle⟩
  · rw [answered] at answers
    cases answers with
    | found shortest =>
      rename_i inner
      obtain ⟨⟨edges, inside⟩, distinct, least⟩ := shortest
      obtain ⟨other, distinct⟩ := List.nodup_cons.1 distinct
      refine ⟨inner, rfl, edges, fun file member => ?_, distinct, other, fun other cycle => ?_⟩
      · exact inside file (by simpa [or_comm] using member)
      · simpa using least other cycle

namespace Detour

/-- Files that import each other in a triangle with a shorter way back, an import of a file that is not
there, and a file that imports itself. -/
def project : ProjectIndex :=
  (((({} : ProjectIndex).setImports "a" ["gone", "b", "c"]).setImports "b" ["c"]).setImports "c"
    ["a", "d"]).setImports "d" ["d"]

end Detour

open Detour in
theorem detour_is_avoided :
    project.cycleThrough? "a" (fun _ => true) = some ["a", "c", "a"] ∧
    (∀ inner, IsCycle project (fun _ => true) "a" inner → 1 ≤ inner.length) ∧
    project.cycleThrough? "d" (fun _ => true) = some ["d", "d"] ∧
    ¬ ∃ inner, IsCycle project (· != "c") "a" inner := by
  obtain ⟨-, -, shortest⟩ := shortest_cycle_is_found project "a" fun _ => true
  obtain ⟨-, exists_iff, -⟩ := shortest_cycle_is_found project "a" (· != "c")
  have found : project.cycleThrough? "a" (fun _ => true) = some ["a", "c", "a"] := by
    decide +kernel
  refine ⟨found, fun inner cycle => ?_, by decide +kernel, fun cycle => ?_⟩
  · obtain ⟨_, -, -, -, -, -, least⟩ := shortest _ found
    simpa using least inner cycle
  · have none : project.cycleThrough? "a" (· != "c") = none := by decide +kernel
    have := exists_iff.2 cycle
    rw [none] at this
    cases this

end Conformance.ProjectIndex
