import Conformance.Pattern
import Std.Data.HashSet.Lemmas

/-! Patterns found on a line are those that match: the instructions of an expression note where a
match starts before anything else. A search can be followed step by step with the visited pairs in a
list, which tells whether a given pattern is found in a given text. A pattern without groups has none
of the shapes that explode, as both begin with a group. -/
namespace Conformance

namespace Regex

variable {code : Array Instruction} {text : Array Char} {t : Thread}

section Steps

/-- The number of the instruction and position of a thread together. -/
def Thread.key (text : Array Char) (t : Thread) : Nat := t.state * (text.size + 1) + t.position

/-- Where a thread goes on, the preferred way first. -/
def Thread.successors (code : Array Instruction) (text : Array Char) (t : Thread) : List Thread :=
  match code[t.state]? with
  | some (.consume chars next) =>
    if (text[t.position]?).any fun c => chars.mem c.toNat then [⟨next, t.position + 1, t.slots⟩]
    else []
  | some (.check condition next) =>
    if condition.holds text t.position then [⟨next, t.position, t.slots⟩] else []
  | some (.mark slot next) => [⟨next, t.position, (slot, t.position) :: t.slots⟩]
  | some (.split preferred other) =>
    [⟨preferred, t.position, t.slots⟩, ⟨other, t.position, t.slots⟩]
  | _ => []

def Thread.accepts (code : Array Instruction) (t : Thread) : Bool :=
  match code[t.state]? with
  | some .accept => true
  | _ => false

/-- One step of a walk. -/
theorem walk_cons (code : Array Instruction) (text : Array Char) (fuel : Nat) (t : Thread)
    (waiting : List Thread) (visited : Std.HashSet Nat) :
    walk code text (fuel + 1) (t :: waiting) visited =
      if visited.contains (t.key text) then walk code text fuel waiting visited
      else if t.accepts code then (some ⟨t.slots⟩, visited.insert (t.key text))
      else walk code text fuel (t.successors code text ++ waiting)
        (visited.insert (t.key text)) := by
  rw [walk, Thread.accepts, Thread.successors, Thread.key]
  dsimp only
  split
  · rfl
  · cases code[t.state]? with
    | none => rfl
    | some instruction =>
      cases instruction with
      | consume chars next =>
        cases text[t.position]? with
        | none => rfl
        | some c =>
          dsimp only [Option.any_some]
          split <;> rfl
      | check condition next =>
        dsimp only
        split <;> rfl
      | _ => rfl

private theorem slots_subset_of_mem_successors {next : Thread}
    (member : next ∈ t.successors code text) :
    t.slots ⊆ next.slots := by
  unfold Thread.successors at member
  split at member
  · split at member
    · cases List.mem_singleton.1 member
      exact List.Subset.refl _
    · cases member
  · split at member
    · cases List.mem_singleton.1 member
      exact List.Subset.refl _
    · cases member
  · cases List.mem_singleton.1 member
    exact List.subset_cons_self _ _
  · rcases List.mem_cons.1 member with rfl | other
    · exact List.Subset.refl _
    · cases List.mem_singleton.1 other
      exact List.Subset.refl _
  · cases member

end Steps

section Starts

/-- A position has been noted as the start of the match. -/
def Started (slots : List (Nat × Nat)) : Prop := ∃ start, (0, start) ∈ slots

theorem Started.slot? {m : Match} (started : Started m.slots) : ∃ start, m.slot? 0 = some start := by
  obtain ⟨start, member⟩ := started
  have noted : (m.slots.find? (·.1 == 0)).isSome := List.find?_isSome.2 ⟨_, member, rfl⟩
  obtain ⟨slot, found⟩ := Option.isSome_iff_exists.1 noted
  exact ⟨slot.2, by rw [Match.slot?, found, Option.map_some]⟩

/-- No step of a walk forgets a start. -/
private theorem started_of_walk {fuel : Nat} {waiting : List Thread} {visited : Std.HashSet Nat}
    {m : Match} (started : ∀ t ∈ waiting, Started t.slots)
    (found : (walk code text fuel waiting visited).1 = some m) : Started m.slots := by
  induction fuel generalizing waiting visited with
  | zero => cases found
  | succ fuel ih =>
    cases waiting with
    | nil => cases found
    | cons t waiting =>
      obtain ⟨here, later⟩ := List.forall_mem_cons.1 started
      rw [walk_cons] at found
      split at found
      · exact ih later found
      · split at found
        · cases found
          exact here
        · refine ih (List.forall_mem_append.2 ⟨fun next member => ?_, later⟩) found
          exact here.imp fun start noted => slots_subset_of_mem_successors member noted

/-- The instructions begin with the mark of the start. -/
theorem Program.start_ofNode (node : Node) :
    ∃ body, (ofNode node).code[(ofNode node).start]? = some (.mark 0 body) :=
  let before := (do emitNode node (← emit (.mark 1 (← emit .accept))) : Emit Nat).run #[]
  ⟨before.1, Array.getElem?_push_size⟩

private theorem started_of_searchFrom {node : Node} {count position : Nat}
    {visited : Std.HashSet Nat}
    {m : Match} (found : searchFrom ⟨.ofNode node⟩ text count position visited = some m) :
    Started m.slots := by
  induction count generalizing position visited with
  | zero => cases found
  | succ count ih =>
    unfold searchFrom at found
    dsimp only at found
    split at found
    · rename_i m' visited' walked
      cases found
      obtain ⟨body, marks⟩ := Program.start_ofNode node
      have first := congrArg Prod.fst walked
      rw [walk_cons] at first
      split at first
      · cases first
      · rw [Thread.accepts, Thread.successors, marks] at first
        refine started_of_walk (fun t member => ?_) first
        cases List.mem_singleton.1 member
        exact ⟨position, List.mem_cons_self⟩
    · exact ih found

end Starts

section Following

/-- A walk with the visited pairs in a list. -/
def follow (code : Array Instruction) (text : Array Char) :
    (fuel : Nat) → List Thread → List Nat → Option Match × List Nat
  | 0, _, seen => (none, seen)
  | _ + 1, [], seen => (none, seen)
  | fuel + 1, t :: waiting, seen =>
    if seen.contains (t.key text) then follow code text fuel waiting seen
    else if t.accepts code then (some ⟨t.slots⟩, t.key text :: seen)
    else follow code text fuel (t.successors code text ++ waiting) (t.key text :: seen)

def followFrom (program : Program) (text : Array Char) :
    (count position : Nat) → List Nat → Option Match
  | 0, _, _ => none
  | count + 1, position, seen =>
    let fuel := 2 * program.code.size * (text.size + 1) + 2
    match follow program.code text fuel [⟨program.start, position, []⟩] seen with
    | (some m, _) => some m
    | (none, seen) => followFrom program text count (position + 1) seen

/-- The first match of a program in a text. -/
def Program.first? (program : Program) (text : Array Char) : Option Match :=
  followFrom program text (text.size + 1) 0 []

/-- The same pairs have been visited. -/
def SameVisits (visited : Std.HashSet Nat) (seen : List Nat) : Prop :=
  ∀ key, visited.contains key = seen.contains key

theorem walk_eq_follow (fuel : Nat) (waiting : List Thread) {visited : Std.HashSet Nat}
    {seen : List Nat} (same : SameVisits visited seen) :
    (walk code text fuel waiting visited).1 = (follow code text fuel waiting seen).1 ∧
      SameVisits (walk code text fuel waiting visited).2 (follow code text fuel waiting seen).2 := by
  induction fuel generalizing waiting visited seen with
  | zero => exact ⟨rfl, same⟩
  | succ fuel ih =>
    cases waiting with
    | nil => exact ⟨rfl, same⟩
    | cons t waiting =>
      have visit : SameVisits (visited.insert (t.key text)) (t.key text :: seen) := by
        intro key
        rw [Std.HashSet.contains_insert, List.contains_cons, same key, Bool.beq_comm]
      rw [walk_cons, follow, same (t.key text)]
      split
      · exact ih waiting same
      · split
        · exact ⟨rfl, visit⟩
        · exact ih _ visit

theorem searchFrom_eq_followFrom (program : Program) (count position : Nat)
    {visited : Std.HashSet Nat} {seen : List Nat} (same : SameVisits visited seen) :
    searchFrom ⟨program⟩ text count position visited =
      followFrom program text count position seen := by
  induction count generalizing position visited seen with
  | zero => rfl
  | succ count ih =>
    let fuel := 2 * program.code.size * (text.size + 1) + 2
    obtain ⟨found, visits⟩ := walk_eq_follow fuel [⟨program.start, position, []⟩] same
    unfold searchFrom followFrom
    dsimp only
    generalize walk program.code text fuel [⟨program.start, position, []⟩] visited = walked at *
    generalize follow program.code text fuel [⟨program.start, position, []⟩] seen = followed at *
    obtain ⟨m, visited'⟩ := walked
    obtain ⟨m', seen'⟩ := followed
    cases found
    cases m with
    | some m => rfl
    | none => exact ih (position + 1) visits

theorem findAt?_eq_first? (program : Program) (text : Array Char) :
    findAt? ⟨program⟩ text 0 = program.first? text :=
  searchFrom_eq_followFrom program _ 0 fun key => by simp

/-- A pattern as it is read, whatever space it takes. -/
def Node.parsed? (pattern : String) : Option Node :=
  let chars := pattern.toList
  ((branches (2 * chars.length + 2)).run { rest := chars }).map fun read =>
    (alternativesNode read.1).1

/-- The first match of a pattern, whatever space it takes. -/
def first? (pattern : String) (text : Array Char) : Option Match :=
  (Node.parsed? pattern).bind fun node => (Program.ofNode node).first? text

theorem Node.parsed?_of_read? {pattern : String} {node : Node} (read : read? pattern = some node) :
    parsed? pattern = some node := by
  unfold read? at read
  unfold parsed?
  dsimp only at read ⊢
  split at read
  · rename_i parts r parsed
    rw [parsed]
    split at read
    · cases read
      rfl
    · cases read
  · cases read

theorem findAt?_of_compile? {pattern : String} {re : Regex} (compiled : compile? pattern = some re) :
    re.findAt? text 0 = first? pattern text := by
  obtain ⟨node, read, rfl⟩ := Option.map_eq_some_iff.1 compiled
  rw [first?, Node.parsed?_of_read? read, Option.bind_some, findAt?_eq_first?]

end Following

section Openings

theorem CharSet.mem_single {c : Char} (below : c.toNat < CharSet.last) (n : Nat) :
    (CharSet.single c).mem n = decide (n = c.toNat) := by
  have points : CharSet.single c = ⟨#[c.toNat, c.toNat + 1]⟩ := by
    rw [single, range, if_neg (Nat.lt_irrefl _), if_neg (Nat.not_le.2 below)]
  rw [points, CharSet.mem, CharTable.member]
  -- Two halvings settle the place of a number among two points.
  have count : CharTable.countUpTo (fun i => (#[c.toNat, c.toNat + 1] : Array Nat).getD i 0) n 32 0 2 =
      if c.toNat + 1 ≤ n then 2 else if c.toNat ≤ n then 1 else 0 := by
    simp [CharTable.countUpTo]
  change (CharTable.countUpTo _ n 32 0 2 % 2 == 1) = _
  rw [count]
  rcases Nat.lt_trichotomy n c.toNat with less | rfl | more
  · rw [if_neg (by omega), if_neg (by omega)]
    exact (decide_eq_false (Nat.ne_of_lt less)).symm
  · rw [if_neg (by omega), if_pos (Nat.le_refl _)]
    exact (decide_eq_true rfl).symm
  · rw [if_pos (Nat.succ_le_of_lt more)]
    exact (decide_eq_false (Nat.ne_of_gt more)).symm

/-- The characters with which a match has to begin, if the instructions say so at once. -/
def Program.opening? (program : Program) : Option CharSet :=
  match program.code[program.start]? with
  | some (.mark _ body) =>
    match program.code[body]? with
    | some (.consume chars _) => some chars
    | _ => none
  | _ => none

theorem Program.opening?_eq_some {program : Program} {chars : CharSet}
    (opens : program.opening? = some chars) : ∃ slot body next,
      program.code[program.start]? = some (.mark slot body) ∧
      program.code[body]? = some (.consume chars next) := by
  unfold opening? at opens
  split at opens
  · rename_i slot body marks
    split at opens
    · rename_i next consumes
      cases opens
      exact ⟨slot, body, next, marks, consumes⟩
    · cases opens
  · cases opens

theorem follow_nil (code : Array Instruction) (fuel : Nat) (seen : List Nat) :
    (follow code text fuel [] seen).1 = none := by
  cases fuel <;> rfl

/-- A thread that neither accepts nor goes on ends the search. -/
theorem follow_stuck {code : Array Instruction} {t : Thread} (refuses : t.accepts code = false)
    (stuck : ∀ fuel seen, (follow code text fuel (t.successors code text) seen).1 = none)
    (fuel : Nat) (seen : List Nat) : (follow code text fuel [t] seen).1 = none := by
  cases fuel with
  | zero => rfl
  | succ fuel =>
    rw [follow, refuses, if_neg Bool.false_ne_true, List.append_nil]
    split
    · exact follow_nil code fuel seen
    · exact stuck fuel _

/-- A program finds nothing in a text without the characters that a match begins with. -/
theorem Program.first?_eq_none {program : Program} {chars : CharSet}
    (opens : program.opening? = some chars)
    (absent : ∀ c ∈ text.toList, chars.mem c.toNat = false) : program.first? text = none := by
  obtain ⟨slot, body, next, marks, consumes⟩ := opening?_eq_some opens
  have stuck (position : Nat) (slots : List (Nat × Nat)) (fuel : Nat) (seen : List Nat) :
      (follow program.code text fuel [⟨body, position, slots⟩] seen).1 = none := by
    refine follow_stuck (by rw [Thread.accepts, consumes]) (fun fuel seen => ?_) fuel seen
    have refused : (text[position]?).any (fun c => chars.mem c.toNat) = false := by
      cases here : text[position]? with
      | none => rfl
      | some c => exact absent c (Array.mem_toList_iff.2 (Array.mem_of_getElem? here))
    rw [Thread.successors, consumes]
    dsimp only
    rw [refused, if_neg Bool.false_ne_true]
    exact follow_nil program.code fuel seen
  have nowhere (count position : Nat) (seen : List Nat) :
      followFrom program text count position seen = none := by
    induction count generalizing position seen with
    | zero => rfl
    | succ count ih =>
      have none : (follow program.code text (2 * program.code.size * (text.size + 1) + 2)
          [⟨program.start, position, []⟩] seen).1 = none := by
        refine follow_stuck (by rw [Thread.accepts, marks]) (fun fuel seen => ?_) _ seen
        rw [Thread.successors, marks]
        exact stuck position _ fuel seen
      rw [followFrom]
      split
      · rename_i found
        rw [found] at none
        cases none
      · exact ih (position + 1) _
  exact nowhere _ 0 []

theorem first?_eq_none {pattern : String} {chars : CharSet}
    (opens : ((Node.parsed? pattern).bind fun node => (Program.ofNode node).opening?) = some chars)
    (absent : ∀ c ∈ text.toList, chars.mem c.toNat = false) : first? pattern text = none := by
  obtain ⟨node, parsed, opens⟩ := Option.bind_eq_some_iff.1 opens
  rw [first?, parsed, Option.bind_some, Program.first?_eq_none opens absent]

end Openings

end Regex

namespace Pattern

open Regex (CharSet Node Program)

variable {limits : PatternLimits} {pattern text : String} {re : Regex}

private theorem exists_node_of_compile (compiled : compile limits pattern = .ok re) :
    ∃ node, re = ⟨.ofNode node⟩ := by
  unfold compile at compiled
  split at compiled
  · cases compiled
  · split at compiled
    · rename_i re' read
      cases compiled
      obtain ⟨node, -, rfl⟩ := Option.map_eq_some_iff.1 read
      exact ⟨node, rfl⟩
    · cases compiled

theorem isMatch_eq_ok_iff {answer : Bool} : isMatch limits pattern text = .ok answer ↔
    ∃ re, compile limits pattern = .ok re ∧ re.isMatch text = answer := by
  unfold isMatch
  cases compile limits pattern with
  | error why => simp [Except.map]
  | ok re => simp [Except.map]

/-- A pattern is found on no line exactly if it does not match. -/
theorem findLine_eq_none_iff :
    findLine limits pattern text = .ok none ↔ isMatch limits pattern text = .ok false := by
  unfold findLine isMatch
  cases compiled : compile limits pattern with
  | error why => simp [Except.map]
  | ok re =>
    obtain ⟨node, rfl⟩ := exists_node_of_compile compiled
    simp only [Except.map, Except.ok.injEq, Regex.isMatch]
    cases found : Regex.find? ⟨.ofNode node⟩ text with
    | none => simp
    | some m =>
      obtain ⟨start, noted⟩ := (Regex.started_of_searchFrom found).slot?
      simp [noted]

/-- Neither shape that explodes under backtracking is in a pattern. -/
structure Tame (pattern : String) : Prop where
  nested : (Regex.first? "\\((?:[^()\\\\]|\\\\.)*[+*]\\??\\)\\s*[+*\x7b]"
    pattern.toList.toArray).isNone = true
  branched : (Regex.first? "\\(([^()|]+)\\|([^()|]+)\\)[+*]" pattern.toList.toArray).isNone = true

/-- Both shapes begin with a group, so a pattern without groups is tame. -/
theorem Tame.of_ungrouped {pattern : String} (ungrouped : '(' ∉ pattern.toList) : Tame pattern := by
  have absent : ∀ c ∈ pattern.toList.toArray.toList, (CharSet.single '(').mem c.toNat = false := by
    intro c member
    rw [CharSet.mem_single (by decide), decide_eq_false_iff_not]
    intro same
    exact ungrouped (Char.toNat_inj.1 same ▸ by simpa using member)
  constructor
  · rw [Option.isNone_iff_eq_none]
    exact Regex.first?_eq_none (by decide +kernel) absent
  · rw [Option.isNone_iff_eq_none]
    exact Regex.first?_eq_none (by decide +kernel) absent

private theorem screen_eq_ok (short : pattern.utf8ByteSize ≤ limits.maxLength)
    (tame : Tame pattern) :
    screen limits pattern = .ok () := by
  have noNested : nestedShape? pattern.toList.toArray = none := by
    unfold nestedShape?
    cases known : nestedQuantifier with
    | none => rfl
    | some re =>
      unfold nestedQuantifier at known
      rw [Option.bind_some, Regex.findAt?_of_compile? known,
        Option.isNone_iff_eq_none.1 tame.nested, Option.bind_none]
  have noBranched : branchShape? pattern.toList.toArray = none := by
    unfold branchShape?
    cases known : quantifiedAlternation with
    | none => rfl
    | some re =>
      have none : re.allMatches pattern.toList.toArray = [] := by
        unfold quantifiedAlternation at known
        rw [Regex.allMatches, Regex.matchesFrom, Regex.findAt?_of_compile? known,
          Option.isNone_iff_eq_none.1 tame.branched]
      dsimp only
      rw [none, List.findSome?_nil]
  rw [screen, if_neg (Nat.not_lt.2 short)]
  dsimp only
  rw [noNested, noBranched, Option.or_none]

/-- A pattern without such shapes is searched for as it is read. -/
private theorem compile_of_read {node : Node} (short : pattern.utf8ByteSize ≤ limits.maxLength)
    (tame : Tame pattern) (read : Node.read? pattern = some node) :
    compile limits pattern = .ok ⟨.ofNode node⟩ := by
  rw [compile, screen_eq_ok short tame, Regex.compile?, read]
  rfl

/-- A pattern that reads as its own letters is searched for as those. -/
theorem compile_text (short : pattern.utf8ByteSize ≤ limits.maxLength) (tame : Tame pattern)
    (read : Node.read? pattern = some (.text pattern.toList)) :
    compile limits pattern = .ok ⟨.ofNode (.text pattern.toList)⟩ :=
  compile_of_read short tame read

theorem findLine_ofNode {node : Node} (compiled : compile limits pattern = .ok ⟨.ofNode node⟩)
    (text : String) : findLine limits pattern text =
      .ok (((Program.ofNode node).first? text.toList.toArray).bind fun m =>
        (m.slot? 0).map (Text.lineAt text)) := by
  rw [findLine, compiled, ← Regex.findAt?_eq_first?]
  rfl

theorem isMatch_ofNode (node : Node) (text : String) :
    Regex.isMatch ⟨.ofNode node⟩ text = ((Program.ofNode node).first? text.toList.toArray).isSome := by
  rw [Regex.isMatch, Regex.find?, Regex.findAt?_eq_first?]

end Pattern

end Conformance
