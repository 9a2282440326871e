import Conformance.Session
import Mathlib.Data.Finset.Card
import Mathlib.Data.Fintype.Basic
import Mathlib.Logic.Function.Basic

/-! Workers that share what they remember. A call looks its key up, computes a value while others go
on, and inserts it unless another was quicker. In whatever order these steps come, all that succeed
with a key are given one value, the first inserted. -/
namespace Conformance.Memo

/-- A call for the value of a key. The computation of some calls may fail. -/
structure Call (κ : Type) where
  key : κ
  fallible : Bool

/-- Where a worker is with its call. -/
inductive Activity (κ α : Type) where
  | idle
  /-- The look-up found nothing. -/
  | computing (call : Call κ)
  | inserting (key : κ) (value : α)

def Activity.isBusy {κ α : Type} : Activity κ α → Bool
  | idle => false
  | _ => true

/-- Workers with one memo. -/
structure Shared (ω κ α : Type) where
  memo : Memo κ α := {}
  activity : ω → Activity κ α := fun _ => .idle

/-- One step of a worker, with what it found out. -/
inductive Event (ω κ α ε : Type) where
  | hit (worker : ω) (key : κ) (value : α)
  | missed (worker : ω) (key : κ)
  | computed (worker : ω) (key : κ) (value : α)
  | failed (worker : ω) (key : κ) (error : ε)
  /-- The worker came with its own value and left with the stored one. -/
  | inserted (worker : ω) (key : κ) (own stored : α)

namespace Event
variable {ω κ α ε : Type} [DecidableEq κ]

def isHit : Event ω κ α ε → Bool
  | hit .. => true
  | _ => false

def isMiss : Event ω κ α ε → Bool
  | missed .. => true
  | _ => false

/-- What a call comes to, where the step ends one. -/
def outcome? : Event ω κ α ε → Option (κ × Except ε α)
  | hit _ key value => some (key, .ok value)
  | failed _ key error => some (key, .error error)
  | inserted _ key _ stored => some (key, .ok stored)
  | missed .. | computed .. => none

def endsCall (e : Event ω κ α ε) : Bool := e.outcome?.isSome

/-- The value that a worker came to insert for a key. -/
def brought? (key : κ) : Event ω κ α ε → Option α
  | inserted _ other own _ => if other = key then some own else none
  | _ => none

end Event

section Steps

variable {ω κ α ε : Type} [DecidableEq ω] [DecidableEq κ]

/-- One step of one worker, which leaves all others where they are. -/
inductive Step : Shared ω κ α → Event ω κ α ε → Shared ω κ α → Prop where
  | hit {s : Shared ω κ α} {w : ω} (idle : s.activity w = .idle) (call : Call κ) {a : α}
    {memo : Memo κ α} (found : s.memo.lookup call.key = (some a, memo)) :
    Step s (.hit w call.key a) { s with memo }
  | missed {s : Shared ω κ α} {w : ω} (idle : s.activity w = .idle) (call : Call κ)
    {memo : Memo κ α} (absent : s.memo.lookup call.key = (none, memo)) :
    Step s (.missed w call.key)
      { memo, activity := Function.update s.activity w (.computing call) }
  | computed {s : Shared ω κ α} {w : ω} (call : Call κ)
    (busy : s.activity w = .computing call) (a : α) :
    Step s (.computed w call.key a)
      { s with activity := Function.update s.activity w (.inserting call.key a) }
  | failed {s : Shared ω κ α} {w : ω} (call : Call κ) (busy : s.activity w = .computing call)
    (fallible : call.fallible = true) (error : ε) :
    Step s (.failed w call.key error)
      { s with activity := Function.update s.activity w .idle }
  | inserted {s : Shared ω κ α} {w : ω} {key : κ} {a : α}
    (busy : s.activity w = .inserting key a) :
    Step s (.inserted w key a (s.memo.insertOrGet key a).1)
      { memo := (s.memo.insertOrGet key a).2
        activity := Function.update s.activity w .idle }

/-- Steps of any workers in any order, the latest first. -/
inductive Steps (s : Shared ω κ α) : List (Event ω κ α ε) → Shared ω κ α → Prop where
  | none : Steps s [] s
  | next {log : List (Event ω κ α ε)} {s' s'' : Shared ω κ α} {e : Event ω κ α ε}
    (before : Steps s log s') (step : Step s' e s'') : Steps s (e :: log) s''

end Steps

/-- The value of the first insertion for a key. -/
def firstBrought? {ω κ α ε : Type} [DecidableEq κ] (log : List (Event ω κ α ε)) (key : κ) :
    Option α :=
  (log.filterMap (Event.brought? key)).getLast?

section Memo

variable {κ α : Type} [DecidableEq κ] (m : Memo κ α) (key : κ)

theorem lookup_some {m' : Memo κ α} {a : α} (looked : m.lookup key = (some a, m')) :
    m.find? key = some a ∧ m' = { m with hits := m.hits + 1 } := by
  unfold lookup at looked
  split at looked <;> cases looked
  exact ⟨‹_›, rfl⟩

theorem lookup_none {m' : Memo κ α} (looked : m.lookup key = (none, m')) :
    m.find? key = none ∧ m' = { m with misses := m.misses + 1 } := by
  unfold lookup at looked
  split at looked <;> cases looked
  exact ⟨‹_›, rfl⟩

private theorem insertOrGet_fst (a : α) : (m.insertOrGet key a).1 = (m.find? key).getD a := by
  unfold insertOrGet
  cases m.find? key <;> rfl

theorem find?_insertOrGet (a : α) (other : κ) : (m.insertOrGet key a).2.find? other =
    (m.find? other).or (if key = other then some a else none) := by
  unfold insertOrGet
  by_cases same : key = other
  · subst same
    cases found : m.find? key with
    | some b => simp [found]
    | none =>
      have absent : m.entries.find? (fun entry => entry.1 = key) = none := by
        simpa [find?] using found
      simp [find?, List.find?_append, absent]
  · cases m.find? key with
    | some b => simp [same]
    | none => simp [find?, List.find?_append, same]

private theorem length_insertOrGet (a : α) :
    (m.insertOrGet key a).2.entries.length ≤ m.entries.length + 1 := by
  unfold insertOrGet
  cases m.find? key <;> simp

private theorem insertOrGet_misses (a : α) : (m.insertOrGet key a).2.misses = m.misses := by
  unfold insertOrGet
  cases m.find? key <;> rfl

private theorem insertOrGet_hits (a : α) : (m.insertOrGet key a).2.hits = m.hits := by
  unfold insertOrGet
  cases m.find? key <;> rfl

end Memo

section Step

variable {ω κ α ε : Type} [DecidableEq ω] [DecidableEq κ] {s s' : Shared ω κ α}
  {e : Event ω κ α ε}

/-- Only insertions bring values in, and none takes the place of another. -/
theorem Step.find?_eq (step : Step s e s') (key : κ) :
    s'.memo.find? key = (s.memo.find? key).or (e.brought? key) := by
  cases step with
  | hit idle call found =>
    obtain ⟨-, rfl⟩ := lookup_some _ _ found
    exact Option.or_none.symm
  | missed idle call absent =>
    obtain ⟨-, rfl⟩ := lookup_none _ _ absent
    exact Option.or_none.symm
  | computed call busy a => exact Option.or_none.symm
  | failed call busy fallible error => exact Option.or_none.symm
  | inserted busy => exact find?_insertOrGet s.memo _ _ key

/-- A call that succeeds is given what is remembered from then on. -/
theorem Step.remembered (step : Step s e s') {key : κ} {a : α}
    (given : e.outcome? = some (key, .ok a)) : s'.memo.find? key = some a := by
  cases step with
  | hit idle call found =>
    cases given
    obtain ⟨there, rfl⟩ := lookup_some _ _ found
    exact there
  | missed => cases given
  | computed => cases given
  | failed => cases given
  | inserted busy =>
    cases given
    rw [insertOrGet_fst, find?_insertOrGet, if_pos rfl]
    cases s.memo.find? key <;> rfl

theorem Step.hits_eq (step : Step s e s') : s'.memo.hits = s.memo.hits + e.isHit.toNat := by
  cases step with
  | hit idle call found =>
    obtain ⟨-, rfl⟩ := lookup_some _ _ found
    rfl
  | missed idle call absent =>
    obtain ⟨-, rfl⟩ := lookup_none _ _ absent
    rfl
  | computed => rfl
  | failed => rfl
  | inserted => exact insertOrGet_hits s.memo _ _

theorem Step.misses_eq (step : Step s e s') :
    s'.memo.misses = s.memo.misses + e.isMiss.toNat := by
  cases step with
  | hit idle call found =>
    obtain ⟨-, rfl⟩ := lookup_some _ _ found
    rfl
  | missed idle call absent =>
    obtain ⟨-, rfl⟩ := lookup_none _ _ absent
    rfl
  | computed => rfl
  | failed => rfl
  | inserted => exact insertOrGet_misses s.memo _ _

/-- An entry is new only where a call ends that found none. -/
theorem Step.size_le (step : Step s e s') :
    s'.memo.size + e.isHit.toNat ≤ s.memo.size + e.endsCall.toNat := by
  cases step with
  | hit idle call found =>
    obtain ⟨-, rfl⟩ := lookup_some _ _ found
    exact Nat.le_refl _
  | missed idle call absent =>
    obtain ⟨-, rfl⟩ := lookup_none _ _ absent
    exact Nat.le_refl _
  | computed => exact Nat.le_refl _
  | failed => exact Nat.le_succ _
  | inserted => exact length_insertOrGet s.memo _ _

end Step

section Busy

variable {ω κ α : Type} [Fintype ω] [DecidableEq ω]

/-- The workers that looked up in vain and are not done yet. -/
def busy (activity : ω → Activity κ α) : Finset ω :=
  Finset.univ.filter fun w => (activity w).isBusy

variable {activity : ω → Activity κ α} {w : ω}

omit [DecidableEq ω] in
theorem mem_busy : w ∈ busy activity ↔ (activity w).isBusy = true := by
  simp [busy]

theorem mem_busy_update {next : Activity κ α} {v : ω} :
    v ∈ busy (Function.update activity w next) ↔
      if v = w then next.isBusy = true else v ∈ busy activity := by
  rw [mem_busy, Function.update_apply]
  split
  · rfl
  · rw [mem_busy]

private theorem card_busy_begin {next : Activity κ α} (begins : next.isBusy = true)
    (idle : (activity w).isBusy = false) :
    (busy (Function.update activity w next)).card = (busy activity).card + 1 := by
  have free : w ∉ busy activity := by
    rw [mem_busy, idle]
    exact Bool.false_ne_true
  have joined : busy (Function.update activity w next) = insert w (busy activity) := by
    ext v
    rw [mem_busy_update, Finset.mem_insert]
    by_cases same : v = w
    · simp [same, begins]
    · simp [same]
  rw [joined, Finset.card_insert_of_notMem free]

private theorem busy_goes_on {next : Activity κ α} (goesOn : next.isBusy = true)
    (works : (activity w).isBusy = true) :
    busy (Function.update activity w next) = busy activity := by
  ext v
  rw [mem_busy_update]
  by_cases same : v = w
  · simp [same, goesOn, mem_busy, works]
  · simp [same]

theorem card_busy_end (works : (activity w).isBusy = true) :
    (busy (Function.update activity w .idle)).card + 1 = (busy activity).card := by
  have left : busy (Function.update activity w .idle) = (busy activity).erase w := by
    ext v
    rw [mem_busy_update, Finset.mem_erase]
    by_cases same : v = w
    · simp [same, Activity.isBusy]
    · simp [same]
  rw [left, Finset.card_erase_add_one (mem_busy.2 works)]

/-- A call is under way from its look-up to its end. -/
theorem Step.busy_eq [DecidableEq κ] {ε : Type} {s s' : Shared ω κ α} {e : Event ω κ α ε}
    (step : Step s e s') : (busy s'.activity).card + e.endsCall.toNat =
      (busy s.activity).card + e.isHit.toNat + e.isMiss.toNat := by
  cases step with
  | hit => rfl
  | missed idle call =>
    have begins : (Activity.computing call : Activity κ α).isBusy = true := rfl
    exact card_busy_begin begins (congrArg Activity.isBusy idle)
  | computed call working a =>
    have goesOn : (Activity.inserting call.key a).isBusy = true := rfl
    exact congrArg Finset.card (busy_goes_on goesOn (congrArg Activity.isBusy working))
  | failed call working => exact card_busy_end (congrArg Activity.isBusy working)
  | inserted working => exact card_busy_end (congrArg Activity.isBusy working)

end Busy

section Runs

variable {ω κ α ε : Type} [DecidableEq ω] [DecidableEq κ] {s s' : Shared ω κ α}
  {log : List (Event ω κ α ε)}

omit [DecidableEq ω] in
theorem firstBrought?_cons (e : Event ω κ α ε) (key : κ) :
    firstBrought? (e :: log) key = (firstBrought? log key).or (e.brought? key) := by
  unfold firstBrought?
  rw [List.filterMap_cons]
  cases e.brought? key with
  | none => simp
  | some own =>
    rw [List.getLast?_cons]
    cases (log.filterMap (Event.brought? key)).getLast? <;> rfl

/-- What is remembered was there before, or was inserted first. -/
theorem Steps.find?_eq (steps : Steps s log s') (key : κ) :
    s'.memo.find? key = (s.memo.find? key).or (firstBrought? log key) := by
  induction steps with
  | none => simp [firstBrought?]
  | next before step ih => rw [step.find?_eq, ih, firstBrought?_cons, Option.or_assoc]

/-- A stored value stays. -/
theorem Steps.keeps (steps : Steps s log s') {key : κ} {a : α} (found : s.memo.find? key = some a) :
    s'.memo.find? key = some a := by
  rw [steps.find?_eq, found, Option.some_or]

theorem Steps.remembered (steps : Steps s log s') {e : Event ω κ α ε} (member : e ∈ log) {key : κ}
    {a : α} (given : e.outcome? = some (key, .ok a)) : s'.memo.find? key = some a := by
  induction steps with
  | none => cases member
  | next before step ih =>
    rcases List.mem_cons.1 member with rfl | earlier
    · exact step.remembered given
    · rw [step.find?_eq, ih earlier, Option.some_or]

/-- Each look-up goes with a call, over or under way. -/
theorem Steps.lookups_eq [Fintype ω] (steps : Steps s log s') :
    s'.memo.hits + s'.memo.misses + (busy s.activity).card =
      s.memo.hits + s.memo.misses + log.countP Event.endsCall + (busy s'.activity).card := by
  induction steps with
  | none => rfl
  | @next log s' s'' e before step ih =>
    have once :
        log.countP Event.endsCall + e.endsCall.toNat = (e :: log).countP Event.endsCall := by
      rw [List.countP_cons, Bool.toNat, Bool.cond_eq_ite]
    rw [step.hits_eq, step.misses_eq, ← once]
    have underWay := step.busy_eq
    omega

/-- Every entry, and every value on its way, goes back to a look-up of its own that found
nothing. -/
theorem Steps.within_misses [Fintype ω] (steps : Steps s log s')
    (within : s.memo.size + (busy s.activity).card ≤ s.memo.misses) :
    s'.memo.size + (busy s'.activity).card ≤ s'.memo.misses := by
  induction steps with
  | none => exact within
  | next before step ih =>
    rw [step.misses_eq]
    have underWay := step.busy_eq
    have stored := step.size_le
    omega

/-- A call that meets no others comes to what the memo gives in one go. -/
theorem call_alone {w : ω} (idle : s.activity w = .idle) (call : Call κ)
    (compute : Unit → Except ε α) (may : call.fallible = true ∨ ∃ a, compute () = .ok a) :
    ∃ (e : Event ω κ α ε) (log : List (Event ω κ α ε)) (s' : Shared ω κ α),
      Steps s (e :: log) s' ∧
      e.outcome? = some (call.key, (s.memo.getOrTryInsert call.key compute).1) ∧
      s'.memo = (s.memo.getOrTryInsert call.key compute).2 := by
  unfold getOrTryInsert
  rcases looked : s.memo.lookup call.key with ⟨_ | a, memo⟩
  · have misses : Step s (.missed w call.key : Event ω κ α ε) _ := .missed idle call looked
    have works : (Shared.mk memo (Function.update s.activity w (.computing call))).activity w =
        .computing call := Function.update_self ..
    cases given : compute () with
    | error error =>
      have fallible : call.fallible = true := by
        rcases may with fallible | ⟨a, ok⟩
        · exact fallible
        · cases given.symm.trans ok
      exact ⟨_, _, _, .next (.next .none misses) (.failed call works fallible error), rfl, rfl⟩
    | ok a =>
      have brings : (Shared.mk memo (Function.update
          (Function.update s.activity w (.computing call)) w (.inserting call.key a))).activity w =
          .inserting call.key a := Function.update_self ..
      have done := (Steps.none.next misses).next (.computed call works a)
      exact ⟨_, _, _, done.next (.inserted brings), rfl, rfl⟩
  · exact ⟨_, _, _, .next .none (.hit idle call looked), rfl, rfl⟩

end Runs

private theorem getOrTryInsert_ok {κ α ε : Type} [DecidableEq κ] (m : Memo κ α) (key : κ) (a : α) :
    m.getOrTryInsert key (fun _ => (.ok a : Except ε α)) =
      (.ok (m.getOrInsert key fun _ => a).1, (m.getOrInsert key fun _ => a).2) := by
  unfold getOrTryInsert getOrInsert
  rcases m.lookup key with ⟨_ | b, m'⟩
  · rfl
  · rfl

/-- The first value inserted for a key is what all calls with the key are given, whatever the workers
compute and in whatever order they go, and a failure leaves nothing behind. -/
theorem first_inserted_value_wins {ω κ α ε : Type} [Fintype ω] [DecidableEq ω] [DecidableEq κ]
    {log : List (Event ω κ α ε)} {s : Shared ω κ α} (reached : Steps {} log s) :
    (∀ e ∈ log, ∀ key a, e.outcome? = some (key, .ok a) → firstBrought? log key = some a) ∧
    (∀ key, s.memo.find? key = firstBrought? log key) ∧
    (∀ (later : List (Event ω κ α ε)) s', Steps s later s' →
      ∀ key a, s.memo.find? key = some a → s'.memo.find? key = some a) ∧
    (∀ w key (error : ε) s', Step s (.failed w key error) s' →
      s'.memo = s.memo ∧ s'.activity w = .idle) ∧
    (∀ w (call : Call κ) a, s.activity w = .idle →
      ∃ (e : Event ω κ α ε) (later : List (Event ω κ α ε)) (s' : Shared ω κ α),
        Steps s (e :: later) s' ∧
        e.outcome? = some (call.key, .ok (s.memo.getOrInsert call.key fun _ => a).1) ∧
        s'.memo = (s.memo.getOrInsert call.key fun _ => a).2) ∧
    s.memo.hits + s.memo.misses = log.countP Event.endsCall + (busy s.activity).card ∧
    s.memo.size ≤ s.memo.misses := by
  have nobody : busy ({} : Shared ω κ α).activity = ∅ := by
    simp [busy, Activity.isBusy]
  have holds (key : κ) : s.memo.find? key = firstBrought? log key := by
    rw [reached.find?_eq key]
    exact Option.none_or
  refine ⟨?_, holds, ?_, ?_, ?_, ?_, ?_⟩
  · intro e member key a given
    rw [← holds]
    exact reached.remembered member given
  · intro later s' steps key a found
    exact steps.keeps found
  · intro w key error s' step
    cases step with
    | failed call busy fallible => exact ⟨rfl, Function.update_self ..⟩
  · intro w call a idle
    have alone := call_alone (ε := ε) idle call (fun _ => .ok a) (.inr ⟨a, rfl⟩)
    rw [getOrTryInsert_ok] at alone
    exact alone
  · have counted := reached.lookups_eq
    rw [nobody] at counted
    exact counted.trans (congrArg (· + _) (Nat.zero_add _))
  · have within := reached.within_misses (by rw [nobody]; exact Nat.le_refl _)
    omega

namespace Race

/-- Two workers compute for one key. The second is done first; then the first is given its value,
and so is a later call. -/
def log : List (Event (Fin 2) String Nat String) := [
  .hit 0 "a.ts" 2, .inserted 0 "a.ts" 1 2, .inserted 1 "a.ts" 2 2, .computed 0 "a.ts" 1,
  .computed 1 "a.ts" 2, .missed 1 "a.ts", .missed 0 "a.ts", .failed 0 "a.ts" "denied",
  .missed 0 "a.ts"]

def call : Call String := { key := "a.ts", fallible := true }

theorem reached : ∃ s : Shared (Fin 2) String Nat, Steps {} log s := by
  have refused : Steps ({} : Shared (Fin 2) String Nat) (log.drop 7) _ :=
    .next (.next .none (.missed rfl call rfl)) (.failed call rfl rfl "denied")
  have both : Steps ({} : Shared (Fin 2) String Nat) (log.drop 5) _ :=
    .next (.next refused (.missed rfl call rfl)) (.missed rfl call rfl)
  have computed : Steps ({} : Shared (Fin 2) String Nat) (log.drop 3) _ :=
    .next (.next both (.computed call rfl 2)) (.computed call rfl 1)
  have stored : Steps ({} : Shared (Fin 2) String Nat) (log.drop 1) _ :=
    .next (.next computed (.inserted rfl)) (.inserted rfl)
  exact ⟨_, .next stored (.hit rfl call rfl)⟩

end Race

theorem slower_worker_gets_the_first_value : ∃ s : Shared (Fin 2) String Nat,
    Steps {} Race.log s ∧
    (∀ e ∈ Race.log, ∀ a, e.outcome? = some ("a.ts", .ok a) → a = 2) ∧
    s.memo.find? "a.ts" = some 2 ∧
    s.memo.hits + s.memo.misses = 4 + (busy s.activity).card ∧
    s.memo.size ≤ s.memo.misses := by
  obtain ⟨s, reached⟩ := Race.reached
  obtain ⟨agree, holds, _, _, _, counted, within⟩ := first_inserted_value_wins reached
  have first : firstBrought? Race.log "a.ts" = some 2 := rfl
  refine ⟨s, reached, ?_, (holds "a.ts").trans first, counted, within⟩
  intro e member a given
  exact Option.some.inj ((agree e member "a.ts" a given).symm.trans first)

end Conformance.Memo
