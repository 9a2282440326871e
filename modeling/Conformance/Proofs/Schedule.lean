import Conformance.Proofs.Dict
import Conformance.Schedule

/-! A scheduler under any sequence of calls. What it holds can be told from the log of the calls
and their answers, so which result of a path wins does not depend on how checks overlap: the one
whose ticket was handed out after the last change. -/
namespace Conformance.Scheduler

/-- One call and what came of it. -/
inductive Event where
  | notified (path : String) (time : Nat)
  | issued (tickets : List Ticket)
  | committed (ticket : Ticket) (result : FileResult) (accepted : Bool)

namespace Event

def isChange (path : String) : Event → Bool
  | notified changed _ => changed = path
  | _ => false

/-- A ticket for the path was handed out. -/
def handsOut (path : String) : Event → Bool
  | issued tickets => tickets.any fun t => t.path = path
  | _ => false

/-- The ticket and the result of an accepted commit for the path. -/
def accepted? (path : String) : Event → Option (Ticket × FileResult)
  | committed ticket result true => if ticket.path = path then some (ticket, result) else none
  | _ => none

def isRefusal : Event → Bool
  | committed _ _ false => true
  | _ => false

theorem accepted?_committed {path : String} {ticket : Ticket} {result : FileResult}
    {accepted : Bool} {entry : Ticket × FileResult} :
    (committed ticket result accepted).accepted? path = some entry ↔
      accepted = true ∧ ticket.path = path ∧ entry = (ticket, result) := by
  cases accepted with
  | false => simp [accepted?]
  | true => simp [accepted?, eq_comm]

end Event

/-- How often a path changed. -/
def changes (log : List Event) (path : String) : Nat := log.countP (Event.isChange path)

/-- The path changed, and no ticket for it was handed out since. -/
def Owed (log : List Event) (path : String) : Prop :=
  ∃ later time earlier, log = later ++ .notified path time :: earlier ∧
    ∀ e ∈ later, e.handsOut path = false

/-- A scheduler and the log that led to it, the latest event first. Calls come in any order and at
any time; only tickets that were handed out are committed, as late and as often as one likes. -/
inductive Reaches (debounce : Nat) : List Event → Scheduler → Prop where
  | start : Reaches debounce [] { debounce }
  | notify {log : List Event} {s : Scheduler} (before : Reaches debounce log s) (path : String)
    (time : Nat) : Reaches debounce (.notified path time :: log) (s.notify path time)
  | due {log : List Event} {s : Scheduler} (before : Reaches debounce log s) (now : Nat) :
    Reaches debounce (.issued (s.due now).1 :: log) (s.due now).2
  | commit {log : List Event} {s : Scheduler} (before : Reaches debounce log s) (ticket : Ticket)
    {tickets : List Ticket} (issued : .issued tickets ∈ log) (member : ticket ∈ tickets)
    (result : FileResult) :
    Reaches debounce (.committed ticket result (s.commit ticket result).1 :: log)
      (s.commit ticket result).2

section Log

variable {log : List Event} {path : String}

@[simp] theorem changes_nil : changes [] path = 0 := rfl

theorem changes_cons (e : Event) :
    changes (e :: log) path = changes log path + if e.isChange path then 1 else 0 :=
  List.countP_cons

@[simp] theorem changes_notified (changed : String) (time : Nat) :
    changes (.notified changed time :: log) path =
      changes log path + if changed = path then 1 else 0 := by
  simp [changes_cons, Event.isChange]

@[simp] theorem changes_issued (tickets : List Ticket) :
    changes (.issued tickets :: log) path = changes log path := by
  simp [changes_cons, Event.isChange]

@[simp] theorem changes_committed (ticket : Ticket) (result : FileResult) (accepted : Bool) :
    changes (.committed ticket result accepted :: log) path = changes log path := by
  simp [changes_cons, Event.isChange]

theorem changes_append (later : List Event) :
    changes (later ++ log) path = changes later path + changes log path :=
  List.countP_append

private theorem changes_eq_zero : changes log path = 0 ↔ ∀ time, .notified path time ∉ log := by
  rw [changes, List.countP_eq_zero]
  constructor
  · intro none time member
    exact none _ member (by simp [Event.isChange])
  · intro none e member change
    cases e with
    | notified changed time =>
      simp only [Event.isChange, decide_eq_true_eq] at change
      subst change
      exact none time member
    | issued => cases change
    | committed => cases change

theorem not_owed_nil : ¬ Owed [] path := by
  rintro ⟨later, time, earlier, split, -⟩
  simp at split

/-- A change is owed a ticket until one is handed out. -/
theorem owed_cons {e : Event} :
    Owed (e :: log) path ↔
      e.isChange path = true ∨ e.handsOut path = false ∧ Owed log path := by
  constructor
  · rintro ⟨later, time, earlier, split, none⟩
    cases later with
    | nil =>
      cases split
      exact .inl (by simp [Event.isChange])
    | cons first later =>
      cases split
      exact .inr ⟨none _ List.mem_cons_self,
        later, time, earlier, rfl, fun e member => none e (List.mem_cons_of_mem _ member)⟩
  · rintro (change | ⟨kept, later, time, earlier, rfl, none⟩)
    · cases e with
      | notified changed time =>
        simp only [Event.isChange, decide_eq_true_eq] at change
        subst change
        exact ⟨[], time, log, rfl, by simp⟩
      | issued => cases change
      | committed => cases change
    · refine ⟨e :: later, time, earlier, rfl, ?_⟩
      intro other member
      rcases List.mem_cons.1 member with rfl | inside
      · exact kept
      · exact none other inside

private theorem changes_pos_of_owed (owed : Owed log path) : 0 < changes log path := by
  obtain ⟨later, time, earlier, rfl, -⟩ := owed
  rw [changes_append, changes_notified, if_pos rfl]
  omega

end Log

section Calls

variable {s : Scheduler} {path : String}

theorem notify_pending (changed : String) (time : Nat) :
    (s.notify changed time).pending.contains path =
      (decide (changed = path) || s.pending.contains path) := by
  by_cases same : changed = path <;> simp [notify, Dict.contains, same]

theorem mem_due {now : Nat} {t : Ticket} :
    t ∈ (s.due now).1 ↔ (∃ last, s.pending.find? t.path = some last ∧ s.isDue now last = true) ∧
      t.generation = (s.generations.find? t.path).getD 0 := by
  simp only [due, List.mem_map, Dict.mem_keys, Dict.find?_filter, Option.isSome_iff_exists,
    Option.filter_eq_some_iff]
  constructor
  · rintro ⟨path, waits, rfl⟩
    exact ⟨waits, rfl⟩
  · rintro ⟨waits, generation⟩
    exact ⟨t.path, waits, by rw [← generation]⟩

private theorem pending_of_mem_due {now : Nat} {t : Ticket} (member : t ∈ (s.due now).1) :
    s.pending.contains t.path = true := by
  obtain ⟨⟨last, waits, -⟩, -⟩ := mem_due.1 member
  simp [Dict.contains, waits]

/-- Handing out takes exactly the paths it hands out from those that wait. -/
theorem due_pending (now : Nat) :
    (s.due now).2.pending.contains path =
      (!(Event.issued (s.due now).1).handsOut path && s.pending.contains path) := by
  have handed : (Event.issued (s.due now).1).handsOut path = true ↔
      ∃ last, s.pending.find? path = some last ∧ s.isDue now last = true := by
    simp only [Event.handsOut, List.any_eq_true, decide_eq_true_eq]
    constructor
    · rintro ⟨t, member, rfl⟩
      exact (mem_due.1 member).1
    · intro waits
      exact ⟨⟨path, (s.generations.find? path).getD 0⟩, mem_due.2 ⟨waits, rfl⟩, rfl⟩
  have kept : (s.due now).2.pending.contains path =
      ((s.pending.find? path).filter fun last => !s.isDue now last).isSome := by
    simp [due, Dict.contains]
  rw [kept, Dict.contains]
  cases waits : s.pending.find? path with
  | none => simp
  | some last =>
    simp only [waits, Option.some.injEq, exists_eq_left'] at handed
    cases ready : s.isDue now last with
    | true =>
      rw [handed.2 ready]
      simp [Option.filter, ready]
    | false =>
      have left : (Event.issued (s.due now).1).handsOut path = false := by
        rw [Bool.eq_false_iff]
        intro taken
        rw [handed.1 taken] at ready
        cases ready
      simp [Option.filter, ready, left]

theorem commit_fst (t : Ticket) (r : FileResult) : (s.commit t r).1 = s.isCurrent t := by
  unfold commit
  cases s.isCurrent t <;> rfl

theorem commit_pending (t : Ticket) (r : FileResult) : (s.commit t r).2.pending = s.pending := by
  unfold commit
  split <;> rfl

theorem commit_generations (t : Ticket) (r : FileResult) :
    (s.commit t r).2.generations = s.generations := by
  unfold commit
  split <;> rfl

end Calls

namespace Reaches
variable {debounce : Nat} {log : List Event} {s : Scheduler}

/-- The generation of a path counts its changes. -/
theorem generations (reached : Reaches debounce log s) (path : String) :
    s.generations.find? path = if changes log path = 0 then none else some (changes log path) := by
  induction reached with
  | start => rfl
  | notify before changed time ih =>
    rw [Scheduler.notify, Dict.find?_insert, changes_notified]
    split
    · rename_i same
      subst same
      rw [ih, if_neg (Nat.succ_ne_zero _)]
      split
      · rename_i first
        rw [first]
        rfl
      · rfl
    · rw [ih, Nat.add_zero]
  | due before now ih => rw [changes_issued, ← ih, Scheduler.due]
  | commit before ticket issued member result ih => rw [changes_committed, commit_generations, ih]

/-- A path waits exactly if it changed and was not handed out since. -/
theorem pending_iff (reached : Reaches debounce log s) (path : String) :
    s.pending.contains path = true ↔ Owed log path := by
  induction reached with
  | start => exact iff_of_false (by simp [Dict.contains]) not_owed_nil
  | notify before changed time ih =>
    rw [notify_pending, owed_cons, ← ih]
    simp [Event.isChange, Event.handsOut]
  | due before now ih =>
    rw [due_pending, owed_cons, ← ih]
    simp [Event.isChange]
  | commit before ticket issued member result ih =>
    rw [commit_pending, owed_cons, ih]
    simp [Event.isChange, Event.handsOut]

/-- A ticket carries the number of changes before it was handed out, and there were some. -/
private theorem generation_of_issued (reached : Reaches debounce log s)
    {between earlier : List Event}
    {tickets : List Ticket} (split : log = between ++ .issued tickets :: earlier) {t : Ticket}
    (member : t ∈ tickets) :
    t.generation = changes earlier t.path ∧ 0 < changes earlier t.path := by
  induction reached generalizing between with
  | start => simp at split
  | notify before changed time ih =>
    cases between with
    | nil => cases split
    | cons first between => exact ih (List.cons.inj split).2
  | due before now ih =>
    cases between with
    | nil =>
      cases split
      have some := changes_pos_of_owed ((before.pending_iff _).1 (pending_of_mem_due member))
      refine ⟨?_, some⟩
      rw [(mem_due.1 member).2, before.generations, if_neg (by omega)]
      rfl
    | cons first between => exact ih (List.cons.inj split).2
  | commit before ticket issued inside result ih =>
    cases between with
    | nil => cases split
    | cons first between => exact ih (List.cons.inj split).2

/-- A ticket that was handed out is current as long as its path does not change. -/
theorem isCurrent_iff (reached : Reaches debounce log s) {between earlier : List Event}
    {tickets : List Ticket} (split : log = between ++ .issued tickets :: earlier) {t : Ticket}
    (member : t ∈ tickets) :
    s.isCurrent t = true ↔ ∀ time, .notified t.path time ∉ between := by
  obtain ⟨generation, some⟩ := reached.generation_of_issued split member
  have total : changes log t.path = changes between t.path + t.generation := by
    rw [split, changes_append, changes_issued, generation]
  rw [← changes_eq_zero, isCurrent, decide_eq_true_eq, reached.generations, if_neg (by omega)]
  rw [Option.some.injEq]
  omega

/-- What every commit in the log came to. -/
theorem accepted_iff (reached : Reaches debounce log s) {later between earlier : List Event}
    {t : Ticket} {r : FileResult} {accepted : Bool} {tickets : List Ticket}
    (split : log = later ++ .committed t r accepted :: (between ++ .issued tickets :: earlier))
    (member : t ∈ tickets) : accepted = true ↔ ∀ time, .notified t.path time ∉ between := by
  induction reached generalizing later with
  | start => simp at split
  | notify before changed time ih =>
    cases later with
    | nil => cases split
    | cons first later => exact ih (List.cons.inj split).2
  | due before now ih =>
    cases later with
    | nil => cases split
    | cons first later => exact ih (List.cons.inj split).2
  | commit before ticket issued inside result ih =>
    cases later with
    | nil =>
      obtain ⟨same, rest⟩ := List.cons.inj split
      cases same
      rw [commit_fst]
      exact before.isCurrent_iff rest member
    | cons first later => exact ih (List.cons.inj split).2

/-- The generation of a ticket whose result is accepted is the number of changes so far. -/
theorem generation_of_current (reached : Reaches debounce log s) {t : Ticket}
    (current : s.isCurrent t = true) : t.generation = changes log t.path := by
  rw [isCurrent, decide_eq_true_eq, reached.generations] at current
  split at current
  · cases current
  · exact (Option.some.inj current).symm

/-- What is known of a path is the result that was accepted last. -/
theorem latest?_eq (reached : Reaches debounce log s) (path : String) :
    s.latest? path = (log.findSome? (Event.accepted? path)).map (·.2) := by
  induction reached with
  | start => rfl
  | notify before changed time ih => exact ih
  | due before now ih => exact ih
  | @commit log s before ticket tickets issued member result ih =>
    rw [List.findSome?_cons, commit_fst]
    unfold Scheduler.commit latest?
    cases current : s.isCurrent ticket with
    | false => exact ih
    | true =>
      rw [if_pos rfl, Dict.find?_insert]
      simp only [Event.accepted?]
      split
      · rfl
      · exact ih

theorem superseded_eq (reached : Reaches debounce log s) :
    s.superseded = log.countP Event.isRefusal := by
  induction reached with
  | start => rfl
  | notify before changed time ih => exact ih
  | due before now ih => exact ih
  | @commit log s before ticket tickets issued member result ih =>
    rw [List.countP_cons, commit_fst]
    unfold Scheduler.commit
    cases s.isCurrent ticket with
    | false => exact congrArg (· + 1) ih
    | true => exact ih

/-- No accepted result is ahead of the changes of its path. -/
private theorem accepted_le_changes (reached : Reaches debounce log s) {path : String} {e : Event}
    (inside : e ∈ log) {t : Ticket} {r : FileResult} (taken : e.accepted? path = some (t, r)) :
    t.generation ≤ changes log path := by
  induction reached with
  | start => cases inside
  | notify before changed time ih =>
    rcases List.mem_cons.1 inside with rfl | old
    · cases taken
    · have bound := ih old
      rw [changes_notified]
      omega
  | due before now ih =>
    rcases List.mem_cons.1 inside with rfl | old
    · cases taken
    · rw [changes_issued]
      exact ih old
  | commit before ticket issued member result ih =>
    rw [changes_committed]
    rcases List.mem_cons.1 inside with rfl | old
    · obtain ⟨current, rfl, same⟩ := Event.accepted?_committed.1 taken
      cases same
      rw [commit_fst] at current
      exact Nat.le_of_eq (before.generation_of_current current)
    · exact ih old

/-- Accepted results of a path never go back in generation. -/
theorem accepted_sorted (reached : Reaches debounce log s) (path : String) :
    (log.filterMap (Event.accepted? path)).Pairwise
      fun newer older => older.1.generation ≤ newer.1.generation := by
  induction reached with
  | start => exact .nil
  | notify before changed time ih => exact ih
  | due before now ih => exact ih
  | @commit log s before ticket tickets issued member result ih =>
    rw [List.filterMap_cons]
    cases taken : Event.accepted? path (.committed ticket result (s.commit ticket result).1) with
    | none => exact ih
    | some entry =>
      obtain ⟨current, rfl, rfl⟩ := Event.accepted?_committed.1 taken
      rw [commit_fst] at current
      refine .cons ?_ ih
      rintro ⟨t, r⟩ inside
      obtain ⟨e, old, same⟩ := List.mem_filterMap.1 inside
      have bound := before.accepted_le_changes old same
      rwa [← before.generation_of_current current] at bound

end Reaches

/-- A result is accepted exactly if its path has not changed since its ticket was handed out. The latest
accepted one is what is known of the path, and no change is lost. -/
theorem last_scheduled_result_wins {debounce : Nat} {log : List Event} {s : Scheduler}
    (reached : Reaches debounce log s) :
    (∀ later ticket result accepted between tickets earlier,
      log = later ++ .committed ticket result accepted :: (between ++ .issued tickets :: earlier) →
      ticket ∈ tickets → (accepted = true ↔ ∀ time, .notified ticket.path time ∉ between)) ∧
    (∀ path, s.latest? path = (log.findSome? (Event.accepted? path)).map (·.2)) ∧
    (∀ path, (log.filterMap (Event.accepted? path)).Pairwise
      fun newer older => older.1.generation ≤ newer.1.generation) ∧
    s.superseded = log.countP Event.isRefusal ∧
    (∀ path, s.pending.contains path = true ↔ Owed log path) ∧
    ∀ later path time earlier, log = later ++ .notified path time :: earlier →
      (∃ e ∈ later, e.handsOut path = true) ∨ s.pending.contains path = true := by
  refine ⟨?_, reached.latest?_eq, reached.accepted_sorted, reached.superseded_eq,
    reached.pending_iff, ?_⟩
  · intro later ticket result accepted between tickets earlier split member
    exact reached.accepted_iff split member
  · intro later path time earlier split
    by_cases handed : ∃ e ∈ later, e.handsOut path = true
    · exact .inl handed
    · refine .inr ((reached.pending_iff path).2 ⟨later, time, earlier, split, ?_⟩)
      intro e member
      rw [Bool.eq_false_iff]
      exact fun out => handed ⟨e, member, out⟩

/-- A file changes again while it is checked, and the first check ends last. -/
def overtaken : List Event := [
  .committed ⟨"a.ts", 1⟩ { path := "a.ts", status := .fail } false,
  .committed ⟨"a.ts", 2⟩ { path := "a.ts" } true,
  .issued [⟨"a.ts", 2⟩], .notified "a.ts" 0, .issued [⟨"a.ts", 1⟩], .notified "a.ts" 0]

theorem overtaken_result_is_refused : ∃ s, Reaches 0 overtaken s ∧
    s.latest? "a.ts" = some { path := "a.ts" } ∧ s.superseded = 1 ∧
    s.pending.contains "a.ts" = false := by
  have first : Reaches 0 [.issued [⟨"a.ts", 1⟩], .notified "a.ts" 0] _ :=
    (Reaches.start.notify "a.ts" 0).due 0
  have second : Reaches 0 [.issued [⟨"a.ts", 2⟩], .notified "a.ts" 0, .issued [⟨"a.ts", 1⟩],
      .notified "a.ts" 0] _ := (first.notify "a.ts" 0).due 0
  have taken := second.commit ⟨"a.ts", 2⟩ List.mem_cons_self List.mem_cons_self { path := "a.ts" }
  have late : .issued [⟨"a.ts", 1⟩] ∈ overtaken.tail := by simp [overtaken]
  have reached : Reaches 0 overtaken _ :=
    taken.commit ⟨"a.ts", 1⟩ late List.mem_cons_self { path := "a.ts", status := .fail }
  obtain ⟨-, latest, -, refused, waits, -⟩ := last_scheduled_result_wins reached
  refine ⟨_, reached, latest "a.ts", refused, ?_⟩
  rw [Bool.eq_false_iff, ne_eq, waits]
  simp [overtaken, owed_cons, not_owed_nil, Event.isChange, Event.handsOut]

end Conformance.Scheduler
