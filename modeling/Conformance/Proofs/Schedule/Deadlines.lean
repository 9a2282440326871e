import Conformance.Proofs.Schedule
import Mathlib.Data.List.Induction

/-! When changed paths are handed out. After any calls, whatever their order, times and tickets, a path
that waits remembers its last change and has a generation. So what is due at a time is told from the
calls, and something is due exactly from the next deadline on. -/
namespace Conformance.Scheduler

/-- A call of a scheduler. Any ticket can be committed, also one that was never handed out. -/
inductive Call where
  | notify (path : String) (time : Nat)
  | due (now : Nat)
  | commit (ticket : Ticket) (result : FileResult)

namespace Call

def apply (s : Scheduler) : Call → Scheduler
  | notify path time => s.notify path time
  | due now => (s.due now).2
  | commit ticket result => (s.commit ticket result).2

/-- The time of a change of the path. -/
def changeOf? (path : String) : Call → Option Nat
  | notify changed time => if changed = path then some time else none
  | _ => none

end Call

/-- The scheduler after calls. -/
def run (debounce : Nat) (calls : List Call) : Scheduler := calls.foldl Call.apply { debounce }

/-- The time of the last change of a path. -/
def lastChange? (calls : List Call) (path : String) : Option Nat :=
  calls.reverse.findSome? (Call.changeOf? path)

section OneCall

variable {s : Scheduler} {call : Call} {path : String}

theorem apply_debounce : (call.apply s).debounce = s.debounce := by
  cases call with
  | notify | due => rfl
  | commit ticket result =>
    rw [Call.apply, commit]
    split <;> rfl

theorem apply_notified {time last : Nat} (change : call.changeOf? path = some time)
    (waits : (call.apply s).pending.find? path = some last) : last = time := by
  cases call with
  | notify changed at? =>
    obtain ⟨rfl, rfl⟩ : changed = path ∧ at? = time := by
      simpa [Call.changeOf?] using change
    rw [Call.apply, notify, Dict.find?_insert, if_pos rfl] at waits
    exact (Option.some.inj waits).symm
  | due | commit => cases change

theorem apply_unchanged {last : Nat} (none : call.changeOf? path = none)
    (waits : (call.apply s).pending.find? path = some last) : s.pending.find? path = some last := by
  cases call with
  | notify changed time =>
    have other : changed ≠ path := by
      intro same
      simp [Call.changeOf?, same] at none
    rwa [Call.apply, notify, Dict.find?_insert, if_neg other] at waits
  | due now =>
    rw [Call.apply, due, Dict.find?_filter] at waits
    exact (Option.filter_eq_some_iff.1 waits).1
  | commit ticket result => rwa [Call.apply, commit_pending] at waits

/-- No call forgets a generation, and a change sets one. -/
theorem apply_generations : (call.apply s).generations.contains path =
    ((call.changeOf? path).isSome || s.generations.contains path) := by
  cases call with
  | notify changed time =>
    by_cases same : changed = path <;>
      simp [Call.apply, notify, Call.changeOf?, Dict.contains, same]
  | due => rfl
  | commit ticket result =>
    rw [Call.apply, commit_generations]
    rfl

end OneCall

section Runs

variable (debounce : Nat) (calls : List Call)

theorem run_concat (call : Call) : run debounce (calls ++ [call]) = call.apply (run debounce calls) := by
  rw [run, List.foldl_append]
  rfl

@[simp] theorem run_debounce : (run debounce calls).debounce = debounce := by
  induction calls using List.reverseRecOn with
  | nil => rfl
  | append_singleton calls call ih => rw [run_concat, apply_debounce, ih]

variable {debounce calls} {path : String} {last : Nat}

/-- The time kept for a path that waits is that of its last change. -/
theorem lastChange?_of_pending (waits : (run debounce calls).pending.find? path = some last) :
    lastChange? calls path = some last := by
  induction calls using List.reverseRecOn with
  | nil => cases waits
  | append_singleton calls call ih =>
    rw [run_concat] at waits
    rw [lastChange?, List.reverse_concat, List.findSome?_cons]
    cases change : call.changeOf? path with
    | none => exact ih (apply_unchanged change waits)
    | some time => rw [apply_notified change waits]

private theorem generation_of_pending
    (waits : (run debounce calls).pending.find? path = some last) :
    ∃ generation, (run debounce calls).generations.find? path = some generation := by
  rw [← Option.isSome_iff_exists]
  show (run debounce calls).generations.contains path = true
  induction calls using List.reverseRecOn with
  | nil => cases waits
  | append_singleton calls call ih =>
    rw [run_concat] at waits ⊢
    rw [apply_generations]
    cases change : call.changeOf? path with
    | none => simp [ih (apply_unchanged change waits)]
    | some time => rfl

end Runs

section Due

variable {s : Scheduler} {now : Nat} {path : String}

/-- The paths that are handed out. -/
def duePaths (s : Scheduler) (now : Nat) : List String := (s.due now).1.map Ticket.path

theorem duePaths_eq :
    s.duePaths now = (s.pending.filter fun _ last => s.isDue now last).keys := by
  simp [duePaths, due, Function.comp_def]

theorem mem_duePaths :
    path ∈ s.duePaths now ↔ ∃ last, s.pending.find? path = some last ∧ s.isDue now last = true := by
  rw [duePaths_eq, Dict.mem_keys_iff_exists, Dict.find?_filter]
  simp only [Option.filter_eq_some_iff]

private theorem duePaths_increasing : (s.duePaths now).Pairwise (· < ·) := by
  rw [duePaths_eq]
  exact (s.pending.filter fun _ last => s.isDue now last).increasing

theorem due_ne_nil : (s.due now).1 ≠ [] ↔ ∃ path, path ∈ s.duePaths now := by
  rw [ne_eq, ← List.map_eq_nil_iff (f := Ticket.path), List.eq_nil_iff_forall_not_mem, not_forall]
  simp only [not_not, duePaths]

/-- All that changes is that the paths handed out no longer wait. -/
private theorem due_snd :
    (s.due now).2 = { s with pending := s.pending.filter fun path _ => path ∉ s.duePaths now } := by
  have waiting : (s.due now).2.pending = s.pending.filter fun path _ => path ∉ s.duePaths now := by
    refine Dict.ext_find? fun path => ?_
    rw [due, Dict.find?_filter, Dict.find?_filter]
    cases waits : s.pending.find? path with
    | none => rfl
    | some last => simp [Option.filter, mem_duePaths, waits]
  rw [← waiting]
  rfl

theorem mem_waiting {last : Nat} :
    last ∈ s.pending.values ↔ ∃ path, s.pending.find? path = some last := by
  simp [Dict.values, Dict.find?_eq_some]

/-- The next deadline is that of a path that waits. -/
private theorem waits_of_nextDeadline? {deadline : Nat} (next : s.nextDeadline? = some deadline) :
    ∃ path last, s.pending.find? path = some last ∧ deadline = last + s.debounce := by
  obtain ⟨last, least, rfl⟩ := Option.map_eq_some_iff.1 next
  obtain ⟨path, waits⟩ := mem_waiting.1 (List.min?_mem least)
  exact ⟨path, last, waits, rfl⟩

/-- No path that waits is due before the next deadline. -/
theorem nextDeadline?_le {last : Nat} (waits : s.pending.find? path = some last) :
    ∃ deadline, s.nextDeadline? = some deadline ∧ deadline ≤ last + s.debounce := by
  have member : last ∈ s.pending.values := mem_waiting.2 ⟨path, waits⟩
  obtain ⟨first, least⟩ := Option.isSome_iff_exists.1 (List.isSome_min?_of_mem member)
  refine ⟨first + s.debounce, Option.map_eq_some_iff.2 ⟨first, least, rfl⟩, ?_⟩
  have below := (List.min?_eq_some_iff.1 least).2 last member
  exact Nat.add_le_add_right below s.debounce

end Due

/-- Handed out are, each once and in order, the paths whose last change is as old as the debounce time,
with current tickets, and there are such paths exactly from the next deadline on. -/
theorem due_hands_out_quiet_paths (debounce : Nat) (calls : List Call) (now : Nat)
    (settled : ∀ path last, (run debounce calls).pending.find? path = some last → last ≤ now) :
    let s := run debounce calls
    let handed := s.duePaths now
    (∀ path, path ∈ handed ↔ s.pending.contains path = true ∧
      ∃ last, lastChange? calls path = some last ∧ last + debounce ≤ now) ∧
    handed.Pairwise (· < ·) ∧
    (∀ ticket ∈ (s.due now).1, s.isCurrent ticket = true ∧ (s.due now).2.isCurrent ticket = true) ∧
    (s.due now).2 = { s with pending := s.pending.filter fun path _ => path ∉ handed } ∧
    ((s.due now).1 ≠ [] ↔ ∃ deadline, s.nextDeadline? = some deadline ∧ deadline ≤ now) := by
  intro s handed
  have ready (path : String) (last : Nat) (waits : s.pending.find? path = some last) :
      s.isDue now last = true ↔ last + debounce ≤ now := by
    have passed := settled path last waits
    rw [isDue, run_debounce, decide_eq_true_eq]
    omega
  have mem_handed (path : String) :
      path ∈ handed ↔ ∃ last, s.pending.find? path = some last ∧ last + debounce ≤ now := by
    rw [mem_duePaths]
    exact exists_congr fun last => and_congr_right (ready path last)
  refine ⟨fun path => ?_, duePaths_increasing, fun ticket member => ?_, due_snd, ?_⟩
  · rw [mem_handed, Dict.contains, Option.isSome_iff_exists]
    constructor
    · rintro ⟨last, waits, old⟩
      exact ⟨⟨last, waits⟩, last, lastChange?_of_pending waits, old⟩
    · rintro ⟨⟨last, waits⟩, time, change, old⟩
      obtain rfl : last = time := Option.some.inj ((lastChange?_of_pending waits).symm.trans change)
      exact ⟨last, waits, old⟩
  · obtain ⟨⟨last, waits, -⟩, generation⟩ := mem_due.1 member
    obtain ⟨known, found⟩ := generation_of_pending waits
    have current : s.isCurrent ticket = true := by
      rw [isCurrent, decide_eq_true_eq, generation, found]
      rfl
    exact ⟨current, current⟩
  · rw [due_ne_nil]
    constructor
    · rintro ⟨path, member⟩
      obtain ⟨last, waits, old⟩ := (mem_handed path).1 member
      obtain ⟨deadline, next, bound⟩ := nextDeadline?_le waits
      rw [run_debounce] at bound
      exact ⟨deadline, next, Nat.le_trans bound old⟩
    · rintro ⟨deadline, next, reached⟩
      obtain ⟨path, last, waits, rfl⟩ := waits_of_nextDeadline? next
      rw [run_debounce] at reached
      exact ⟨path, (mem_handed path).2 ⟨last, waits, reached⟩⟩

/-- One path changes again while it waits; a result comes for a ticket that never was. -/
def changedTwice : List Call := [
  .notify "a.ts" 0, .notify "b.ts" 20, .commit ⟨"b.ts", 7⟩ { path := "b.ts" }, .notify "a.ts" 60]

theorem restarted_path_waits_on :
    let s := run 100 changedTwice
    (∀ path last, s.pending.find? path = some last → last ≤ 120) ∧
    "b.ts" ∈ s.duePaths 120 ∧ "a.ts" ∉ s.duePaths 120 ∧
    (s.due 120).2.pending.find? "a.ts" = some 60 ∧
    ∃ deadline, s.nextDeadline? = some deadline ∧ deadline ≤ 120 := by
  intro s
  have settled : ∀ path last, s.pending.find? path = some last → last ≤ 120 := by
    intro path last waits
    have entry : (path, last) ∈ [("a.ts", 60), ("b.ts", 20)] := Dict.find?_eq_some.1 waits
    simp only [List.mem_cons, Prod.mk.injEq, List.not_mem_nil, or_false] at entry
    omega
  obtain ⟨mem_handed, -, -, left, filled⟩ := due_hands_out_quiet_paths 100 changedTwice 120 settled
  have quiet : "b.ts" ∈ s.duePaths 120 := (mem_handed "b.ts").2 ⟨rfl, 20, rfl, by decide⟩
  have restarted : "a.ts" ∉ s.duePaths 120 := by
    rw [mem_handed]
    rintro ⟨-, last, change, old⟩
    cases change
    omega
  refine ⟨settled, quiet, restarted, ?_, filled.1 (due_ne_nil.2 ⟨"b.ts", quiet⟩)⟩
  rw [left, Dict.find?_filter]
  exact Option.filter_eq_some_iff.2 ⟨rfl, decide_eq_true restarted⟩

end Conformance.Scheduler
