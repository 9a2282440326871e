import Conformance.Audit
import Conformance.Proofs.Override.Expiry
import Conformance.Proofs.Tag.Blocks
import Conformance.Proofs.Tag.Collected

/-! The survey of overrides against the policy on single ones. Each record has its entry, whose state is
what the policy says of the override on that day, and the clusters are the rules and values that two
files override. -/
namespace Conformance

theorem OverrideTag.key_inj {t t' : OverrideTag} (plain : ':' ∉ t.rule.toList)
    (plain' : ':' ∉ t'.rule.toList) :
    t.key = t'.key ↔ t.rule = t'.rule ∧ t.value = t'.value := by
  constructor
  · intro same
    have cut := Chars.cut?_append plain t.value.toList
    rw [← toList_key, same, toList_key, Chars.cut?_append plain'] at cut
    obtain ⟨rule, value⟩ := Prod.mk.inj (Option.some.inj cut)
    exact ⟨(String.toList_inj.1 rule).symm, (String.toList_inj.1 value).symm⟩
  · rintro ⟨rule, value⟩
    rw [key, key, rule, value]

private theorem two_le_length_sortedDistinct {texts : List String} :
    2 ≤ (sortedDistinct texts).length ↔ ∃ a ∈ texts, ∃ b ∈ texts, a ≠ b := by
  have distinct := nodup_sortedDistinct texts
  constructor
  · intro long
    match listed : sortedDistinct texts with
    | [] | [_] => simp [listed] at long
    | a :: b :: rest =>
      rw [listed] at distinct
      have inside (text : String) (member : text ∈ a :: b :: rest) : text ∈ texts :=
        mem_sortedDistinct.1 (listed ▸ member)
      refine ⟨a, inside a List.mem_cons_self, b, inside b (by simp), ?_⟩
      exact List.ne_of_not_mem_cons (List.nodup_cons.1 distinct).1
  · rintro ⟨a, memberA, b, memberB, other⟩
    have pair : [a, b] ⊆ sortedDistinct texts := by
      intro text member
      rcases List.mem_pair.1 member with rfl | rfl
      · exact mem_sortedDistinct.2 memberA
      · exact mem_sortedDistinct.2 memberB
    have nodup : [a, b].Nodup := by simpa using other
    exact nodup.length_le_of_subset pair

namespace Audit

section States

variable {policy : OverridePolicy} {t : OverrideTag} {today : Date}

theorem state_eq_invalid_iff :
    state t policy today = .invalid ↔ (policy.check t today).suppresses = false := by
  unfold state
  cases (policy.check t today).suppresses with
  | false => exact iff_of_true rfl rfl
  | true =>
    refine iff_of_false ?_ nofun
    simp only [Bool.not_true, Bool.false_eq_true, if_false]
    split
    · nofun
    · split
      · nofun
      · split <;> nofun

theorem state_of_suppresses (accepted : (policy.check t today).suppresses = true) :
    state t policy today = match t.lastDay? with
      | none => .noExpiry
      | some last =>
        if today.daysUntil last < 0 then .expired
        else if today.daysUntil last ≤ soonDays then .expiringSoon else .active := by
  have left : daysLeft? t today = t.lastDay?.map today.daysUntil := rfl
  rw [state, accepted, left]
  cases t.lastDay? <;> rfl

/-- The days left run below zero on the day from which the policy reports the override as run out. -/
theorem state_eq_expired_iff : state t policy today = .expired ↔
    (policy.check t today).suppresses = true ∧ policy.Reports t today Code.overrideExpired := by
  rw [OverridePolicy.reports_expired_iff]
  cases accepted : (policy.check t today).suppresses with
  | false =>
    rw [state_eq_invalid_iff.2 accepted]
    exact iff_of_false nofun fun both => Bool.false_ne_true both.1
  | true =>
    rw [state_of_suppresses accepted, and_iff_right rfl]
    cases t.lastDay? with
    | none => exact iff_of_false nofun fun ⟨_, never, _⟩ => nomatch never
    | some last =>
      have past : today.daysUntil last < 0 ↔ last.day < today.day := by
        unfold Date.daysUntil
        omega
      simp only [past]
      by_cases before : last.day < today.day
      · exact iff_of_true (if_pos before) ⟨last, rfl, before⟩
      · rw [if_neg before]
        refine iff_of_false ?_ ?_
        · split <;> nofun
        · rintro ⟨_, same, earlier⟩
          cases same
          exact before earlier

theorem state_eq_noExpiry_iff : state t policy today = .noExpiry ↔
    (policy.check t today).suppresses = true ∧ t.expires = none := by
  cases accepted : (policy.check t today).suppresses with
  | false =>
    rw [state_eq_invalid_iff.2 accepted]
    exact iff_of_false nofun fun both => Bool.false_ne_true both.1
  | true =>
    rw [state_of_suppresses accepted, and_iff_right rfl, OverrideTag.lastDay?]
    cases given : t.expires with
    | none => exact iff_of_true rfl rfl
    | some raw =>
      -- An expiry that cannot be read would have kept the override from suppressing.
      obtain ⟨last, read⟩ := (OverridePolicy.suppresses_iff policy t today |>.1 accepted).expiry raw given
      rw [Option.bind_some, read]
      refine iff_of_false ?_ nofun
      dsimp only
      split
      · nofun
      · split <;> nofun

end States

/-- What the entry of a record has to say. -/
structure IsEntryOf (policy : OverridePolicy) (today : Date) (r : OverrideRecord) (e : AuditEntry) :
    Prop where
  place : e.path = r.path ∧ e.line = r.tag.line
  key : e.key = r.tag.rule ++ ":" ++ r.tag.value
  given : e.reason = r.tag.reason ∧ e.expires = r.tag.expires
  daysLeft : e.daysLeft = r.tag.lastDay?.map today.daysUntil
  invalid : e.state = .invalid ↔ (policy.check r.tag today).suppresses = false
  expired : e.state = .expired ↔
    (policy.check r.tag today).suppresses = true ∧ policy.Reports r.tag today Code.overrideExpired
  noExpiry : e.state = .noExpiry ↔
    (policy.check r.tag today).suppresses = true ∧ r.tag.expires = none

theorem isEntryOf_entry (policy : OverridePolicy) (today : Date) (r : OverrideRecord) :
    IsEntryOf policy today r (entry policy today r) :=
  ⟨⟨rfl, rfl⟩, rfl, ⟨rfl, rfl⟩, rfl, state_eq_invalid_iff, state_eq_expired_iff, state_eq_noExpiry_iff⟩

section Totals

/-- The totals count the entries by their states. -/
structure Balanced (entries : List AuditEntry) (totals : AuditTotals) : Prop where
  total : totals.total = totals.active + totals.expired + totals.invalid
  active : totals.expiringSoon + totals.missingExpiry ≤ totals.active
  all : totals.total = entries.length
  expired : totals.expired = entries.countP (·.state = .expired)
  invalid : totals.invalid = entries.countP (·.state = .invalid)
  expiringSoon : totals.expiringSoon = entries.countP (·.state = .expiringSoon)
  missingExpiry : totals.missingExpiry = entries.countP (·.state = .noExpiry)

private theorem length_eq_inState (entries : List AuditEntry) : entries.length =
    inState entries .active + inState entries .expiringSoon + inState entries .expired +
      inState entries .noExpiry + inState entries .invalid := by
  induction entries with
  | nil => rfl
  | cons e entries ih =>
    simp only [inState, List.filter_cons] at ih ⊢
    cases state : e.state <;> simp [ih] <;> omega

theorem balanced_totals (entries : List AuditEntry) : Balanced entries (totals entries) := by
  have each := length_eq_inState entries
  have counted (s : OverrideState) : inState entries s = entries.countP (·.state = s) :=
    List.countP_eq_length_filter.symm
  refine ⟨?_, ?_, rfl, counted _, counted _, counted _, counted _⟩
  · dsimp only [totals]
    omega
  · dsimp only [totals]
    omega

end Totals

section Clusters

variable {records : List OverrideRecord}

/-- The records that override a rule and value. -/
def overriding (records : List OverrideRecord) (rule value : String) : List OverrideRecord :=
  records.filter fun r => r.tag.rule = rule ∧ r.tag.value = value

/-- Two files override a rule and value. -/
def Recurs (records : List OverrideRecord) (rule value : String) : Prop :=
  ∃ a ∈ overriding records rule value, ∃ b ∈ overriding records rule value, a.path ≠ b.path

/-- What there is to say of a rule and value in one cluster. -/
def clusterOf (records : List OverrideRecord) (rule value : String) : OverrideCluster where
  key := rule ++ ":" ++ value
  rule
  value
  files := sortedDistinct ((overriding records rule value).map (·.path))
  reasons := sortedDistinct ((overriding records rule value).filterMap (·.tag.reason))
  suggestedIntent := suggestIntent rule value

theorem mem_overriding {rule value : String} {r : OverrideRecord} :
    r ∈ overriding records rule value ↔ r ∈ records ∧ r.tag.rule = rule ∧ r.tag.value = value := by
  simp [overriding]

theorem recurs_iff {rule value : String} : Recurs records rule value ↔
    leastFiles ≤ (clusterOf records rule value).files.length := by
  rw [leastFiles, clusterOf, two_le_length_sortedDistinct]
  simp [Recurs]

/-- The records with a key are those with the rule and value that it is made of. -/
theorem filter_key (plain : ∀ r ∈ records, ':' ∉ r.tag.rule.toList) {r : OverrideRecord}
    (member : r ∈ records) : (records.filter fun other => other.tag.key == r.tag.key) =
      overriding records r.tag.rule r.tag.value := by
  refine List.filter_congr fun other listed => ?_
  rw [beq_eq_decide, decide_eq_decide]
  exact OverrideTag.key_inj (plain other listed) (plain r member)

theorem cluster?_overriding {r : OverrideRecord} (member : r ∈ records) :
    cluster? r.tag.key (overriding records r.tag.rule r.tag.value) =
      if leastFiles ≤ (clusterOf records r.tag.rule r.tag.value).files.length then
        some (clusterOf records r.tag.rule r.tag.value)
      else none := by
  have self : r ∈ overriding records r.tag.rule r.tag.value := mem_overriding.2 ⟨member, rfl, rfl⟩
  unfold cluster? clusterOf
  dsimp only
  cases group : overriding records r.tag.rule r.tag.value with
  | nil => simp [group] at self
  | cons first rest =>
    obtain ⟨-, rule, value⟩ := mem_overriding.1 (group ▸ List.mem_cons_self : first ∈ _)
    simp only [rule, value]
    by_cases few : (sortedDistinct ((first :: rest).map (·.path))).length < leastFiles
    · rw [if_pos few, if_neg (Nat.not_le.2 few)]
    · rw [if_neg few, if_pos (Nat.not_lt.1 few)]
      rfl

theorem mem_clusters (plain : ∀ r ∈ records, ':' ∉ r.tag.rule.toList) {c : OverrideCluster} :
    c ∈ clusters records ↔ ∃ rule value, Recurs records rule value ∧ c = clusterOf records rule value := by
  rw [clusters, List.mem_mergeSort, List.mem_filterMap]
  constructor
  · rintro ⟨key, listed, built⟩
    obtain ⟨r, member, rfl⟩ := List.mem_map.1 (mem_sortedDistinct.1 listed)
    rw [filter_key plain member, cluster?_overriding member] at built
    split at built
    · rename_i enough
      exact ⟨_, _, recurs_iff.2 enough, (Option.some.inj built).symm⟩
    · cases built
  · rintro ⟨rule, value, recurs, rfl⟩
    obtain ⟨r, here, -⟩ := id recurs
    obtain ⟨member, rfl, rfl⟩ := mem_overriding.1 here
    refine ⟨r.tag.key, mem_sortedDistinct.2 (List.mem_map_of_mem member), ?_⟩
    rw [filter_key plain member, cluster?_overriding member, if_pos (recurs_iff.1 recurs)]

theorem clusterBefore_iff {a b : OverrideCluster} : clusterBefore a b = true ↔
    b.files.length < a.files.length ∨ a.files.length = b.files.length ∧ a.key ≤ b.key := by
  simp [clusterBefore]

theorem key_of_cluster? {key : String} {group : List OverrideRecord} {c : OverrideCluster}
    (built : cluster? key group = some c) : c.key = key := by
  unfold cluster? at built
  dsimp only at built
  split at built
  · split at built
    · cases built
    · cases built
      rfl
  · cases built

theorem nodup_keys_clusters (records : List OverrideRecord) :
    ((clusters records).map (·.key)).Nodup := by
  rw [clusters, ((List.mergeSort_perm _ _).map _).nodup_iff, List.Nodup, List.pairwise_map,
    List.pairwise_filterMap]
  refine (nodup_sortedDistinct _).imp fun {key key'} other c built c' built' => ?_
  rwa [key_of_cluster? built, key_of_cluster? built']

/-- Most files first, and equally many in the order of the keys, of which no two are the same. -/
private theorem clusters_ordered (records : List OverrideRecord) :
    (clusters records).Pairwise fun a b =>
    b.files.length < a.files.length ∨ a.files.length = b.files.length ∧ a.key < b.key := by
  have sorted : (clusters records).Pairwise fun a b => clusterBefore a b = true := by
    refine List.pairwise_mergeSort (fun a b c before after => ?_) (fun a b => ?_) _
    · rw [clusterBefore_iff] at *
      rcases before with more | ⟨equal, below⟩ <;> rcases after with more' | ⟨equal', below'⟩
      · exact .inl (by omega)
      · exact .inl (by omega)
      · exact .inl (by omega)
      · exact .inr ⟨by omega, String.le_trans below below'⟩
    · rw [Bool.or_eq_true, clusterBefore_iff, clusterBefore_iff]
      rcases Nat.lt_trichotomy a.files.length b.files.length with fewer | equal | more
      · exact .inr (.inl fewer)
      · exact (String.le_total a.key b.key).imp (.inr ⟨equal, ·⟩) (.inr ⟨equal.symm, ·⟩)
      · exact .inl (.inl more)
  have distinct := List.pairwise_map.1 (nodup_keys_clusters records)
  refine (sorted.and distinct).imp fun {a b} ⟨before, other⟩ => ?_
  refine (clusterBefore_iff.1 before).imp_right fun ⟨equal, below⟩ => ⟨equal, ?_⟩
  exact String.not_le.1 fun above => other (String.le_antisymm below above)

/-- The clusters that records have to give rise to. -/
structure Surveyed (records : List OverrideRecord) (found : List OverrideCluster) : Prop where
  recurring : ∀ rule value, (∃ c ∈ found, c.rule = rule ∧ c.value = value) ↔
    ∃ a ∈ records, ∃ b ∈ records, a.path ≠ b.path ∧ (a.tag.rule = rule ∧ a.tag.value = value) ∧
      b.tag.rule = rule ∧ b.tag.value = value
  once : (found.map fun c => (c.rule, c.value)).Nodup
  named : ∀ c ∈ found, c.key = c.rule ++ ":" ++ c.value ∧
    c.suggestedIntent = suggestIntent c.rule c.value
  files : ∀ c ∈ found, c.files.Pairwise (· < ·) ∧ ∀ path, path ∈ c.files ↔
    ∃ r ∈ records, r.tag.rule = c.rule ∧ r.tag.value = c.value ∧ r.path = path
  reasons : ∀ c ∈ found, c.reasons.Pairwise (· < ·) ∧ ∀ reason, reason ∈ c.reasons ↔
    ∃ r ∈ records, r.tag.rule = c.rule ∧ r.tag.value = c.value ∧ r.tag.reason = some reason
  ordered : found.Pairwise fun a b =>
    b.files.length < a.files.length ∨ a.files.length = b.files.length ∧ a.key < b.key

theorem surveyed_clusters (plain : ∀ r ∈ records, ':' ∉ r.tag.rule.toList) :
    Surveyed records (clusters records) where
  recurring rule value := by
    simp only [mem_clusters plain]
    constructor
    · rintro ⟨_, ⟨rule, value, recurs, rfl⟩, rfl, rfl⟩
      obtain ⟨a, memberA, b, memberB, other⟩ := recurs
      obtain ⟨listedA, sameA⟩ := mem_overriding.1 memberA
      obtain ⟨listedB, sameB⟩ := mem_overriding.1 memberB
      exact ⟨a, listedA, b, listedB, other, sameA, sameB⟩
    · rintro ⟨a, listedA, b, listedB, other, sameA, sameB⟩
      have recurs : Recurs records rule value :=
        ⟨a, mem_overriding.2 ⟨listedA, sameA⟩, b, mem_overriding.2 ⟨listedB, sameB⟩, other⟩
      exact ⟨_, ⟨rule, value, recurs, rfl⟩, rfl, rfl⟩
  once := by
    rw [List.Nodup, List.pairwise_map]
    refine (List.pairwise_map.1 (nodup_keys_clusters records)).imp_of_mem ?_
    intro a b memberA memberB other same
    obtain ⟨rule, value, -, rfl⟩ := (mem_clusters plain).1 memberA
    obtain ⟨rule', value', -, rfl⟩ := (mem_clusters plain).1 memberB
    obtain ⟨rfl, rfl⟩ := Prod.mk.inj same
    exact other rfl
  named c member := by
    obtain ⟨rule, value, -, rfl⟩ := (mem_clusters plain).1 member
    exact ⟨rfl, rfl⟩
  files c member := by
    obtain ⟨rule, value, -, rfl⟩ := (mem_clusters plain).1 member
    refine ⟨sortedDistinct_increasing _, fun path => ?_⟩
    simp [clusterOf, mem_overriding, and_assoc]
  reasons c member := by
    obtain ⟨rule, value, -, rfl⟩ := (mem_clusters plain).1 member
    refine ⟨sortedDistinct_increasing _, fun reason => ?_⟩
    simp [clusterOf, mem_overriding, and_assoc]
  ordered := clusters_ordered records

end Clusters

/-- A survey has the records in order, each in the state that the policy gives it, totals of these states
and, where no rule holds a colon, the rules and values that two files override, the widest first. -/
theorem survey_agrees_with_policy (records : List OverrideRecord) (policy : OverridePolicy)
    (today : Date) :
    List.Forall₂ (IsEntryOf policy today) records (report records policy today).entries ∧
    Balanced (report records policy today).entries (report records policy today).totals ∧
    ((∀ r ∈ records, ':' ∉ r.tag.rule.toList) →
      Surveyed records (report records policy today).clusters) ∧
    ∀ content, ∀ t ∈ (TagScan.extract content).overrides, ':' ∉ t.rule.toList := by
  refine ⟨?_, balanced_totals _, surveyed_clusters, TagScan.colon_not_mem_rule⟩
  change List.Forall₂ _ records (records.map (entry policy today))
  rw [List.forall₂_map_right_iff, List.forall₂_same]
  exact fun r _ => isEntryOf_entry policy today r

namespace March

/-- One import is let through in two files, in one of them no longer; a call is let through in one file
without a reason. -/
def records : List OverrideRecord := [
  { path := "src/b.ts"
    tag := { rule := "forbid_import", value := "axios", reason := some "old"
             expires := some "2026-02-28", line := 1 } },
  { path := "src/a.ts"
    tag := { rule := "forbid_import", value := "axios", reason := some "new", line := 4 } },
  { path := "src/b.ts", tag := { rule := "forbid_call", value := "eval", line := 9 } }]

/-- The first of March 2026. -/
def today : Date := ⟨20513⟩

end March

open March in
theorem import_recurs_in_two_files :
    (∀ r ∈ records, ':' ∉ r.tag.rule.toList) ∧
    (∃ c ∈ (report records {} today).clusters, (c.rule = "forbid_import" ∧ c.value = "axios") ∧
      ∀ path, path ∈ c.files ↔ path = "src/a.ts" ∨ path = "src/b.ts") ∧
    (report records {} today).totals.total = 3 ∧
    ∃ e ∈ (report records {} today).entries, e.path = "src/b.ts" ∧ e.state = .expired := by
  have plain : ∀ r ∈ records, ':' ∉ r.tag.rule.toList := by decide
  obtain ⟨entries, totals, clusters, -⟩ := survey_agrees_with_policy records {} today
  have surveyed := clusters plain
  refine ⟨plain, ?_, totals.all.trans entries.length_eq.symm, ?_⟩
  · have twice := (surveyed.recurring "forbid_import" "axios").2 (by decide)
    obtain ⟨c, member, rule, value⟩ := twice
    refine ⟨c, member, ⟨rule, value⟩, fun path => ?_⟩
    rw [(surveyed.files c member).2, rule, value]
    simp [records, eq_comm, or_comm]
  · cases entries with
    | cons first _ =>
      refine ⟨_, List.mem_cons_self, first.place.1, first.expired.2 ⟨by decide +kernel, ?_⟩⟩
      exact OverridePolicy.reports_expired_iff.2 ⟨⟨20512⟩, by decide +kernel, by decide⟩

end Audit

end Conformance
