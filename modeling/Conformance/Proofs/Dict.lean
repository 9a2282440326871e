import Conformance.Dict

/-! Look-ups in finite maps: what each operation does to `find?`, and that a map is its look-ups.
Sorted lists without repetition follow as the keys of a map. -/
namespace Conformance.Dict
variable {α β : Type}

private theorem lookup_place (key other : String) (value : α) {entries : List (String × α)}
    (sorted : Increasing entries) :
    lookup other (place key value entries) =
      if key = other then some value else lookup other entries := by
  induction entries with
  | nil => simp [place, lookup]
  | cons head rest ih =>
    obtain ⟨k, v⟩ := head
    obtain ⟨above, tail⟩ := increasing_cons.1 sorted
    unfold place
    split
    · rfl
    · split
      · rename_i same
        subst same
        by_cases hit : k = other <;> simp [lookup, hit]
      · rename_i different
        simp only [lookup, ih tail]
        by_cases hit : k = other
        · subst hit
          simp [Ne.symm different]
        · simp [hit]

theorem lookup_append (entries more : List (String × α)) (key : String) :
    lookup key (entries ++ more) = (lookup key entries).or (lookup key more) := by
  induction entries with
  | nil => rfl
  | cons entry entries ih =>
    obtain ⟨k, v⟩ := entry
    rw [List.cons_append, lookup, lookup, ih]
    split <;> rfl

theorem lookup_eq_none {key : String} {entries : List (String × α)}
    (absent : key ∉ entries.map Prod.fst) : lookup key entries = none := by
  induction entries with
  | nil => rfl
  | cons entry entries ih =>
    obtain ⟨k, v⟩ := entry
    rw [List.map_cons, List.mem_cons, not_or] at absent
    rw [lookup, if_neg (Ne.symm absent.1), ih absent.2]

theorem mem_of_lookup {key : String} {value : α} {entries : List (String × α)}
    (found : lookup key entries = some value) : (key, value) ∈ entries := by
  induction entries with
  | nil => cases found
  | cons entry entries ih =>
    obtain ⟨k, v⟩ := entry
    rw [lookup] at found
    split at found
    · rename_i same
      cases found
      exact same ▸ List.mem_cons_self
    · exact List.mem_cons_of_mem _ (ih found)

private theorem lookup_eq_some {key : String} {value : α} {entries : List (String × α)}
    (sorted : Increasing entries) : lookup key entries = some value ↔ (key, value) ∈ entries := by
  induction entries with
  | nil => simp [lookup]
  | cons head rest ih =>
    obtain ⟨k, v⟩ := head
    obtain ⟨above, tail⟩ := increasing_cons.1 sorted
    by_cases same : k = key
    · subst same
      have absent : (k, value) ∉ rest := fun member =>
        String.lt_irrefl k (above _ member)
      simp [lookup, absent, eq_comm]
    · simp [lookup, same, ih tail, Ne.symm same]

theorem find?_eq_some {d : Dict α} {key : String} {value : α} :
    d.find? key = some value ↔ (key, value) ∈ d.entries :=
  lookup_eq_some d.increasing

theorem mem_values {d : Dict α} {key : String} {value : α} (found : d.find? key = some value) :
    value ∈ d.values :=
  List.mem_map.2 ⟨(key, value), find?_eq_some.1 found, rfl⟩

theorem mem_keys {d : Dict α} {key : String} : key ∈ d.keys ↔ (d.find? key).isSome := by
  rw [Option.isSome_iff_exists, keys, List.mem_map]
  constructor
  · rintro ⟨⟨k, v⟩, member, rfl⟩
    exact ⟨v, find?_eq_some.2 member⟩
  · rintro ⟨v, found⟩
    exact ⟨(key, v), find?_eq_some.1 found, rfl⟩

theorem mem_keys_iff_exists {d : Dict α} {key : String} :
    key ∈ d.keys ↔ ∃ value, d.find? key = some value :=
  mem_keys.trans Option.isSome_iff_exists

theorem contains_iff {d : Dict α} {key : String} : d.contains key = true ↔ key ∈ d.keys :=
  mem_keys.symm

theorem nodup_keys (d : Dict α) : d.keys.Nodup := by
  have sorted : d.keys.Pairwise (· < ·) := d.increasing
  apply sorted.imp
  rintro a b less rfl
  exact String.lt_irrefl a less

@[simp] theorem find?_empty (key : String) : (∅ : Dict α).find? key = none := rfl

@[simp] theorem find?_insert (d : Dict α) (key other : String) (value : α) :
    (d.insert key value).find? other = if key = other then some value else d.find? other :=
  lookup_place key other value d.increasing

@[simp] theorem find?_filter (d : Dict α) (keep : String → α → Bool) (key : String) :
    (d.filter keep).find? key = (d.find? key).filter (keep key) := by
  apply Option.ext
  intro value
  rw [find?_eq_some, Option.filter_eq_some_iff, find?_eq_some]
  simp [filter]

@[simp] theorem find?_erase (d : Dict α) (key other : String) :
    (d.erase key).find? other = if other = key then none else d.find? other := by
  rw [erase, find?_filter]
  by_cases same : other = key <;> cases d.find? other <;> simp [same, Option.filter]

@[simp] theorem find?_map (d : Dict α) (f : String → α → β) (key : String) :
    (d.map f).find? key = (d.find? key).map (f key) := by
  apply Option.ext
  intro value
  rw [find?_eq_some, Option.map_eq_some_iff]
  simp only [map, List.mem_map, Prod.mk.injEq]
  constructor
  · rintro ⟨⟨k, v⟩, member, rfl, rfl⟩
    exact ⟨v, find?_eq_some.2 member, rfl⟩
  · rintro ⟨v, found, rfl⟩
    exact ⟨(key, v), find?_eq_some.1 found, rfl, rfl⟩

/-- Increasing lists with the same members are the same list. -/
private theorem increasing_ext {a b : List (String × α)} (sortedA : Increasing a)
    (sortedB : Increasing b) (same : ∀ entry, entry ∈ a ↔ entry ∈ b) : a = b := by
  induction a generalizing b with
  | nil =>
    cases b with
    | nil => rfl
    | cons head _ => exact absurd ((same head).2 List.mem_cons_self) List.not_mem_nil
  | cons x xs ih =>
    cases b with
    | nil => exact absurd ((same x).1 List.mem_cons_self) List.not_mem_nil
    | cons y ys =>
      obtain ⟨kx, vx⟩ := x
      obtain ⟨ky, vy⟩ := y
      obtain ⟨aboveX, tailX⟩ := increasing_cons.1 sortedA
      obtain ⟨aboveY, tailY⟩ := increasing_cons.1 sortedB
      -- Each head is a least entry of both lists, so neither can stand behind the other.
      have heads : (kx, vx) = (ky, vy) := by
        rcases List.mem_cons.1 ((same (kx, vx)).1 List.mem_cons_self) with equal | behind
        · exact equal
        · rcases List.mem_cons.1 ((same (ky, vy)).2 List.mem_cons_self) with equal | behind'
          · exact equal.symm
          · exact absurd (aboveY _ behind) (String.lt_asymm (aboveX _ behind'))
      obtain ⟨rfl, rfl⟩ := Prod.mk.inj heads
      congr 1
      apply ih tailX tailY
      intro entry
      have both := same entry
      simp only [List.mem_cons] at both
      constructor
      · intro member
        rcases both.1 (.inr member) with equal | inside
        · subst equal
          exact absurd (aboveX _ member) (String.lt_irrefl _)
        · exact inside
      · intro member
        rcases both.2 (.inr member) with equal | inside
        · subst equal
          exact absurd (aboveY _ member) (String.lt_irrefl _)
        · exact inside

/-- A map is determined by its look-ups. -/
theorem ext_find? {a b : Dict α} (same : ∀ key, a.find? key = b.find? key) : a = b := by
  apply ext
  apply increasing_ext a.increasing b.increasing
  intro ⟨key, value⟩
  rw [← find?_eq_some, ← find?_eq_some, same]

/-- The value that the last entry of a key gives. -/
private theorem find?_foldl_insert (entries : List (String × α)) (d : Dict α) (key : String) :
    (entries.foldl (fun d entry => d.insert entry.1 entry.2) d).find? key =
      ((entries.reverse.find? fun entry => entry.1 = key).map Prod.snd).or (d.find? key) := by
  induction entries generalizing d with
  | nil => simp
  | cons head rest ih =>
    rw [List.foldl_cons, ih, find?_insert, List.reverse_cons, List.find?_append]
    cases rest.reverse.find? fun entry => entry.1 = key with
    | some found => simp
    | none => by_cases same : head.1 = key <;> simp [same]

theorem find?_ofList (entries : List (String × α)) (key : String) :
    (ofList entries).find? key =
      (entries.reverse.find? fun entry => entry.1 = key).map Prod.snd := by
  rw [ofList, find?_foldl_insert]
  have absent : (empty : Dict α).find? key = none := rfl
  simp [absent]

theorem mem_keys_ofList (entries : List (String × α)) (key : String) :
    key ∈ (ofList entries).keys ↔ key ∈ entries.map Prod.fst := by
  rw [mem_keys, find?_ofList, Option.isSome_map, List.find?_isSome]
  simp

/-- A list that gives each key one value keeps all its entries. -/
theorem find?_ofList_of_unique {entries : List (String × α)}
    (unique : ∀ key a b, (key, a) ∈ entries → (key, b) ∈ entries → a = b)
    {key : String} {value : α} :
    (ofList entries).find? key = some value ↔ (key, value) ∈ entries := by
  rw [find?_ofList, Option.map_eq_some_iff]
  constructor
  · rintro ⟨⟨k, v⟩, found, rfl⟩
    have member := List.mem_of_find?_eq_some found
    have same := List.find?_some found
    simp only [decide_eq_true_eq] at same
    subst same
    exact List.mem_reverse.1 member
  · intro member
    have some : (entries.reverse.find? fun entry => entry.1 = key).isSome := by
      rw [List.find?_isSome]
      exact ⟨(key, value), List.mem_reverse.2 member, by simp⟩
    obtain ⟨⟨k, v⟩, found⟩ := Option.isSome_iff_exists.1 some
    have member' := List.mem_reverse.1 (List.mem_of_find?_eq_some found)
    have same := List.find?_some found
    simp only [decide_eq_true_eq] at same
    subst same
    exact ⟨(k, v), found, unique k v value member' member⟩

/-- A list in which no key is repeated keeps all its entries. -/
theorem find?_ofList_of_nodup {entries : List (String × α)} (distinct : (entries.map Prod.fst).Nodup)
    {key : String} {value : α} :
    (ofList entries).find? key = some value ↔ (key, value) ∈ entries := by
  refine find?_ofList_of_unique fun k a b atA atB => ?_
  have unique := List.pairwise_iff_getElem.1 (List.pairwise_map.1 distinct)
  obtain ⟨i, hi, here⟩ := List.getElem_of_mem atA
  obtain ⟨j, hj, there⟩ := List.getElem_of_mem atB
  rcases Nat.lt_trichotomy i j with less | equal | more
  · exact absurd (by rw [here, there]) (unique i j hi hj less)
  · subst equal
    rw [here] at there
    exact congrArg Prod.snd there
  · exact absurd (by rw [here, there]) (unique j i hj hi more)

/-- Building a map from its own entries gives it back. -/
@[simp] theorem ofList_entries (d : Dict α) : ofList d.entries = d := by
  apply ext_find?
  intro key
  apply Option.ext
  intro value
  rw [find?_ofList_of_nodup d.nodup_keys, find?_eq_some]

end Dict

@[simp] theorem mem_sortedDistinct {texts : List String} {text : String} :
    text ∈ sortedDistinct texts ↔ text ∈ texts := by
  rw [sortedDistinct, Dict.mem_keys_ofList]
  simp

theorem sortedDistinct_increasing (texts : List String) :
    (sortedDistinct texts).Pairwise (· < ·) := (Dict.ofList _).increasing

theorem nodup_sortedDistinct (texts : List String) : (sortedDistinct texts).Nodup :=
  Dict.nodup_keys _

theorem length_sortedDistinct_of_nodup {texts : List String} (distinct : texts.Nodup) :
    (sortedDistinct texts).length = texts.length := by
  apply Nat.le_antisymm
  · exact (nodup_sortedDistinct texts).length_le_of_subset fun _ member => mem_sortedDistinct.1 member
  · exact distinct.length_le_of_subset fun _ member => mem_sortedDistinct.2 member

end Conformance
