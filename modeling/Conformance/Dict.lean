/-! Finite maps with text keys, kept as association lists in strictly increasing key order.
The order makes the representation canonical: two maps with the same look-ups are equal. -/
namespace Conformance

/-- The value of the first entry with a key. -/
def Dict.lookup {α : Type} (key : String) : List (String × α) → Option α
  | [] => none
  | (k, v) :: rest => if k = key then some v else Dict.lookup key rest

/-- Put an entry in its place, over an entry with the same key. -/
def Dict.place {α : Type} (key : String) (value : α) : List (String × α) → List (String × α)
  | [] => [(key, value)]
  | (k, v) :: rest =>
    if key < k then (key, value) :: (k, v) :: rest
    else if k = key then (key, value) :: rest
    else (k, v) :: Dict.place key value rest

/-- Keys in strictly increasing order. -/
def Dict.Increasing {α : Type} (entries : List (String × α)) : Prop :=
  (entries.map Prod.fst).Pairwise (· < ·)

theorem Dict.mem_place {α : Type} {key : String} {value : α} {entries : List (String × α)}
    {entry : String × α} (member : entry ∈ Dict.place key value entries) :
    entry = (key, value) ∨ entry ∈ entries := by
  induction entries with
  | nil => simpa [Dict.place] using member
  | cons head rest ih =>
    obtain ⟨k, v⟩ := head
    unfold Dict.place at member
    split at member
    · simpa using member
    · split at member
      · rcases List.mem_cons.1 member with same | inside
        · exact .inl same
        · exact .inr (List.mem_cons_of_mem _ inside)
      · rcases List.mem_cons.1 member with same | inside
        · exact .inr (same ▸ List.mem_cons_self)
        · exact (ih inside).imp id (List.mem_cons_of_mem _)

theorem Dict.increasing_cons {α : Type} {k : String} {v : α} {rest : List (String × α)} :
    Dict.Increasing ((k, v) :: rest) ↔
      (∀ entry ∈ rest, k < entry.1) ∧ Dict.Increasing rest := by
  simp [Dict.Increasing]

theorem Dict.increasing_place {α : Type} (key : String) (value : α)
    {entries : List (String × α)} (sorted : Dict.Increasing entries) :
    Dict.Increasing (Dict.place key value entries) := by
  induction entries with
  | nil => simp [Dict.place, Dict.Increasing]
  | cons head rest ih =>
    obtain ⟨k, v⟩ := head
    obtain ⟨above, tail⟩ := Dict.increasing_cons.1 sorted
    unfold Dict.place
    split
    · rename_i less
      refine Dict.increasing_cons.2 ⟨fun entry member => ?_, sorted⟩
      rcases List.mem_cons.1 member with same | inside
      · exact same ▸ less
      · exact String.lt_trans less (above entry inside)
    · rename_i notLess
      split
      · rename_i same
        subst same
        exact Dict.increasing_cons.2 ⟨above, tail⟩
      · rename_i different
        refine Dict.increasing_cons.2 ⟨fun entry member => ?_, ih tail⟩
        rcases Dict.mem_place member with same | inside
        · have le := String.not_lt.1 notLess
          rw [same]
          refine Decidable.byContradiction fun notBelow => ?_
          exact different (String.le_antisymm le (String.not_lt.1 notBelow))
        · exact above entry inside

/-- A finite map with text keys. -/
structure Dict (α : Type) where
  entries : List (String × α)
  increasing : Dict.Increasing entries

namespace Dict
variable {α β : Type}

def empty : Dict α := ⟨[], by simp [Increasing]⟩

instance : EmptyCollection (Dict α) := ⟨empty⟩
instance : Inhabited (Dict α) := ⟨empty⟩

@[ext] theorem ext {a b : Dict α} (same : a.entries = b.entries) : a = b := by
  cases a; cases b; simp_all

instance [BEq α] : BEq (Dict α) := ⟨fun a b => a.entries == b.entries⟩

instance [DecidableEq α] : DecidableEq (Dict α) := fun a b =>
  decidable_of_iff (a.entries = b.entries) ⟨ext, fun h => h ▸ rfl⟩

instance [Repr α] : Repr (Dict α) := ⟨fun d n => reprPrec d.entries n⟩

def find? (d : Dict α) (key : String) : Option α := lookup key d.entries

def contains (d : Dict α) (key : String) : Bool := (d.find? key).isSome

def insert (d : Dict α) (key : String) (value : α) : Dict α :=
  ⟨place key value d.entries, increasing_place key value d.increasing⟩

/-- Add an entry unless its key is present: the first value of a key stays. -/
def insertNew (d : Dict α) (key : String) (value : α) : Dict α :=
  if d.contains key then d else d.insert key value

theorem increasing_filter {entries : List (String × α)} (keep : String × α → Bool)
    (sorted : Increasing entries) : Increasing (entries.filter keep) := by
  unfold Increasing at *
  rw [List.pairwise_map] at *
  exact sorted.filter keep

def filter (d : Dict α) (keep : String → α → Bool) : Dict α :=
  ⟨d.entries.filter fun entry => keep entry.1 entry.2, increasing_filter _ d.increasing⟩

def erase (d : Dict α) (key : String) : Dict α := d.filter fun k _ => k ≠ key

def map (d : Dict α) (f : String → α → β) : Dict β :=
  ⟨d.entries.map fun entry => (entry.1, f entry.1 entry.2), by
    have sorted := d.increasing
    unfold Increasing at *
    simpa [List.map_map, Function.comp_def] using sorted⟩

/-- Insert entries from left to right, so that the last value of a key stays. -/
def ofList (entries : List (String × α)) : Dict α :=
  entries.foldl (fun d entry => d.insert entry.1 entry.2) empty

def keys (d : Dict α) : List String := d.entries.map Prod.fst

def values (d : Dict α) : List α := d.entries.map Prod.snd

def size (d : Dict α) : Nat := d.entries.length

def isEmpty (d : Dict α) : Bool := d.entries.isEmpty

end Dict

/-- The distinct texts of a list in increasing order. -/
def sortedDistinct (texts : List String) : List String :=
  (Dict.ofList (texts.map fun t => (t, ()))).keys

end Conformance
