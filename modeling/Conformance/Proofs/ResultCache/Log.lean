import Conformance.Proofs.ResultCache.Persistence

/-! A cache under any sequence of calls, on whatever document stands where it is loaded from. What
it holds and counts can be told from the log of the calls, and as long as nothing is marked for
writing, the tree holds the same entries. -/
namespace Conformance.ResultCache

/-- Whether looking a file up takes its entry away. -/
def drops (c : ResultCache) (file checksum : String) : Bool :=
  c.document.files.contains file && !(c.get? file checksum).2.document.files.contains file

/-- One call and what came of it. -/
inductive Event where
  | loaded (found : Stored) (registryChecksum configChecksum : String)
  | got (file checksum : String) (answer : Option CachedResult) (dropped : Bool)
  | peeked (file checksum : String) (answer : Option CachedResult)
  | put (file : String) (e : CachedResult)
  | retained (keep : String → Bool)
  | flushed (outcome : Except FileError Unit)

namespace Event

def isLoad : Event → Bool
  | loaded _ _ _ => true
  | _ => false

def isGet : Event → Bool
  | got _ _ _ _ => true
  | _ => false

def isHit : Event → Bool
  | got _ _ answer _ => answer.isSome
  | _ => false

def isDrop : Event → Bool
  | got _ _ _ dropped => dropped
  | _ => false

/-- How many entries a load threw away. -/
def discarded : Event → Nat
  | loaded (.readable d) registryChecksum configChecksum =>
    if isCurrent d registryChecksum configChecksum then 0 else d.files.size
  | _ => 0

/-- The call makes an entry that of a file: it was put, or stood in a document of this form that was
written for the registry and the configuration of the load. -/
def Brings (file : String) (e : CachedResult) : Event → Prop
  | loaded (.readable d) registryChecksum configChecksum =>
    (d.version = cacheVersion ∧ d.registryChecksum = registryChecksum ∧
      d.configChecksum = configChecksum) ∧ d.files.find? file = some e
  | put other entry => other = file ∧ entry = e
  | _ => False

/-- The call leaves nothing of an entry that a file had. -/
def Ends (file : String) (e : CachedResult) : Event → Prop
  | loaded _ _ _ => True
  | got other checksum _ _ => other = file ∧ e.checksum ≠ checksum
  | put other _ => other = file
  | retained keep => keep file = false
  | _ => False

end Event

/-- The entry that a file got last and that no call took since; the latest call comes first. -/
def Current (log : List Event) (file : String) (e : CachedResult) : Prop :=
  ∃ later event earlier, log = later ++ event :: earlier ∧ event.Brings file e ∧
    ∀ x ∈ later, ¬ x.Ends file e

/-- The calls on the cache that was loaded last. -/
def sinceLoad (log : List Event) : List Event := log.takeWhile fun e => !e.isLoad

def discardedAtLoad (log : List Event) : Nat :=
  ((log.find? Event.isLoad).map Event.discarded).getD 0

/-- A cache, the tree it is kept in and the log that led to them. Calls come in any order, at any
time and with any answers of the tree; a load may find that the tree has changed in any way. -/
inductive Reaches : List Event → ResultCache → FileTree → Prop where
  | start (t : FileTree) (path registryChecksum configChecksum now : String) :
    Reaches [.loaded (stored t path) registryChecksum configChecksum]
      (load t path registryChecksum configChecksum now) t
  | load {log : List Event} {c : ResultCache} {t : FileTree} (before : Reaches log c t)
    (t' : FileTree) (path registryChecksum configChecksum now : String) :
    Reaches (.loaded (stored t' path) registryChecksum configChecksum :: log)
      (load t' path registryChecksum configChecksum now) t'
  | get {log : List Event} {c : ResultCache} {t : FileTree} (before : Reaches log c t)
    (file checksum : String) :
    Reaches (.got file checksum (c.get? file checksum).1 (c.drops file checksum) :: log)
      (c.get? file checksum).2 t
  | peek {log : List Event} {c : ResultCache} {t : FileTree} (before : Reaches log c t)
    (file checksum : String) :
    Reaches (.peeked file checksum (c.peek? file checksum) :: log) c t
  | put {log : List Event} {c : ResultCache} {t : FileTree} (before : Reaches log c t)
    (file : String) {e : CachedResult} (room : e.Storable) :
    Reaches (.put file e :: log) (c.put file e) t
  | retain {log : List Event} {c : ResultCache} {t : FileTree} (before : Reaches log c t)
    (keep : String → Bool) : Reaches (.retained keep :: log) (c.retain keep) t
  | flush {log : List Event} {c : ResultCache} {t : FileTree} (before : Reaches log c t)
    (now : String) :
    Reaches (.flushed (c.flush t now).1 :: log) (c.flush t now).2.1 (c.flush t now).2.2

section Log

variable {log : List Event} {file : String} {e : CachedResult}

/-- An entry stays current until a call ends it. -/
theorem current_cons {x : Event} :
    Current (x :: log) file e ↔ x.Brings file e ∨ ¬ x.Ends file e ∧ Current log file e := by
  constructor
  · rintro ⟨later, event, earlier, split, brings, kept⟩
    cases later with
    | nil =>
      cases split
      exact .inl brings
    | cons first later =>
      cases split
      exact .inr ⟨kept _ List.mem_cons_self, later, event, earlier, rfl, brings,
        fun x member => kept x (List.mem_cons_of_mem _ member)⟩
  · rintro (brings | ⟨here, later, event, earlier, rfl, brings, kept⟩)
    · exact ⟨[], x, log, rfl, brings, by simp⟩
    · refine ⟨x :: later, event, earlier, rfl, brings, ?_⟩
      intro y member
      rcases List.mem_cons.1 member with rfl | inside
      · exact here
      · exact kept y inside

/-- After a load, the entries are those that it brings, whatever came before. -/
theorem current_loaded {found : Stored} {registryChecksum configChecksum : String} :
    Current (.loaded found registryChecksum configChecksum :: log) file e ↔
      (Event.loaded found registryChecksum configChecksum).Brings file e := by
  rw [current_cons]
  simp [Event.Ends]

/-- A current entry that was not put since a load stood in the document that was found there. -/
private theorem brings_of_current {recent earlier : List Event} {found : Stored}
    {registryChecksum configChecksum : String}
    (current : Current (recent ++ .loaded found registryChecksum configChecksum :: earlier) file e)
    (own : ∀ x ∈ recent, x.isLoad = false) :
    .put file e ∈ recent ∨ (Event.loaded found registryChecksum configChecksum).Brings file e := by
  induction recent with
  | nil => exact .inr (current_loaded.1 current)
  | cons x recent ih =>
    rcases current_cons.1 current with brings | ⟨-, current⟩
    · cases x with
      | put other entry =>
        obtain ⟨rfl, rfl⟩ := brings
        exact .inl List.mem_cons_self
      | loaded => cases own _ List.mem_cons_self
      | got | peeked | retained | flushed => cases brings
    · have later := ih current fun y member => own y (List.mem_cons_of_mem _ member)
      exact later.imp (List.mem_cons_of_mem _) id

end Log

section Calls

variable {c : ResultCache} {t : FileTree} {file checksum other now : String}

theorem drops_iff : c.drops file checksum = true ↔
    ∃ e, c.document.files.find? file = some e ∧ e.checksum ≠ checksum := by
  rw [drops, Dict.contains, Dict.contains, get?_files, if_pos rfl, peek?]
  cases c.document.files.find? file with
  | none => simp
  | some e => by_cases fits : e.checksum = checksum <;> simp [fits, Option.filter]

/-- The counters after a look-up. -/
theorem get?_stats (c : ResultCache) (file checksum : String) :
    (c.get? file checksum).2.stats = { c.stats with
      hits := c.stats.hits + (c.get? file checksum).1.isSome.toNat
      misses := c.stats.misses + (c.get? file checksum).1.isNone.toNat
      invalidated := c.stats.invalidated + (c.drops file checksum).toNat } := by
  unfold drops get?
  cases held : c.document.files.find? file with
  | none => simp [Dict.contains, held]
  | some e =>
    by_cases fits : e.checksum = checksum
    · simp [Dict.contains, held, fits]
    · simp [Dict.contains, held, fits]

theorem flush_stats : (c.flush t now).2.1.stats = c.stats := by
  rcases flush_cases c t now with ⟨-, same⟩ | ⟨-, _, _, -, same⟩ <;> rw [same]

theorem isCurrent_iff {d : CacheDocument} {registryChecksum configChecksum : String} :
    isCurrent d registryChecksum configChecksum = true ↔ d.version = cacheVersion ∧
      d.registryChecksum = registryChecksum ∧ d.configChecksum = configChecksum := by
  simp [isCurrent, and_assoc]

theorem load_find?_iff {path registryChecksum configChecksum : String} {e : CachedResult} :
    (load t path registryChecksum configChecksum now).document.files.find? file = some e ↔
      (Event.loaded (stored t path) registryChecksum configChecksum).Brings file e := by
  unfold load start
  cases stored t path with
  | absent | broken => simp [Event.Brings]
  | readable d =>
    simp only [Event.Brings, ← isCurrent_iff]
    by_cases current : isCurrent d registryChecksum configChecksum = true
    · simp [current]
    · simp [current]

/-- The counters of a cache that was just loaded. -/
theorem load_stats (t : FileTree) (path registryChecksum configChecksum now : String) :
    (load t path registryChecksum configChecksum now).stats = {
      invalidated := (Event.loaded (stored t path) registryChecksum configChecksum).discarded
      fullInvalidation := (load t path registryChecksum configChecksum now).dirty } := by
  unfold load start
  cases stored t path with
  | absent | broken => rfl
  | readable d =>
    dsimp only [Event.discarded]
    split <;> rfl

end Calls

section Counts

variable {log : List Event}

theorem sinceLoad_loaded (found : Stored) (registryChecksum configChecksum : String) :
    sinceLoad (.loaded found registryChecksum configChecksum :: log) = [] := rfl

theorem sinceLoad_cons {x : Event} (own : x.isLoad = false) :
    sinceLoad (x :: log) = x :: sinceLoad log := by
  simp [sinceLoad, own]

theorem discardedAtLoad_loaded (found : Stored) (registryChecksum configChecksum : String) :
    discardedAtLoad (.loaded found registryChecksum configChecksum :: log) =
      (Event.loaded found registryChecksum configChecksum).discarded := rfl

private theorem discardedAtLoad_cons {x : Event} (own : x.isLoad = false) :
    discardedAtLoad (x :: log) = discardedAtLoad log := by
  simp [discardedAtLoad, own]

end Counts

namespace Reaches
variable {log : List Event} {c : ResultCache} {t : FileTree}

theorem sound (reached : Reaches log c t) : c.Sound t := by
  induction reached with
  | start t path registry config now => exact sound_load t path registry config now
  | load before t' path registry config now ih => exact sound_load t' path registry config now
  | get before file checksum ih => exact ih.get file checksum
  | peek before file checksum ih => exact ih
  | put before file room ih => exact ih.put file room
  | retain before keep ih => exact ih.retain keep
  | flush before now ih => exact ih.flush now

/-- A cache holds an entry exactly if it is current by the log. -/
theorem find?_iff (reached : Reaches log c t) (file : String) (e : CachedResult) :
    c.document.files.find? file = some e ↔ Current log file e := by
  induction reached with
  | start t path registry config now => rw [current_loaded, load_find?_iff]
  | load before t' path registry config now ih => rw [current_loaded, load_find?_iff]
  | get before looked checksum ih =>
    rw [current_cons, get?_files, ← ih]
    by_cases same : looked = file
    · subst same
      simp [Event.Brings, Event.Ends, peek?_eq_some, and_comm]
    · simp [Event.Brings, Event.Ends, same]
  | peek before looked checksum ih =>
    rw [current_cons, ← ih]
    simp [Event.Brings, Event.Ends]
  | put before changed room ih =>
    rw [current_cons, ← ih, ResultCache.put, Dict.find?_insert]
    by_cases same : changed = file
    · simp [Event.Brings, Event.Ends, same]
    · simp [Event.Brings, Event.Ends, same]
  | retain before keep ih =>
    rw [current_cons, ← ih, retain_files]
    cases kept : keep file
    · simp [Event.Brings, Event.Ends, kept]
    · simp [Event.Brings, Event.Ends, kept]
  | flush before now ih =>
    rw [current_cons, ← ih, flush_files]
    simp [Event.Brings, Event.Ends]

/-- Every look-up is a hit or a miss, and the hits are those that were answered. -/
theorem lookups_eq (reached : Reaches log c t) :
    c.stats.hits = (sinceLoad log).countP Event.isHit ∧
      c.stats.hits + c.stats.misses = (sinceLoad log).countP Event.isGet := by
  induction reached with
  | start t path registry config now =>
    rw [sinceLoad_loaded, load_stats]
    exact ⟨rfl, rfl⟩
  | load before t' path registry config now ih =>
    rw [sinceLoad_loaded, load_stats]
    exact ⟨rfl, rfl⟩
  | @get log c t before file checksum ih =>
    rw [sinceLoad_cons rfl, get?_stats, List.countP_cons, List.countP_cons]
    cases answer : (c.get? file checksum).1 with
    | none =>
      simp only [Event.isHit, Event.isGet, Option.isSome_none, Option.isNone_none, Bool.toNat_false,
        Bool.toNat_true, Bool.false_eq_true, if_false, if_true]
      omega
    | some e =>
      simp only [Event.isHit, Event.isGet, Option.isSome_some, Option.isNone_some, Bool.toNat_false,
        Bool.toNat_true, if_true]
      omega
  | peek before file checksum ih => exact ih
  | put before file room ih => exact ih
  | retain before keep ih => exact ih
  | flush before now ih =>
    rw [flush_stats]
    exact ih

/-- Entries that go are counted, at the load or by the look-up that drops them. -/
theorem invalidated_eq (reached : Reaches log c t) :
    c.stats.invalidated = discardedAtLoad log + (sinceLoad log).countP Event.isDrop := by
  induction reached with
  | start t path registry config now =>
    rw [sinceLoad_loaded, discardedAtLoad_loaded, load_stats]
    rfl
  | load before t' path registry config now ih =>
    rw [sinceLoad_loaded, discardedAtLoad_loaded, load_stats]
    rfl
  | @get log c t before file checksum ih =>
    rw [sinceLoad_cons rfl, discardedAtLoad_cons rfl, get?_stats, List.countP_cons, ← Nat.add_assoc,
      ← ih]
    cases c.drops file checksum with
    | false => simp [Event.isDrop]
    | true => simp [Event.isDrop]
  | peek before file checksum ih => exact ih
  | put before file room ih => exact ih
  | retain before keep ih => exact ih
  | flush before now ih =>
    rw [flush_stats]
    exact ih

theorem tail {x : Event} (reached : Reaches (x :: log) c t) (more : log ≠ []) :
    ∃ c' t', Reaches log c' t' := by
  cases reached with
  | start => exact absurd rfl more
  | load before | get before | peek before | put before | retain before | flush before =>
    exact ⟨_, _, before⟩

/-- Every call of a log was made on some cache. -/
private theorem of_append {later earlier : List Event} {x : Event}
    (reached : Reaches (later ++ x :: earlier) c t) : ∃ c' t', Reaches (x :: earlier) c' t' := by
  induction later generalizing c t with
  | nil => exact ⟨c, t, reached⟩
  | cons first later ih =>
    obtain ⟨c', t', before⟩ := reached.tail (by simp)
    exact ih before

/-- A look-up drops an entry exactly if it meets one for another checksum. -/
theorem dropped_iff {later earlier : List Event} {file checksum : String}
    {answer : Option CachedResult} {dropped : Bool}
    (reached : Reaches (later ++ .got file checksum answer dropped :: earlier) c t) :
    dropped = true ↔ ∃ e, Current earlier file e ∧ e.checksum ≠ checksum := by
  obtain ⟨c', t', here⟩ := reached.of_append
  cases here with
  | get before => simp only [drops_iff, before.find?_iff]

end Reaches

/-- A cache gives the entry that a file got last, if no call took it since and the checksum is the same.
Its counters count look-ups and lost entries, and what is not marked for writing is in the tree. -/
theorem cache_follows_log {log : List Event} {c : ResultCache} {t : FileTree}
    (reached : Reaches log c t) :
    (∀ file checksum e,
      ((c.get? file checksum).1 = some e ↔ Current log file e ∧ e.checksum = checksum) ∧
      (c.peek? file checksum = some e ↔ Current log file e ∧ e.checksum = checksum)) ∧
    c.stats.hits = (sinceLoad log).countP Event.isHit ∧
    c.stats.hits + c.stats.misses = (sinceLoad log).countP Event.isGet ∧
    c.stats.invalidated = discardedAtLoad log + (sinceLoad log).countP Event.isDrop ∧
    (∀ later file checksum answer dropped earlier,
      log = later ++ .got file checksum answer dropped :: earlier →
      (dropped = true ↔ ∃ e, Current earlier file e ∧ e.checksum ≠ checksum)) ∧
    (c.dirty = false → (stored t c.path).files? = some c.document.files) ∧
    (∀ now, (c.flush t now).1 = .ok () →
      (stored (c.flush t now).2.2 c.path).files? = some c.document.files) ∧
    ∀ recent d registryChecksum configChecksum earlier,
      log = recent ++ .loaded (.readable d) registryChecksum configChecksum :: earlier →
      (∀ x ∈ recent, x.isLoad = false) →
      d.version ≠ cacheVersion ∨ d.registryChecksum ≠ registryChecksum ∨
        d.configChecksum ≠ configChecksum →
      ∀ file checksum e, (c.get? file checksum).1 = some e ∨ c.peek? file checksum = some e →
        .put file e ∈ recent := by
  have given (file checksum : String) (e : CachedResult) :
      c.peek? file checksum = some e ↔ Current log file e ∧ e.checksum = checksum := by
    rw [peek?_eq_some, reached.find?_iff]
  refine ⟨?_, reached.lookups_eq.1, reached.lookups_eq.2, reached.invalidated_eq, ?_, ?_, ?_, ?_⟩
  · intro file checksum e
    rw [get?_eq_peek?]
    exact ⟨given file checksum e, given file checksum e⟩
  · rintro later file checksum answer dropped earlier rfl
    exact reached.dropped_iff
  · intro clean
    exact (reached.sound.clean clean).files?
  · intro now done
    exact (reached.sound.persisted_of_flush done).files?
  · rintro recent d registryChecksum configChecksum earlier rfl own foreign file checksum e answer
    rw [get?_eq_peek?, or_self] at answer
    rcases brings_of_current ((given file checksum e).1 answer).1 own with put | ⟨meant, -⟩
    · exact put
    · obtain ⟨version, registry, config⟩ := meant
      rcases foreign with other | other | other
      · exact absurd version other
      · exact absurd registry other
      · exact absurd config other

/-- A result that was stored before its file changed. -/
def outdated : CachedResult where
  checksum := "old"
  cachedAt := "t"
  archId := none
  status := .pass
  violations := []
  warnings := []
  imports := []
  overridesCount := 0

theorem outdated_entry_is_dropped : ∃ c t,
    Reaches [.got "a.ts" "new" none true, .put "a.ts" outdated, .loaded .absent "r" "k"] c t ∧
      c.stats.hits + c.stats.misses = 1 ∧ c.stats.invalidated = 1 ∧
      c.peek? "a.ts" "old" = none := by
  have room : outdated.Storable :=
    ⟨List.forall_mem_nil _, List.forall_mem_nil _, Nat.two_pow_pos 64⟩
  have reached : Reaches [.got "a.ts" "new" none true, .put "a.ts" outdated,
      .loaded .absent "r" "k"] _ _ :=
    ((Reaches.start {} "/c.json" "r" "k" "t").put "a.ts" room).get "a.ts" "new"
  obtain ⟨given, -, lookups, invalidated, -⟩ := cache_follows_log reached
  refine ⟨_, _, reached, lookups, invalidated, ?_⟩
  refine Option.eq_none_iff_forall_ne_some.2 fun e found => ?_
  obtain ⟨current, -⟩ := (given "a.ts" "old" e).2.1 found
  rcases current_cons.1 current with none | ⟨kept, current⟩
  · cases none
  · rcases current_cons.1 current with ⟨-, rfl⟩ | ⟨ended, -⟩
    · exact kept ⟨rfl, by decide⟩
    · exact ended rfl

end Conformance.ResultCache
