import Conformance.Resolution.Basic
import Conformance.Source.Model
import Conformance.Tag.Basic

/-! Values remembered during one run. A look-up and an insertion are separate steps with the
computation between them; of several values computed for one key the first stored stays. -/
namespace Conformance

/-- Remembered values with counts of found and missed look-ups. -/
structure Memo (κ α : Type) where
  entries : List (κ × α) := []
  hits : Nat := 0
  misses : Nat := 0
  deriving Inhabited

namespace Memo
variable {κ α ε : Type} [DecidableEq κ]

def find? (m : Memo κ α) (key : κ) : Option α :=
  (m.entries.find? fun entry => entry.1 = key).map (·.2)

/-- Look a key up and count the outcome. -/
def lookup (m : Memo κ α) (key : κ) : Option α × Memo κ α :=
  match m.find? key with
  | some a => (some a, { m with hits := m.hits + 1 })
  | none => (none, { m with misses := m.misses + 1 })

/-- Store a value unless there is one, and give the stored one. -/
def insertOrGet (m : Memo κ α) (key : κ) (value : α) : α × Memo κ α :=
  match m.find? key with
  | some a => (a, m)
  | none => (value, { m with entries := m.entries ++ [(key, value)] })

/-- The remembered value, or else a computed one. -/
def getOrInsert (m : Memo κ α) (key : κ) (compute : Unit → α) : α × Memo κ α :=
  match m.lookup key with
  | (some a, m) => (a, m)
  | (none, m) => m.insertOrGet key (compute ())

/-- The remembered value, or else a computed one; a failure is not remembered. -/
def getOrTryInsert (m : Memo κ α) (key : κ) (compute : Unit → Except ε α) :
    Except ε α × Memo κ α :=
  match m.lookup key with
  | (some a, m) => (.ok a, m)
  | (none, m) =>
    match compute () with
    | .error e => (.error e, m)
    | .ok a =>
      let (a, m) := m.insertOrGet key a
      (.ok a, m)

def size (m : Memo κ α) : Nat := m.entries.length

/-- Forget the values and keep the counts. -/
def clear (m : Memo κ α) : Memo κ α := { m with entries := [] }

end Memo

/-- Everything remembered during one run. -/
structure Session where
  contents : Memo String String := {}
  tags : Memo String SourceTags := {}
  models : Memo String SourceModel := {}
  /-- Resolved imports by importing file and specifier. -/
  modules : Memo (String × String) (Option String) := {}
  /-- Failed resolutions are remembered too. -/
  architectures : Memo String (Except ResolutionError FlattenedArchitecture) := {}
  deriving Inhabited

namespace Session

/-- The architecture of a file whose tags are remembered. -/
def archId? (s : Session) (path : String) : Option String :=
  (s.tags.find? path).bind SourceTags.archId?

def clear (s : Session) : Session where
  contents := s.contents.clear
  tags := s.tags.clear
  models := s.models.clear
  modules := s.modules.clear
  architectures := s.architectures.clear

end Session

end Conformance
