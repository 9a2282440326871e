import Conformance.Diagnostic.Basic
import Conformance.Dict

/-! Scheduling checks of changed files. A path is due once it has been quiet for a while; a
ticket carries the path's generation, and a result is taken only while no newer change is
known. Times are in milliseconds. -/
namespace Conformance

structure Ticket where
  path : String
  generation : Nat
  deriving DecidableEq, Repr, Inhabited

structure Scheduler where
  debounce : Nat := 300
  /-- The last change of each path not yet handed out. -/
  pending : Dict Nat := ∅
  generations : Dict Nat := ∅
  latest : Dict FileResult := ∅
  /-- Results refused because of a newer change. -/
  superseded : Nat := 0
  deriving Inhabited

namespace Scheduler

/-- Record a change of a path. -/
def notify (s : Scheduler) (path : String) (time : Nat) : Scheduler :=
  { s with
    generations := s.generations.insert path ((s.generations.find? path).getD 0 + 1)
    pending := s.pending.insert path time }

/-- Whether a change is old enough. -/
def isDue (s : Scheduler) (now last : Nat) : Bool := now - last ≥ s.debounce

/-- Hand out the paths that are due, in path order. -/
def due (s : Scheduler) (now : Nat) : List Ticket × Scheduler :=
  let ready := (s.pending.filter fun _ last => s.isDue now last).keys
  (ready.map fun path => { path, generation := (s.generations.find? path).getD 0 },
    { s with pending := s.pending.filter fun _ last => !s.isDue now last })

/-- The earliest time at which a path becomes due. -/
def nextDeadline? (s : Scheduler) : Option Nat := s.pending.values.min?.map (· + s.debounce)

def hasPending (s : Scheduler) : Bool := !s.pending.isEmpty

def isCurrent (s : Scheduler) (t : Ticket) : Bool :=
  s.generations.find? t.path = some t.generation

/-- Offer a result; it is stored if its ticket is current. -/
def commit (s : Scheduler) (t : Ticket) (r : FileResult) : Bool × Scheduler :=
  if s.isCurrent t then (true, { s with latest := s.latest.insert t.path r })
  else (false, { s with superseded := s.superseded + 1 })

def latest? (s : Scheduler) (path : String) : Option FileResult := s.latest.find? path

def results (s : Scheduler) : List FileResult := s.latest.values

end Scheduler

/-- What a change of a project file asks for. -/
inductive ChangeTarget where
  /-- The registry or the configuration changed. -/
  | reload
  | source (path : String)
  | ignore
  deriving DecidableEq, Repr, Inhabited

/-- The source file that a stored model belongs to. -/
def modelOwner? (path : String) : Option String :=
  ((Text.strip? ".arch/models/" path).bind (Text.stripEnd? ".json")).filter (· ≠ "")

/-- What a changed path means. A change of a stored model is one of its source file. -/
def classifyChange (included : String → Bool) (path : String) : ChangeTarget :=
  if !Text.startsWith path ".arch/" then
    if included path then .source path else .ignore
  else if Text.endsWith path ".toml" then .reload
  else
    match modelOwner? path with
    | some owner => if included owner then .source owner else .ignore
    | none => .ignore

end Conformance
