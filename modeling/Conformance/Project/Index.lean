import Conformance.Project.Path

/-! The files of a project with their texts and the imports between them. -/
namespace Conformance

structure ProjectIndex where
  files : Dict Unit := ∅
  imports : Dict (List String) := ∅
  importers : Dict (List String) := ∅
  contents : Dict String := ∅
  deriving Inhabited

namespace ProjectIndex

def addFile (p : ProjectIndex) (path : String) : ProjectIndex :=
  { p with files := p.files.insert path () }

def setContent (p : ProjectIndex) (path content : String) : ProjectIndex :=
  { p with contents := p.contents.insert path content }

/-- Set the files that a file imports, in place of those set before. -/
def setImports (p : ProjectIndex) (path : String) (targets : List String) : ProjectIndex :=
  { p with imports := p.imports.insert path targets }

/-- One reverse edge. -/
def addImporter (d : Dict (List String)) (edge : String × String) : Dict (List String) :=
  d.insert edge.2 ((d.find? edge.2).getD [] ++ [edge.1])

/-- All import edges in the order of the importing files. -/
def edges (p : ProjectIndex) : List (String × String) :=
  p.imports.entries.flatMap fun (source, targets) => targets.map fun t => (source, t)

/-- Compute who imports each file. -/
def link (p : ProjectIndex) : ProjectIndex :=
  { p with importers := (p.edges.foldl addImporter ∅).map fun _ sources => sortedDistinct sources }

def contains (p : ProjectIndex) (path : String) : Bool := p.files.contains path

def importsOf (p : ProjectIndex) (path : String) : List String := (p.imports.find? path).getD []

def importersOf (p : ProjectIndex) (path : String) : List String :=
  (p.importers.find? path).getD []

def content? (p : ProjectIndex) (path : String) : Option String := p.contents.find? path

def resolveModule? (p : ProjectIndex) (importer specifier : String) : Option String :=
  Path.resolveModule? p.files importer specifier

/-- A breadth-first search in progress: the files met, the file that each was met from, and the files
to go on from in the next round. -/
structure Search where
  seen : List String
  parents : Dict String
  next : List String

namespace Search

def ofStart (start : String) : Search := { seen := [start], parents := ∅, next := [start] }

/-- A file that was met from another one. -/
def meet (s : Search) (file target : String) : Search where
  seen := target :: s.seen
  parents := s.parents.insert target file
  next := s.next ++ [target]

/-- From a file back to the start, from each file to the one that it was met from. No file comes up
twice, so the number of files met bounds the steps. -/
def wayBack (parents : Dict String) : (fuel : Nat) → (file : String) → List String
  | 0, file => [file]
  | fuel + 1, file =>
    match parents.find? file with
    | some parent => file :: wayBack parents fuel parent
    | none => [file]

/-- The way to a file and on to the start. -/
def cycle (s : Search) (start file : String) : List String :=
  start :: ((wayBack s.parents s.seen.length file).reverse.tail ++ [start])

end Search

/-- Look at the targets of one file in turn; a target that is the start closes a cycle. -/
def visitTargets (within : String → Bool) (start file : String) :
    List String → Search → List String ⊕ Search
  | [], s => .inr s
  | target :: rest, s =>
    if !within target then visitTargets within start file rest s
    else if target = start then .inl (s.cycle start file)
    else if s.seen.contains target then visitTargets within start file rest s
    else visitTargets within start file rest (s.meet file target)

/-- Go on from the files of one round. -/
def visitRound (p : ProjectIndex) (within : String → Bool) (start : String) :
    List String → Search → List String ⊕ Search
  | [], s => .inr s
  | file :: rest, s =>
    match visitTargets within start file (p.importsOf file) s with
    | .inl cycle => .inl cycle
    | .inr s => visitRound p within start rest s

/-- Rounds until a cycle closes or no file is left. Every round but the last meets a new file,
so the number of edges bounds them. -/
def searchRounds (p : ProjectIndex) (within : String → Bool) (start : String) :
    (fuel : Nat) → Search → Option (List String)
  | 0, _ => none
  | fuel + 1, s =>
    if s.next.isEmpty then none
    else
      match visitRound p within start s.next { s with next := [] } with
      | .inl cycle => some cycle
      | .inr s => searchRounds p within start fuel s

/-- A shortest import cycle through a file, inside the files that satisfy a condition. It starts
and ends with the file. -/
def cycleThrough? (p : ProjectIndex) (start : String) (within : String → Bool) :
    Option (List String) :=
  if within start then searchRounds p within start (p.edges.length + 2) (.ofStart start) else none

end ProjectIndex

end Conformance
