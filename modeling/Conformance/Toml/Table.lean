import Conformance.Document.Basic

/-! Tables under construction. A table knows whether it was only implied by the path to another
one and whether dotted keys made it: both decide who may still add to it. -/
namespace Conformance.Toml

inductive Node where
  /-- A finished value. -/
  | value (d : Document)
  | table (implied dotted : Bool) (entries : List (String × Node))
  /-- An array of tables, each opened by a header of its own. -/
  | tables (items : List (List (String × Node)))
  deriving Inhabited

abbrev Entries := List (String × Node)

namespace Entries

def get? (es : Entries) (key : String) : Option Node :=
  (List.find? (fun entry => entry.1 == key) es).map (·.2)

/-- Put a node under a key, in place of the one there. -/
def put (es : Entries) (key : String) (n : Node) : Entries :=
  if (get? es key).isSome then
    es.map fun entry => if entry.1 == key then (key, n) else entry
  else es ++ [(key, n)]

def remove (es : Entries) (key : String) : Entries := es.filter fun entry => entry.1 != key

/-- Change the table at the end of a path, knowing whether it is only implied. Missing tables are
made on the way. A path of dotted keys may not enter a table that a header has opened; no path
enters a finished value. -/
def update (dotted : Bool) (change : (implied : Bool) → Entries → Option Entries) :
    List String → (implied : Bool) → Entries → Option Entries
  | [], implied, es => change implied es
  | key :: path, _, es =>
    match get? es key with
    | none => (update dotted change path true []).map fun inner =>
        put es key (.table true dotted inner)
    | some (.table implied d inner) =>
      if dotted && !implied then none
      else (update dotted change path implied inner).map fun inner =>
        put es key (.table implied d inner)
    | some (.tables items) =>
      match items.getLast? with
      | none => none
      | some last => (update dotted change path false last).map fun inner =>
          put es key (.tables (items.dropLast ++ [inner]))
    | some (.value _) => none

/-- Add a value under a dotted path. Keys that are there already are refused, and so is a table
of an array, which a header has opened. -/
def addValue (es : Entries) (path : List String) (key : String) (d : Document) : Option Entries :=
  let dotted := !path.isEmpty
  update dotted (fun implied inner =>
    if (dotted && !implied) || (get? inner key).isSome then none
    else some (put inner key (.value d))) path false es

end Entries

mutual

def Node.toDocument : Node → Document
  | .value d => d
  | .table _ _ entries => .record (entryDocuments entries)
  | .tables items => .list (tableDocuments items)

def entryDocuments : List (String × Node) → List (String × Document)
  | [] => []
  | (key, n) :: rest => (key, n.toDocument) :: entryDocuments rest

def tableDocuments : List (List (String × Node)) → List Document
  | [] => []
  | entries :: rest => .record (entryDocuments entries) :: tableDocuments rest

end

/-- The table that a header opens. -/
structure Header where
  path : List String
  key : String
  isArray : Bool

/-- A document while it is read: the table being filled is kept apart from the rest. -/
structure Builder where
  root : Entries := []
  header : Option Header := none
  current : Entries := []

namespace Builder

/-- Put the table being filled into its place. -/
def finish (b : Builder) : Option Entries :=
  match b.header with
  | none => some b.current
  | some h =>
    Entries.update false (fun _ parent =>
      if h.isArray then
        match Entries.get? parent h.key with
        | none => some (Entries.put parent h.key (.tables [b.current]))
        | some (.tables items) => some (Entries.put parent h.key (.tables (items ++ [b.current])))
        | some _ => none
      else some (Entries.put parent h.key (.table false false b.current))) h.path false b.root

/-- The entries that a plain header finds in its place: none, or those of a table that was only
implied by headers. -/
def opened (parent : Entries) (key : String) : Option Entries :=
  match Entries.get? parent key with
  | none => some []
  | some (.table true false entries) => some entries
  | some _ => none

/-- The parent table of a header, after making what is missing on the way. -/
def parentOf (root : Entries) (path : List String) : Option Entries :=
  match path with
  | [] => some root
  | key :: path =>
    match Entries.get? root key with
    | none => some []
    | some (.table _ _ inner) => parentOf inner path
    | some (.tables items) => items.getLast?.bind fun last => parentOf last path
    | some (.value _) => none

/-- Open the table of a header. -/
def start (b : Builder) (h : Header) : Option Builder := do
  let root ← b.finish
  if h.isArray then return { root, header := some h, current := [] }
  else
    let parent ← parentOf root h.path
    let current ← opened parent h.key
    let root ← Entries.update false (fun _ parent => some (Entries.remove parent h.key)) h.path
      false root
    return { root, header := some h, current }

end Builder

end Conformance.Toml
