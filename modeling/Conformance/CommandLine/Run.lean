import Conformance.CommandLine.Arguments
import Conformance.Override.Codec
import Conformance.Report.Architecture
import Conformance.Resolution.Codec
import Conformance.Workspace.Codec

/-! What the commands do and print. A command reads and changes a file tree; whoever runs it
brings in the time and prints. -/
namespace Conformance.CommandLine

def programName : String := "archgov"

def programVersion : String := "0.1.0"

/-- What a run cannot know by itself. -/
structure Surroundings where
  /-- The folder that the command is run in. -/
  folder : String
  now : String
  today : Date
  runId : String
  coloured : Bool := false

structure Outcome where
  exit : Nat := 0
  /-- What is printed, given how many milliseconds the run took. -/
  stdout : Nat → String := fun _ => ""
  stderr : String := ""

namespace Outcome

/-- Print lines. -/
def lines (text : String) : Outcome := { stdout := fun _ => text ++ "\n" }

def document (d : Document) : Outcome := lines (Json.writeIndented d)

/-- Fail after what has been printed. -/
def failed (s : Surroundings) (before : Outcome) (f : Failure) : Outcome :=
  { before with
    exit := 1
    stderr := before.stderr ++ (Style.boldIn .red).paint s.coloured "error:" ++ " [" ++ f.code ++
      "] " ++ f.message ++ "\n" }

/-- Wrong arguments. -/
def usage : Outcome where
  exit := 2
  stderr := "usage: " ++ programName ++ " [--root <path>] resolve <id> | check [<path>...] | " ++
    "audit | cache stats | cache clear\n"

def version : Outcome := lines (programName ++ " " ++ programVersion)

end Outcome

/-- Only two formats are known. -/
def wantsJson (format : String) : Except Failure Bool :=
  match format with
  | "json" => .ok true
  | "text" => .ok false
  | other => .error (.validation
      ("unknown format '" ++ other ++ "' (expected 'text' or 'json')"))

/-- What a command gives: its outcome or a failure before anything was printed, and the tree. -/
abbrev Performed := Except Failure Outcome × FileTree

def performResolve (s : Surroundings) (t : FileTree) (root archId format : String) :
    Except Failure Outcome := do
  let json ← wantsJson format
  let w ← Workspace.load t root s.today
  match w.resolve archId with
  | .ok a =>
    return if json then .document a.toDocument else .lines (Render.architecture s.coloured a)
  | .error e =>
    let hint := match w.registry.closestId? e.offendingId with
      | some candidate =>
        Render.cyan s.coloured "hint:" ++ " did you mean '" ++ candidate ++ "'?\n"
      | none => ""
    return Outcome.failed s { stderr := hint } (.resolution e)

/-- The paths asked for as project paths. -/
def targetsOf (w : Workspace) (paths : List String) : Except Failure (List String) :=
  paths.mapM fun raw =>
    match w.relativePath? raw with
    | some path => .ok path
    | none => .error (.pathTraversal (raw ++ " is outside " ++ w.root))

/-- The files with findings, or all of them, and the counts. -/
def reportText (coloured verbose : Bool) (r : RunReport) (duration : Nat) : String :=
  let files := (r.results.filter fun f => verbose || f.status ≠ .pass).map fun f =>
    Render.file coloured verbose f ++ "\n"
  let cache := match r.cache with
    | some c =>
      if verbose then
        "  " ++ Render.dimmed coloured "cache:" ++ " " ++ toString c.hits ++ " hits, " ++
          toString c.misses ++ " misses, " ++ toString c.invalidated ++ " invalidated" ++
          (if c.fullInvalidation then " (full invalidation)" else "") ++ "\n"
      else ""
    | none => ""
  String.join files ++ Render.summary coloured r.summary duration ++ "\n" ++ cache

/-- Print a report, and fail if files did. -/
def reportOutcome (s : Surroundings) (json verbose failOnWarning : Bool) (r : RunReport) :
    Outcome :=
  let print (duration : Nat) : String :=
    if json then Json.writeIndented (r.toDocument s.runId duration) ++ "\n"
    else reportText s.coloured verbose r duration
  let printed : Outcome := { stdout := print }
  if r.summary.succeeded failOnWarning then printed
  else
    let failed := r.summary.failed + (if failOnWarning then r.summary.warned else 0)
    .failed s printed (.validation (toString failed ++ " of " ++ toString r.summary.files ++
      " files failed validation"))

/-- What a check needs before it starts: the format, the project and the files asked for. -/
def prepareCheck (s : Surroundings) (t : FileTree) (root : String) (o : CheckOptions) :
    Except Failure (Bool × Workspace × List String) := do
  let json ← wantsJson o.format
  let w := (← Workspace.load t root s.today).withCache (!o.noCache)
  return (json, w, ← targetsOf w o.paths)

def performCheck (s : Surroundings) (t : FileTree) (root : String) (o : CheckOptions) :
    Performed :=
  match prepareCheck s t root o with
  | .error f => (.error f, t)
  | .ok (json, w, targets) =>
    let (report, t) := if targets.isEmpty then w.validateAll t s.now
      else w.validatePaths t targets s.now
    let failOnWarning := o.failOnWarning || w.config.validation.failOnWarning
    (report.map (reportOutcome s json o.verbose failOnWarning), t)

def performAudit (s : Surroundings) (t : FileTree) (root format : String) :
    Except Failure Outcome := do
  let json ← wantsJson format
  let w ← Workspace.load t root s.today
  let report := Audit.report (← w.collectOverrides t) w.config.overrides w.today
  return if json then .document (report.toDocument (some s.now))
    else .lines (Render.audit s.coloured report)

def performCacheStats (s : Surroundings) (t : FileTree) (root format : String) :
    Except Failure Outcome := do
  let w ← Workspace.load t root s.today
  let info := w.cacheInfo t
  let mark := Render.cyan s.coloured "▸"
  if ← wantsJson format then return .document info.toDocument
  else if info.isPresent then
    return .lines (mark ++ " " ++ toString info.entries ++ " entries in " ++ info.path ++
      (if info.stale then " (stale: registry or config changed)" else ""))
  else return .lines (mark ++ " no cache at " ++ info.path)

def performCacheClear (s : Surroundings) (t : FileTree) (root : String) : Performed :=
  match Workspace.load t root s.today with
  | .error f => (.error f, t)
  | .ok w =>
    let (cleared, t) := w.clearCache t
    (cleared.map fun
      | true => .lines ((Style.plainIn .green).paint s.coloured "✓" ++ " cache cleared")
      | false => .lines (Render.cyan s.coloured "▸" ++ " nothing to clear"), t)

/-- Carry out a command at a root. -/
def performAt (s : Surroundings) (t : FileTree) (root : String) : Command → Performed
  | .resolve archId format => (performResolve s t root archId format, t)
  | .check options => performCheck s t root options
  | .audit format => (performAudit s t root format, t)
  | .cacheStats format => (performCacheStats s t root format, t)
  | .cacheClear => performCacheClear s t root

/-- Carry out an invocation. The root is the folder it is run in unless another one is given. -/
def perform (s : Surroundings) (t : FileTree) (i : Invocation) : Performed :=
  match t.canonical (FileTree.join s.folder (i.root.getD "")) with
  | .error e => (.error (.io e.message), t)
  | .ok root => performAt s t root i.command

/-- Run the program on its arguments. -/
def run (s : Surroundings) (t : FileTree) (args : List String) : Outcome × FileTree :=
  match request args with
  | .usage => (.usage, t)
  | .version => (.version, t)
  | .run i =>
    match perform s t i with
    | (.ok outcome, t) => (outcome, t)
    | (.error f, t) => (.failed s {} f, t)

end Conformance.CommandLine
