import Conformance.Audit
import Conformance.Diagnostic.Basic
import Conformance.Report.Style

/-! Reports for people: one line per finding, long texts cut. -/
namespace Conformance

/-- Counts over one run. -/
structure RunSummary where
  files : Nat := 0
  passed : Nat := 0
  warned : Nat := 0
  failed : Nat := 0
  errors : Nat := 0
  warnings : Nat := 0
  overridden : Nat := 0
  cached : Nat := 0
  deriving DecidableEq, Repr, Inhabited

namespace Render

/-- Messages are cut after this many characters. -/
def messageWidth : Nat := 160

/-- Words between blanks. -/
def words (s : List Char) : List (List Char) :=
  (s.foldr (fun c pieces => if Chars.isBlank c then [] :: pieces else Chars.pushFirst c pieces)
    [[]]).filter (· ≠ [])

/-- One line: runs of blanks are single spaces, and what is beyond the width is left out. -/
def compact (text : String) (width : Nat) : String :=
  let line := (Text.join " " ((words text.toList).map String.ofList)).toList
  if line.length > width then String.ofList (line.take width) ++ "..." else String.ofList line

/-- The first items and how many more there are. -/
def preview (items : List String) (most : Nat) : String :=
  let shown := Text.join ", " (items.take most)
  if items.length > most then shown ++ " (+" ++ toString (items.length - most) ++ " more)"
  else shown

def badge (coloured : Bool) : FileStatus → String
  | .pass => (Style.boldIn .green).paint coloured "PASS"
  | .warn => (Style.boldIn .yellow).paint coloured "WARN"
  | .fail => (Style.boldIn .red).paint coloured "FAIL"

def suggestion : Suggestion → String
  | .replaceImport old new => "replace import '" ++ old ++ "' with '" ++ new ++ "'"
  | .removeImport m => "remove import '" ++ m ++ "'"
  | .addImport m => "add import '" ++ m ++ "'"
  | .addDecorator n => "add " ++ n
  | .renameFile p => "rename to match /" ++ p ++ "/"
  | .createFile p => "create " ++ p

/-- Line and column of a finding. -/
def location (d : Diagnostic) : String :=
  match d.line, d.column with
  | some line, some column => toString line ++ ":" ++ toString column ++ " "
  | some line, none => toString line ++ " "
  | none, _ => ""

def dimmed (coloured : Bool) : String → String := Style.paint { dimmed := true } coloured

def cyan (coloured : Bool) : String → String := (Style.plainIn .cyan).paint coloured

def bold (coloured : Bool) : String → String := Style.paint { bold := true } coloured

def diagnostic (coloured : Bool) (d : Diagnostic) : String :=
  let code := (Style.boldIn (if d.severity = .error then .red else .yellow)).paint coloured d.code
  let head := "    " ++ code ++ " " ++ dimmed coloured (location d) ++
    compact d.message messageWidth
  let fix := if d.fixHint.isEmpty then ""
    else "\n      " ++ cyan coloured "fix:" ++ " " ++ compact d.fixHint messageWidth
  let meant := match d.didYouMean with
    | some c => "\n      " ++ cyan coloured "did you mean:" ++ " " ++ bold coloured c
    | none => ""
  let advice := match d.suggestion with
    | some s => "\n      " ++ cyan coloured "suggest:" ++ " " ++ suggestion s
    | none => ""
  head ++ fix ++ meant ++ advice

/-- A header and one block per finding. -/
def file (coloured verbose : Bool) (r : FileResult) : String :=
  let header := badge coloured r.status ++ " " ++ (Style.plainIn .white).paint coloured r.path ++
    " " ++ dimmed coloured ("[" ++ r.archId.getD "-" ++ "]")
  let header := if r.overridesCount > 0 then
      header ++ dimmed coloured (" (" ++ toString r.overridesCount ++ " overridden)")
    else header
  let header := if r.fromCache && verbose then header ++ dimmed coloured " (cached)" else header
  Text.join "\n" (header :: (r.violations ++ r.warnings).map (diagnostic coloured))

/-- The closing line of a run, with its length in milliseconds. -/
def summary (coloured : Bool) (s : RunSummary) (duration : Nat) : String :=
  let count (c : Colour) (n : Nat) := (Style.plainIn c).paint coloured (toString n)
  let outcome := if s.failed > 0 then (Style.boldIn .red).paint coloured "✗"
    else (Style.boldIn .green).paint coloured "✓"
  outcome ++ " " ++ toString s.files ++ " files: " ++ count .green s.passed ++ " passed, " ++
    count .yellow s.warned ++ " warned, " ++ count .red s.failed ++ " failed (" ++
    toString s.errors ++ " errors, " ++ toString s.warnings ++ " warnings, " ++
    toString s.overridden ++ " overridden, " ++ toString s.cached ++ " cached) in " ++
    toString duration ++ "ms"

def stateLabel : OverrideState → String
  | .active => "active"
  | .expiringSoon => "expiring soon"
  | .expired => "expired"
  | .noExpiry => "no expiry"
  | .invalid => "invalid"

def auditEntry (coloured : Bool) (e : AuditEntry) : String :=
  "    " ++ e.path ++ ":" ++ toString e.line ++ " " ++ bold coloured e.key ++ " " ++
    dimmed coloured ("[" ++ stateLabel e.state ++ "]")

def auditCluster (coloured : Bool) (c : OverrideCluster) : String :=
  "  " ++ (Style.plainIn .magenta).paint coloured "cluster" ++ " " ++ bold coloured c.key ++
    " in " ++ toString c.files.length ++ " files (" ++ preview c.files 3 ++
    "), consider @intent:" ++ cyan coloured c.suggestedIntent

def audit (coloured : Bool) (r : AuditReport) : String :=
  let count (c : Colour) (n : Nat) := (Style.plainIn c).paint coloured (toString n)
  let head := cyan coloured "▸" ++ " " ++ toString r.totals.total ++ " overrides: " ++
    count .green r.totals.active ++ " active, " ++
    count .yellow r.totals.expiringSoon ++ " expiring soon, " ++
    count .red r.totals.expired ++ " expired, " ++
    toString r.totals.missingExpiry ++ " without expiry, " ++
    toString r.totals.invalid ++ " invalid"
  Text.join "\n" (head :: r.entries.map (auditEntry coloured) ++
    r.clusters.map (auditCluster coloured))

end Render

end Conformance
