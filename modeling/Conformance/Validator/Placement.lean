import Conformance.Failure
import Conformance.Glob
import Conformance.Validator.Basic

/-! Rules on the file as a whole: its name, its place, its length and the files beside it. -/
namespace Conformance.Validator

/-- The last segment of a path. -/
def fileName (path : String) : String := (Path.split path).2

/-- A file name up to its first dot; a leading dot belongs to the name. -/
def nameStem? (name : String) : Option String :=
  match Text.offsetOf? '.' name with
  | some offset => if offset > 0 then Text.upTo? offset name else some name
  | none => some name

/-- A name fits if it, or else its stem, matches. -/
def nameFits (limits : PatternLimits) (pattern name stem : String) :
    Except Pattern.Rejection Bool := do
  if ← Pattern.isMatch limits pattern name then return true
  Pattern.isMatch limits pattern stem

def namingPattern : Validator := onText "a regular expression" fun pattern c ctx => do
  let name := fileName ctx.filePath
  let stem ← nameStem? name
  return match nameFits ctx.limits pattern name stem with
    | .error why => .fail (rejection c pattern why)
    | .ok true => .pass
    | .ok false => .fail ((Diagnostic.ofConstraint Rule.namingPattern.code c c.value
        ("File name '" ++ name ++ "' does not match /" ++ pattern ++ "/")
        ("Rename the file to match /" ++ pattern ++ "/")).suggest (.renameFile pattern))

/-- Whether a path lies in a place, given as a glob or as a folder. -/
def liesIn (location path : String) : Bool :=
  if Text.contains location "*" || Text.contains location "?" then Glob.matchPath location path
  else
    let chars := location.toList
    let folder := Text.dropTrailing '/' (String.ofList (Path.dropDotSlash chars.length chars))
    folder.isEmpty || Text.startsWith path (folder ++ "/")

def locationPattern : Validator := onText "a path glob or directory prefix" fun location c ctx =>
  some (if liesIn location ctx.filePath then .pass
    else .fail (.ofConstraint Rule.locationPattern.code c c.value
      (ctx.archId ++ " files must live under '" ++ location ++ "', found '" ++ ctx.filePath ++
        "'")
      ("Move the file under '" ++ location ++ "'")))

def maxFileLines : Validator := onLimit fun limit c ctx =>
  let (count, unit) :=
    if c.excludeComments then (ctx.model.locCount, "lines of code")
    else (ctx.model.lineCount, "lines")
  some (if count ≤ limit then .pass
    else .fail (.ofConstraint Rule.maxFileLines.code c c.value
      ("File has " ++ toString count ++ " " ++ unit ++ " (max " ++ toString limit ++ ")")
      "Split the file into smaller modules"))

/-- A template that leads out of the project is an error, whatever the constraint's severity. -/
def escaped (c : Constraint) (path template : String) : Diagnostic :=
  { Diagnostic.ofConstraint Code.pathTraversal c (.text template)
      (Failure.pathTraversal (Path.traversalMessage path template)).message
      "Keep companion templates inside the project" with severity := .error }

/-- The paths that templates stand for; the first template that leads out ends it. -/
def expandAll (c : Constraint) (path : String) (templates : List String) :
    Except Diagnostic (List String) :=
  templates.mapM fun template =>
    match Path.expandTemplate? path template with
    | some p => .ok p
    | none => .error (escaped c path template)

/-- Whether a path is that of a test. -/
def looksLikeTest (path : String) : Bool :=
  let name := fileName path
  Text.contains name ".test." || Text.contains name ".spec." || Text.contains name "_test." ||
    Text.startsWith name "test_" || (Path.segments path).contains "__tests__"

def requireTestFile : Validator :=
  onList "a test path template or list of templates" fun entries c ctx =>
    let given := entries.filter fun t => !Text.isBlank t
    let templates := if given.isEmpty then ctx.testFilePatterns else given
    if looksLikeTest ctx.filePath || templates.isEmpty then some .pass
    else
      match expandAll c ctx.filePath templates with
      | .error violation => some (.fail violation)
      | .ok paths =>
        if paths.any ctx.project.contains then some .pass
        else do
          let first ← paths.head?
          return .fail ((Diagnostic.ofConstraint Rule.requireTestFile.code c c.value
            ("No test file found (looked for " ++ Text.join ", " paths ++ ")")
            ("Create " ++ first)).suggest (.createFile first))

/-- The missing files to report: all of them, or where any would do the first. -/
def reportedMissing (mode : MatchMode) (missing : List String) : Option (List String) :=
  match mode with
  | .all => some missing
  | .any => missing.head?.map fun first => [first]

def requireCompanionFile : Validator :=
  onList "a companion path template or list of templates" fun templates c ctx =>
    match expandAll c ctx.filePath templates with
    | .error violation => some (.fail violation)
    | .ok paths =>
      let missing := paths.filter fun p => !ctx.project.contains p
      if c.matchMode.fails paths.length missing.length then
        (reportedMissing c.matchMode missing).map fun reported =>
          .ofViolations (reported.map fun path =>
            (Diagnostic.ofConstraint Rule.requireCompanionFile.code c c.value
              ("Companion file '" ++ path ++ "' is missing")
              ("Create " ++ path)).suggest (.createFile path))
      else some .pass

end Conformance.Validator
