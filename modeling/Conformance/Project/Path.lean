import Conformance.Text.Basic
import Conformance.Dict

/-! Project paths: segments between slashes, relative to the project root. Normal paths hold no
empty, `.` or `..` segment and never leave the root. -/
namespace Conformance.Path

/-- Apply one segment to the segments before it, the latest first; going up from the root is
refused. -/
def applySegment (stack : List String) (segment : String) : Option (List String) :=
  if segment = "" ∨ segment = "." then some stack
  else if segment = ".." then
    match stack with
    | [] => none
    | _ :: rest => some rest
  else some (segment :: stack)

def segments (path : String) : List String := Text.splitOn '/' path

/-- Collapse `.` and `..` segments; nothing for a path that is absolute, holds a backslash or
leaves the root. -/
def normalize? (path : String) : Option String :=
  if Text.startsWith path "/" || Text.contains path "\\" then none
  else ((segments path).foldlM applySegment []).map fun stack => Text.join "/" stack.reverse

/-- The directory and the file name of a path; the directory of a name alone is empty. -/
def split (path : String) : String × String :=
  match Text.cutLast? '/' path with
  | some (dir, file) => (dir, file)
  | none => ("", path)

/-- The stem and the extension of a file name; a leading dot starts no extension. -/
def splitName (file : String) : String × String :=
  match Text.cutLast? '.' file with
  | some (stem, ext) => if stem.isEmpty then (file, "") else (stem, ext)
  | none => (file, "")

/-- Drop leading `./` pairs. -/
def dropDotSlash : (fuel : Nat) → List Char → List Char
  | 0, s => s
  | fuel + 1, s =>
    match s with
    | '.' :: '/' :: rest => dropDotSlash fuel rest
    | _ => s

/-- Fill a template for a file: its directory, stem and extension. Files at the root have no
directory, so the slash after it goes with it. -/
def fillTemplate (path template : String) : String :=
  let (dir, file) := split path
  let (stem, ext) := splitName file
  let template := if dir.isEmpty then Text.replaceAll "\x7bdir\x7d/" "" template else template
  let filled := Text.replaceAll "\x7bext\x7d" ext
    (Text.replaceAll "\x7bname\x7d" stem (Text.replaceAll "\x7bdir\x7d" dir template))
  String.ofList (dropDotSlash filled.toList.length filled.toList)

/-- The project file that a template names; nothing when it lies outside the root. -/
def expandTemplate? (path template : String) : Option String :=
  normalize? (fillTemplate path template)

/-- What is said of a template that leads outside. -/
def traversalMessage (path template : String) : String :=
  "template '" ++ template ++ "' for " ++ path ++ " resolves outside the project root"

/-- Extensions tried in order for an import without one. -/
def extensions : List String :=
  ["ts", "tsx", "js", "jsx", "mjs", "cjs", "py", "rs", "go", "java", "kt"]

/-- The path that a specifier names before extensions are tried: relative to the importing file,
below `src`, from the root, or a dotted module name. -/
def specifierBase? (importer specifier : String) : Option String :=
  if Text.startsWith specifier "./" || Text.startsWith specifier "../" then
    normalize? ((split importer).1 ++ "/" ++ specifier)
  else
    match (Text.strip? "@/" specifier).or (Text.strip? "~/" specifier) with
    | some rooted => normalize? ("src/" ++ rooted)
    | none =>
      if Text.contains specifier "/" then normalize? specifier
      else if Text.contains specifier "." && !Text.startsWith specifier "." then
        some (Text.replaceAll "." "/" specifier)
      else some specifier

/-- The files a base path may stand for, in order of preference. -/
def candidates (base : String) : List String :=
  base :: (extensions.map fun ext => base ++ "." ++ ext) ++
    (extensions.map fun ext => base ++ "/index." ++ ext) ++ [base ++ "/__init__.py"]

/-- The project file that an import names. -/
def resolveModule? (files : Dict Unit) (importer specifier : String) : Option String :=
  (specifierBase? importer specifier).bind fun base => (candidates base).find? files.contains

end Conformance.Path
