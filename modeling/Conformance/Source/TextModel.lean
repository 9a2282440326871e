import Conformance.Source.ImportClause
import Conformance.Regex.Search

/-! Facts read off the text of a file alone, line by line: imports and exports. -/
namespace Conformance.TextModel

def importFrom : Option Regex := Regex.compile?
  "^\\s*import\\s+(type\\s+)?([^'\"]*?)\\s*from\\s*['\"]([^'\"]+)['\"]"

def importBare : Option Regex := Regex.compile? "^\\s*import\\s+['\"]([^'\"]+)['\"]"

def requireCall : Option Regex := Regex.compile? "\\brequire\\(\\s*['\"]([^'\"]+)['\"]\\s*\\)"

def fromImport : Option Regex := Regex.compile? "^\\s*from\\s+([\\w.]+)\\s+import\\s+(.+)$"

def plainImport : Option Regex :=
  Regex.compile? "^\\s*import\\s+([\\w.]+)(?:\\s+as\\s+(\\w+))?\\s*$"

def exportDeclaration : Option Regex := Regex.compile? <|
  "^\\s*export\\s+(default\\s+)?(?:declare\\s+)?(?:abstract\\s+)?(?:async\\s+)?" ++
  "(function\\*?|class|const|let|var|interface|type|enum)\\s+(\\w+)"

def exportList : Option Regex := Regex.compile? "^\\s*export\\s*\\x7b([^\\x7d]*)\\x7d"

/-- The groups of a match, by number. -/
abbrev Groups := Nat → Option String

def groupsOf (line : Array Char) (m : Regex.Match) : Groups :=
  fun i => (m.group? i).map (Regex.slice line)

/-- The groups of the first match. -/
def first? (re : Option Regex) (line : Array Char) : Option Groups :=
  (re.bind fun re => re.findAt? line 0).map (groupsOf line)

/-- The groups of every match. -/
def every (re : Option Regex) (line : Array Char) : List Groups :=
  match re with
  | some re => (re.allMatches line).map (groupsOf line)
  | none => []

def text (g : Groups) (i : Nat) : String := (g i).getD ""

/-- Modules that a line of a script imports or requires. -/
def scriptImports (line : Array Char) (number : Nat) : List ImportDecl :=
  let declared : List ImportDecl := match first? importFrom line with
    | some g => [{ ImportClause.parse (text g 2).toList with
        moduleSpecifier := text g 3, isTypeOnly := (g 1).isSome, line := number }]
    | none =>
      match first? importBare line with
      | some g => [{ moduleSpecifier := text g 1, line := number }]
      | none => []
  declared ++ (every requireCall line).map fun g =>
    { moduleSpecifier := text g 1, line := number }

/-- The name under which one item of an export list is exported: what follows the last ` as `. -/
def exportedName (item : List Char) : List Char :=
  match Chars.cut? [' ', 's', 'a', ' '] item.reverse with
  | some (name, _) => Chars.trim name.reverse
  | none => Chars.trim item

def scriptExports (line : Array Char) (number : Nat) : List ExportDecl :=
  match first? exportDeclaration line with
  | some g =>
    let kind := (text g 2).toList.filter (· ≠ '*')
    [{ name := text g 3, kind := String.ofList kind, isDefault := (g 1).isSome, line := number }]
  | none =>
    match first? exportList line with
    | some g =>
      (ImportClause.names exportedName (text g 1).toList).map fun name =>
        { name, kind := "binding", isDefault := name == "default", line := number }
    | none => []

/-- Parentheses and blanks around a list of names. -/
def isListMargin (c : Char) : Bool := c == '(' || c == ')' || Chars.isBlank c

def trimMargin (s : List Char) : List Char :=
  ((s.dropWhile isListMargin).reverse.dropWhile isListMargin).reverse

def importedName (item : List Char) : List Char := Chars.trim (ImportClause.beforeAs item)

/-- Modules that a line of Python imports. -/
def pythonImports (line : Array Char) (number : Nat) : List ImportDecl :=
  match first? fromImport line with
  | some g =>
    [{ moduleSpecifier := text g 1
       namedImports := ImportClause.names importedName (trimMargin (text g 2).toList)
       line := number }]
  | none =>
    match first? plainImport line with
    | some g => [{ moduleSpecifier := text g 1, namespaceImport := g 2, line := number }]
    | none => []

/-- Add the facts of one line. -/
def addLine (m : SourceModel) (numbered : List Char × Nat) : SourceModel :=
  let (line, index) := numbered
  let line := line.toArray
  let number := index + 1
  if m.language == "python" then { m with imports := m.imports ++ pythonImports line number }
  else { m with
    imports := m.imports ++ scriptImports line number
    exports := m.exports ++ scriptExports line number }

/-- The facts of a whole text. -/
def parse (path content : String) : SourceModel :=
  (Chars.lines content.toList).zipIdx.foldl addLine (SourceModel.ofText path content)

end Conformance.TextModel
