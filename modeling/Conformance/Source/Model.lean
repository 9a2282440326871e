import Conformance.Source.LineCount

/-! Facts about one source file, free of its language: what it imports, declares, calls, changes
and exports. Line numbers and counts are unsigned 64-bit numbers. -/
namespace Conformance

structure ImportDecl where
  moduleSpecifier : String := ""
  defaultImport : Option String := none
  namedImports : List String := []
  namespaceImport : Option String := none
  isTypeOnly : Bool := false
  line : Nat := 0
  deriving DecidableEq, Repr, Inhabited

/-- The local names an import brings in. -/
def ImportDecl.boundNames (i : ImportDecl) : List String :=
  i.defaultImport.toList ++ i.namespaceImport.toList ++ i.namedImports

inductive Visibility where
  | «public»
  | «protected»
  | «private»
  deriving DecidableEq, Repr, Inhabited

structure Decorator where
  name : String := ""
  arguments : List String := []
  line : Nat := 0
  deriving DecidableEq, Repr, Inhabited

structure MethodDecl where
  name : String := ""
  visibility : Visibility := .public
  isStatic : Bool := false
  decorators : List Decorator := []
  startLine : Nat := 0
  endLine : Nat := 0
  deriving DecidableEq, Repr, Inhabited

structure ClassDecl where
  name : String := ""
  base : Option String := none
  interfaces : List String := []
  decorators : List Decorator := []
  methods : List MethodDecl := []
  isExported : Bool := false
  line : Nat := 0
  deriving DecidableEq, Repr, Inhabited

def ClassDecl.publicMethodCount (c : ClassDecl) : Nat :=
  (c.methods.filter fun m => m.visibility = .public).length

structure InterfaceDecl where
  name : String := ""
  bases : List String := []
  isExported : Bool := false
  line : Nat := 0
  deriving DecidableEq, Repr, Inhabited

structure FunctionDecl where
  name : String := ""
  isExported : Bool := false
  isAsync : Bool := false
  decorators : List Decorator := []
  startLine : Nat := 0
  endLine : Nat := 0
  deriving DecidableEq, Repr, Inhabited

/-- Where a call stands among blocks that handle errors. -/
structure ControlFlow where
  inTryBlock : Bool := false
  tryDepth : Nat := 0
  inCatchBlock : Bool := false
  inFinallyBlock : Bool := false
  deriving DecidableEq, Repr, Inhabited

def ControlFlow.isGuarded (f : ControlFlow) : Bool := f.inTryBlock || f.tryDepth ≥ 1

structure CallSite where
  callee : String := ""
  methodName : String := ""
  receiver : Option String := none
  argumentCount : Nat := 0
  line : Nat := 0
  column : Nat := 0
  parentFunction : Option String := none
  controlFlow : ControlFlow := {}
  deriving DecidableEq, Repr, Inhabited

structure Mutation where
  target : String := ""
  rootObject : String := ""
  propertyPath : List String := []
  operator : String := ""
  isDeclaration : Bool := false
  line : Nat := 0
  column : Nat := 0
  deriving DecidableEq, Repr, Inhabited

structure ExportDecl where
  name : String := ""
  kind : String := ""
  isDefault : Bool := false
  line : Nat := 0
  deriving DecidableEq, Repr, Inhabited

structure SourceModel where
  filePath : String := ""
  language : String := ""
  lineCount : Nat := 0
  locCount : Nat := 0
  imports : List ImportDecl := []
  classes : List ClassDecl := []
  interfaces : List InterfaceDecl := []
  functions : List FunctionDecl := []
  calls : List CallSite := []
  mutations : List Mutation := []
  exports : List ExportDecl := []
  deriving DecidableEq, Repr, Inhabited

/-- The language that the end of a file name stands for. -/
def languageOfPath (path : String) : String :=
  match String.ofList (Chars.afterLast '.' path.toList) with
  | "ts" | "tsx" | "mts" | "cts" => "typescript"
  | "js" | "jsx" | "mjs" | "cjs" => "javascript"
  | "py" => "python"
  | "go" => "go"
  | "rs" => "rust"
  | "java" => "java"
  | _ => "unknown"

namespace SourceModel

/-- What any text tells: its language and line counts. -/
def ofText (path content : String) : SourceModel :=
  let (total, loc) := LineCount.count content
  { filePath := path, language := languageOfPath path, lineCount := total, locCount := loc }

/-- The first function whose lines include one. -/
def functionAt? (m : SourceModel) (line : Nat) : Option FunctionDecl :=
  m.functions.find? fun f => f.startLine ≤ line && line ≤ f.endLine

end SourceModel

end Conformance
