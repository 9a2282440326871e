import Conformance.Validator.Basic

/-! Rules on what a file declares: base classes, interfaces, decorators, exports, and the sizes
of classes and functions. -/
namespace Conformance.Validator

/-- A type name without its type arguments and its qualifier. -/
def bareTypeName (name : String) : String :=
  let plain := Chars.trim (name.toList.takeWhile (· != '<'))
  String.ofList (Chars.afterLast '.' plain)

def sameType (a b : String) : Bool := a == b || bareTypeName a == bareTypeName b

/-- Whether a decorator has a name, with or without the sign before it and with or without a
qualifier. -/
def decoratorIs (d : Decorator) (wanted : String) : Bool :=
  let wanted := Text.dropLeading '@' wanted
  let name := Text.dropLeading '@' d.name
  name == wanted || bareTypeName name == wanted

/-- The classes that rules on classes speak of: the exported ones, or all when none is. -/
def subjectClasses (m : SourceModel) : List ClassDecl :=
  let exported := m.classes.filter (·.isExported)
  if exported.isEmpty then m.classes else exported

def mustExtend : Validator := onText "a base class name" fun base c ctx =>
  let classes := subjectClasses ctx.model
  if classes.isEmpty || classes.any fun k => k.base.any fun b => sameType b base then some .pass
  else do
    let first ← classes.head?
    return .fail ((Diagnostic.ofConstraint Rule.mustExtend.code c c.value
      ("Class '" ++ first.name ++ "' must extend '" ++ base ++ "'")
      ("Declare 'class " ++ first.name ++ " extends " ++ base ++ "'")).onLine first.line)

def implements : Validator :=
  onList "an interface name or list of interface names" fun required c ctx =>
    let classes := subjectClasses ctx.model
    if classes.isEmpty then some .pass
    else
      let missing := required.filter fun wanted =>
        !classes.any fun k => k.interfaces.any fun i => sameType i wanted
      (missing.mapM fun wanted => do
        let first ← classes.head?
        return (Diagnostic.ofConstraint Rule.implements.code c (.text wanted)
          ("Class '" ++ first.name ++ "' must implement '" ++ wanted ++ "'")
          ("Add 'implements " ++ wanted ++ "' to the class declaration")).onLine
            first.line).map .ofViolations

def decoratorNames : String := "a decorator name or list of decorator names"

/-- What a class lacks of required decorators. -/
def missingDecorators (c : Constraint) (required : List String) (k : ClassDecl) :
    Option (Option Diagnostic) :=
  let missing := required.filter fun wanted => !k.decorators.any fun d => decoratorIs d wanted
  if c.matchMode.fails required.length missing.length then do
    let wanted := Text.dropLeading '@' (← missing.head?)
    let listed := Text.join c.matchMode.joiner
      (missing.map fun d => "@" ++ Text.dropLeading '@' d)
    return some (((Diagnostic.ofConstraint Rule.requireDecorator.code c c.value
      ("Class '" ++ k.name ++ "' is missing decorator " ++ listed)
      ("Add " ++ listed ++ " above the class declaration")).onLine k.line).suggest
        (.addDecorator wanted))
  else some none

def requireDecorator : Validator := onList decoratorNames fun required c ctx =>
  ((subjectClasses ctx.model).mapM (missingDecorators c required)).map fun found =>
    .ofViolations (found.filterMap id)

/-- All decorators: those of each class and its methods, then those of functions. -/
def allDecorators (m : SourceModel) : List Decorator :=
  (m.classes.flatMap fun k => k.decorators ++ k.methods.flatMap (·.decorators)) ++
    m.functions.flatMap (·.decorators)

def forbidDecorator : Validator := onList decoratorNames fun banned c ctx =>
  some (.ofViolations ((allDecorators ctx.model).filterMap fun d =>
    (banned.find? (decoratorIs d)).map fun hit =>
      (Diagnostic.ofConstraint Rule.forbidDecorator.code c (.text hit)
        ("Decorator '@" ++ Text.dropLeading '@' d.name ++ "' is forbidden in " ++ ctx.archId)
        "Remove the decorator").onLine d.line))

def maxPublicMethods : Validator := onLimit fun limit c ctx =>
  some (.ofViolations ((ctx.model.classes.filter fun k => k.publicMethodCount > limit).map
    fun k => (Diagnostic.ofConstraint Rule.maxPublicMethods.code c c.value
      ("Class '" ++ k.name ++ "' has " ++ toString k.publicMethodCount ++
        " public methods (max " ++ toString limit ++ ")")
      "Extract a collaborator or make helpers private").onLine k.line))

/-- Functions and then methods, by name and lines. -/
def bodies (m : SourceModel) : List (String × Nat × Nat) :=
  (m.functions.map fun f => (f.name, f.startLine, f.endLine)) ++
    m.classes.flatMap fun k => k.methods.map fun f =>
      (k.name ++ "." ++ f.name, f.startLine, f.endLine)

/-- A body that is too long. Bodies without a known place are passed over. -/
def longBody (c : Constraint) (limit : Nat) (body : String × Nat × Nat) :
    Option (Option Diagnostic) :=
  let (name, first, last) := body
  if first > 0 then do
    let lines ← Count.span? first last
    return if lines > limit then
      some ((Diagnostic.ofConstraint Rule.maxFunctionLines.code c c.value
        ("Function '" ++ name ++ "' spans " ++ toString lines ++ " lines (max " ++
          toString limit ++ ")")
        "Extract part of the body into a helper").onLine first)
    else none
  else some none

def maxFunctionLines : Validator := onLimit fun limit c ctx =>
  ((bodies ctx.model).mapM (longBody c limit)).map fun found => .ofViolations (found.filterMap id)

/-- Whether a model exports a name; the default export has a name of its own. -/
def exportsName (m : SourceModel) (name : String) : Bool :=
  m.exports.any fun e => e.name == name || (name == "default" && e.isDefault)

def requireExport : Validator :=
  onList "an export name or list of export names" fun required c ctx =>
    let missing := required.filter fun name => !exportsName ctx.model name
    let names := Text.join ", " missing
    some (if c.matchMode.fails required.length missing.length then
      .fail (.ofConstraint Rule.requireExport.code c c.value
        ("File must export " ++ names) ("Export " ++ names ++ " from this module"))
    else .pass)

end Conformance.Validator
