import Conformance.Glob
import Conformance.Validator.Basic

/-! Rules on imports: what a file may and must import, who may import it, and cycles. -/
namespace Conformance.Validator

/-- Whether an entry names what an import resolves to: the file itself, a folder around it, or a
glob that it matches. -/
def targetMatches (entry target : String) : Bool :=
  target == entry || Text.startsWith target (Text.dropTrailing '/' entry ++ "/") ||
    (Text.contains entry "*" && Glob.matchPath entry target)

/-- Whether an entry means an import: by its specifier, a path that leads up to it, a glob, a
bound name, or the project file it resolves to. -/
def importMatches (ctx : FileContext) (entry : String) (i : ImportDecl) : Bool :=
  let specifier := i.moduleSpecifier
  specifier == entry ||
    ((Text.strip? entry specifier).any fun rest => Text.startsWith rest "/") ||
    (Text.contains entry "*" && Glob.matchPath entry specifier) ||
    i.boundNames.contains entry ||
    (Text.contains entry "/" &&
      (ctx.project.resolveModule? ctx.filePath specifier).any (targetMatches entry))

def moduleNames : String := "a module name or list of module names"

def forbidImport : Validator := onList moduleNames fun entries c ctx =>
  some (.ofViolations (ctx.model.imports.filterMap fun i =>
    (entries.find? fun entry => importMatches ctx entry i).map fun entry =>
      let specifier := i.moduleSpecifier
      let suggestion := match c.alternatives with
        | [only] => Suggestion.replaceImport specifier only
        | _ => Suggestion.removeImport specifier
      ((Diagnostic.ofConstraint Rule.forbidImport.code c (.text entry)
        ("Import '" ++ specifier ++ "' is forbidden in " ++ ctx.archId)
        (useInstead c.alternatives ("Remove the import of '" ++ specifier ++ "'"))).onLine
          i.line).suggest suggestion))

def requireImport : Validator := onList moduleNames fun entries c ctx =>
  let missing := entries.filter fun entry => !ctx.model.imports.any (importMatches ctx entry)
  let missed (entry : String) : Diagnostic :=
    (Diagnostic.ofConstraint Rule.requireImport.code c (.text entry)
      ("File must import '" ++ entry ++ "'")
      ("Add an import of '" ++ entry ++ "'")).suggest (.addImport entry)
  some (match c.matchMode with
    | .all => .ofViolations (missing.map missed)
    | .any =>
      if MatchMode.any.fails entries.length missing.length then
        .fail (.ofConstraint Rule.requireImport.code c c.value
          ("File must import at least one of: " ++ Text.join ", " entries)
          ("Add an import of " ++ Text.join " or " entries))
      else .pass)

/-- Takes effect when architectures are flattened; here only its shape counts. -/
def allowImport : Validator := onList moduleNames fun _ _ _ => some .pass

def importableBy : Validator := onList "a list of path globs" fun globs c ctx =>
  let strangers := (ctx.project.importersOf ctx.filePath).filter fun importer =>
    !globs.any fun g => Glob.matchPath g importer
  some (.ofViolations (strangers.map fun importer =>
    .ofConstraint Rule.importableBy.code c c.value
      ("'" ++ importer ++ "' imports this file but is not an allowed importer (" ++
        Text.join ", " globs ++ ")")
      ("Move the dependency behind a module matching " ++ Text.join " or " globs)))

/-- Whether a file lies in a scope given by globs; without a glob that is the whole project. -/
def inCycleScope (globs : List String) (path : String) : Bool :=
  globs.all (·.isEmpty) || globs.any fun g => Glob.matchPath g path

def forbidCircularDeps : Validator :=
  onList "a list of path globs (empty for the whole project)" fun globs c ctx =>
    some (match ctx.project.cycleThrough? ctx.filePath (inCycleScope globs) with
      | none => .pass
      | some cycle => .fail (.ofConstraint Rule.forbidCircularDeps.code c c.value
          ("Circular dependency: " ++ Text.join " -> " cycle)
          "Break the cycle by extracting the shared code or inverting one dependency"))

end Conformance.Validator
