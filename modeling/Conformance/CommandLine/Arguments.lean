import Conformance.Text.Basic

/-! The arguments of the command line. Options start with two dashes and take a value, after an
equals sign or as the next argument; switches take none; a lone `--` ends both. The option for
the root is known at every level, and the innermost one counts. -/
namespace Conformance.CommandLine

structure CheckOptions where
  paths : List String := []
  format : String := "text"
  failOnWarning : Bool := false
  noCache : Bool := false
  verbose : Bool := false
  deriving DecidableEq, Repr, Inhabited

inductive Command where
  | resolve (archId format : String)
  | check (options : CheckOptions)
  | audit (format : String)
  | cacheStats (format : String)
  | cacheClear
  deriving DecidableEq, Repr, Inhabited

structure Invocation where
  root : Option String
  command : Command
  deriving DecidableEq, Repr, Inhabited

/-- What arguments ask for. -/
inductive Request where
  | run (invocation : Invocation)
  | version
  /-- They make no sense. -/
  | usage
  deriving DecidableEq, Repr, Inhabited

/-- The arguments that one level understands. -/
structure Grammar where
  options : List String := ["root"]
  switches : List String := []
  /-- Single letters that stand for switches. -/
  letters : List (Char × String) := []
  mostPositionals : Option Nat := none

/-- The arguments of one level. -/
structure Given where
  options : List (String × String) := []
  switches : List String := []
  positionals : List String := []
  deriving DecidableEq, Repr, Inhabited

namespace Given

def option? (g : Given) (name : String) : Option String :=
  (g.options.find? fun entry => entry.1 = name).map (·.2)

def has (g : Given) (name : String) : Bool := g.switches.contains name

/-- An option may be given once, and a root has at least one character. -/
def addOption (g : Given) (name value : String) : Option Given :=
  if (g.option? name).isSome ∨ (name = "root" ∧ value = "") then none
  else some { g with options := g.options ++ [(name, value)] }

/-- A switch may be given once. -/
def addSwitch (g : Given) (name : String) : Option Given :=
  if g.has name then none else some { g with switches := g.switches ++ [name] }

def addPositionals (grammar : Grammar) (g : Given) (values : List String) : Option Given :=
  let positionals := g.positionals ++ values
  match grammar.mostPositionals with
  | some most => if positionals.length ≤ most then some { g with positionals } else none
  | none => some { g with positionals }

end Given

/-- Whether an argument has the look of an option or of switches. -/
def isDashed (arg : String) : Bool := Text.startsWith arg "-" && arg ≠ "-"

/-- The switches that single letters stand for. -/
def addLetters (grammar : Grammar) (g : Given) (letters : List Char) : Option Given :=
  letters.foldlM (fun g c =>
    match grammar.letters.find? fun entry => entry.1 = c with
    | some (_, name) => g.addSwitch name
    | none => none) g

/-- An argument with two dashes: its name and the value after an equals sign. -/
def longParts? (arg : String) : Option (String × Option String) :=
  (Text.strip? "--" arg).map fun body =>
    match Text.cut? "=" body with
    | some (name, value) => (name, some value)
    | none => (body, none)

/-- Read the arguments of one level. -/
def scan (grammar : Grammar) : List String → Given → Option Given
  | [], g => some g
  | arg :: rest, g =>
    if arg = "--" then g.addPositionals grammar rest
    else
      match longParts? arg with
      | some (name, some value) =>
        if grammar.options.contains name then do scan grammar rest (← g.addOption name value)
        else none
      | some (name, none) =>
        if grammar.options.contains name then
          match rest with
          | value :: rest =>
            if isDashed value then none else do scan grammar rest (← g.addOption name value)
          | [] => none
        else if grammar.switches.contains name then do
          scan grammar rest (← g.addSwitch name)
        else none
      | none =>
        if isDashed arg then do
          scan grammar rest (← addLetters grammar g (arg.toList.drop 1))
        else do
          scan grammar rest (← g.addPositionals grammar [arg])

/-- The arguments before the name of a subcommand, that name, and what follows it. -/
inductive Split where
  | named (root : Option String) (name : String) (rest : List String)
  | version
  | none

/-- Read up to the name of a subcommand. The value of the root is awaited after its option. -/
def splitCommand (root : Option String) (awaited : Bool) : List String → Split
  | [] => .none
  | arg :: rest =>
    if awaited then
      if isDashed arg ∨ arg = "" then .none else splitCommand (some arg) false rest
    else if arg = "--version" || Text.startsWith arg "-V" then .version
    else if arg = "--root" then
      if root.isSome then .none else splitCommand root true rest
    else
      match Text.strip? "--root=" arg with
      | some value =>
        if root.isSome ∨ value = "" then .none else splitCommand (some value) false rest
      | none => if isDashed arg then .none else .named root arg rest

def formatGrammar : Grammar := { options := ["root", "format"], mostPositionals := some 0 }

/-- The format that was asked for. -/
def formatOf (g : Given) : String := (g.option? "format").getD "text"

/-- A command and the root given with it. -/
abbrev Rooted := Option String × Command

def resolveCommand? (args : List String) : Option Rooted := do
  let g ← scan { formatGrammar with mostPositionals := some 1 } args {}
  return (g.option? "root", .resolve (← g.positionals.head?) (formatOf g))

/-- Paths have at least one character. -/
def checkCommand? (args : List String) : Option Rooted := do
  let g ← scan {
    options := ["root", "format"]
    switches := ["fail-on-warning", "no-cache", "verbose"]
    letters := [('v', "verbose")] } args {}
  if g.positionals.contains "" then none
  else return (g.option? "root", .check {
    paths := g.positionals
    format := formatOf g
    failOnWarning := g.has "fail-on-warning"
    noCache := g.has "no-cache"
    verbose := g.has "verbose" })

def auditCommand? (args : List String) : Option Rooted := do
  let g ← scan formatGrammar args {}
  return (g.option? "root", .audit (formatOf g))

def cacheCommand? (args : List String) : Option Rooted := do
  match splitCommand none false args with
  | .named outer "stats" rest =>
    let g ← scan formatGrammar rest {}
    return ((g.option? "root").or outer, .cacheStats (formatOf g))
  | .named outer "clear" rest =>
    let g ← scan { mostPositionals := some 0 } rest {}
    return ((g.option? "root").or outer, .cacheClear)
  | _ => none

def command? (name : String) (args : List String) : Option Rooted :=
  match name with
  | "resolve" => resolveCommand? args
  | "check" => checkCommand? args
  | "audit" => auditCommand? args
  | "cache" => cacheCommand? args
  | _ => none

/-- Read the arguments of the program. -/
def request (args : List String) : Request :=
  match splitCommand none false args with
  | .version => .version
  | .none => .usage
  | .named outer name rest =>
    match command? name rest with
    | none => .usage
    | some (inner, command) => .run { root := inner.or outer, command }

end Conformance.CommandLine
