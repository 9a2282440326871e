import Conformance.Validator.Imports

/-! Rules on the text of a file. -/
namespace Conformance.Validator

/-- Whether a line is comment, and whether a block comment is open after it. -/
def commentStep (inBlock : Bool) (line : List Char) : Bool × Bool :=
  let s := Chars.trimStart line
  if inBlock then (true, !Chars.contains s LineCount.blockClose)
  else if Chars.startsWith s LineCount.blockOpen then
    (true, !Chars.contains s LineCount.blockClose)
  else (LineCount.isLineComment s, false)

/-- The lines with those of comments made empty. -/
def blankComments : Bool → List (List Char) → List (List Char)
  | _, [] => []
  | inBlock, line :: rest =>
    let (comment, open_) := commentStep inBlock line
    (if comment then [] else line) :: blankComments open_ rest

/-- The text that is searched: all of it, or without comments, line for line. -/
def searchable (c : Constraint) (content : String) : String :=
  if c.excludeComments then
    String.ofList ((blankComments false (Chars.lines content.toList)).flatMap (· ++ ['\n']))
  else content

def forbidPattern : Validator := onList "a regular expression" fun patterns c ctx =>
  let text := searchable c ctx.content
  some (.ofViolations (patterns.filterMap fun pattern =>
    match Pattern.findLine ctx.limits pattern text with
    | .error why => some (rejection c pattern why)
    | .ok none => none
    | .ok (some line) => some ((Diagnostic.ofConstraint Rule.forbidPattern.code c (.text pattern)
        ("Forbidden pattern /" ++ pattern ++ "/ found")
        (useInstead c.alternatives "Remove the matching code")).onLine line)))

def requirePattern : Validator := onList "a regular expression" fun patterns c ctx =>
  let text := searchable c ctx.content
  some (.ofViolations (patterns.filterMap fun pattern =>
    match Pattern.isMatch ctx.limits pattern text with
    | .error why => some (rejection c pattern why)
    | .ok true => none
    | .ok false => some (.ofConstraint Rule.requirePattern.code c (.text pattern)
        ("Required pattern /" ++ pattern ++ "/ not found")
        "Add code matching the required pattern")))

/-- Takes effect when architectures are flattened; here only its patterns count. -/
def allowPattern : Validator := onList "a regular expression" fun patterns c ctx =>
  let refused := patterns.findSome? fun pattern =>
    match Pattern.compile ctx.limits pattern with
    | .error why => some (rejection c pattern why)
    | .ok _ => none
  some (match refused with
    | some violation => .fail violation
    | none => .pass)

/-- The expression of an entry between slashes. -/
def slashed? (entry : String) : Option String :=
  ((Text.strip? "/" entry).bind (Text.stripEnd? "/")).filter (· ≠ "")

/-- Whether an entry is there: an expression that matches, an import, or literal text. -/
def entryPresent (c : Constraint) (ctx : FileContext) (text entry : String) :
    Except Diagnostic Bool :=
  match slashed? entry with
  | some pattern => (Pattern.isMatch ctx.limits pattern text).mapError (rejection c pattern)
  | none => .ok (ctx.model.imports.any (importMatches ctx entry) || Text.contains text entry)

/-- Whether an entry is there, trying one after the other up to the first refused expression. -/
def anyPresent (c : Constraint) (ctx : FileContext) (text : String) :
    List String → Except Diagnostic Bool
  | [] => .ok false
  | entry :: rest =>
    match entryPresent c ctx text entry with
    | .error violation => .error violation
    | .ok true => .ok true
    | .ok false => anyPresent c ctx text rest

def requireOneOf : Validator :=
  onList "a list of imports, literals or /regex/ entries" fun entries c ctx =>
    some (if entries.isEmpty then .pass
      else match anyPresent c ctx (searchable c ctx.content) entries with
        | .error violation => .fail violation
        | .ok true => .pass
        | .ok false => .fail (.ofConstraint Rule.requireOneOf.code c c.value
            ("File must contain at least one of: " ++ Text.join ", " entries)
            ("Add one of " ++ Text.join ", " entries)))

end Conformance.Validator
