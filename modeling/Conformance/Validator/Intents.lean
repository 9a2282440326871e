import Conformance.Similarity
import Conformance.Validator.Basic

/-! Rules on intents: which have to be declared, and whether the code keeps what the declared
ones promise. -/
namespace Conformance.Validator

def requireIntent : Validator :=
  onList "an intent name or list of intent names" fun required c ctx =>
    let missing := required.filter fun name => !ctx.intents.any fun i => i.name == name
    let names := Text.join c.matchMode.joiner (missing.map fun n => "@intent:" ++ n)
    some (if c.matchMode.fails required.length missing.length then
      .fail (.ofConstraint Rule.requireIntent.code c c.value
        ("File must declare " ++ names) ("Add " ++ names ++ " to the file header"))
    else .pass)

/-- Whether one intent is in effect where another is: those of the file everywhere, those of a
function on that function. -/
def sharesScope (i other : IntentTag) : Bool :=
  match i.scope, other.scope with
  | _, .file => true
  | .function a, .function b => a.isSome && a = b
  | .file, .function _ => false

/-- The names of the intents in effect where one is. -/
def namesInScope (i : IntentTag) (all : List IntentTag) : List String :=
  (all.filter (sharesScope i)).map (·.name)

/-- The text that an intent speaks about and the number of lines before it: the lines of its
function when they are known, else the file. -/
def scopeText (ctx : FileContext) (i : IntentTag) : Option (String × Nat) :=
  match i.scope with
  | .function (some name) =>
    match ctx.model.functions.find? fun f => f.name = name with
    | some f =>
      if f.startLine > 0 then do
        let skipped ← Count.sub? f.startLine 1
        let length ← Count.span? f.startLine f.endLine
        return (Text.join "\n" (((Text.lines ctx.content).drop skipped).take length), skipped)
      else some (ctx.content, 0)
    | none => some (ctx.content, 0)
  | _ => some (ctx.content, 0)

/-- An intent that the registry does not define. -/
def undefinedIntent (c : Constraint) (ctx : FileContext) (i : IntentTag) : Diagnostic :=
  ((Diagnostic.ofConstraint Code.undefinedIntent c (.text i.name)
    ("Intent '" ++ i.name ++ "' is not defined in the registry")
    "Define the intent under [intents] or fix the tag").onLine i.line).meaning
      (Similarity.closest? i.name ctx.intentRegistry.keys)

/-- What an intent requires of its text and does not find. -/
def unmetPatterns (c : Constraint) (limits : PatternLimits) (i : IntentTag)
    (d : IntentDefinition) (text : String) : List Diagnostic :=
  d.requires.filterMap fun pattern =>
    match Pattern.isMatch limits pattern text with
    | .error why => some (rejection c pattern why)
    | .ok true => none
    | .ok false => some ((Diagnostic.ofConstraint Code.intentPattern c (.text i.name)
        ("@intent:" ++ d.name ++ " requires /" ++ pattern ++ "/, which is not present")
        ("Add code matching /" ++ pattern ++ "/ or drop the intent")).onLine i.line)

/-- A pattern that an intent forbids and that its text matches, on the line of the file. -/
def brokenPattern (c : Constraint) (limits : PatternLimits) (i : IntentTag)
    (d : IntentDefinition) (text : String) (skipped : Nat) (pattern : String) :
    Option (Option Diagnostic) :=
  match Pattern.findLine limits pattern text with
  | .error why => some (some (rejection c pattern why))
  | .ok none => some none
  | .ok (some found) => do
    let line ← Count.add? found skipped
    return some ((Diagnostic.ofConstraint Code.intentPattern c (.text i.name)
      ("@intent:" ++ d.name ++ " forbids /" ++ pattern ++ "/")
      "Remove the matching code or drop the intent").onLine line)

/-- What an intent forbids in its text and finds. -/
def brokenPatterns (c : Constraint) (limits : PatternLimits) (i : IntentTag)
    (d : IntentDefinition) (text : String) (skipped : Nat) : Option (List Diagnostic) :=
  (d.forbids.mapM (brokenPattern c limits i d text skipped)).map (List.filterMap id)

/-- Two names in order. -/
def namePair (a b : String) : String × String := if a ≤ b then (a, b) else (b, a)

/-- Conflicts of an intent with others in effect, each pair of names once in a file. The pairs
reported so far go in and out. -/
def conflicts (c : Constraint) (i : IntentTag) (d : IntentDefinition) (present : List String) :
    List String → List (String × String) → List Diagnostic × List (String × String)
  | [], reported => ([], reported)
  | other :: rest, reported =>
    if present.contains other && !reported.contains (namePair d.name other) then
      let (found, reported) := conflicts c i d present rest (namePair d.name other :: reported)
      (((Diagnostic.ofConstraint Code.intentConflict c (.text i.name)
        ("@intent:" ++ d.name ++ " conflicts with @intent:" ++ other)
        "Keep only one of the conflicting intents").onLine i.line) :: found, reported)
    else conflicts c i d present rest reported

/-- Intents that have to be in effect with one and are not. -/
def missingPartners (c : Constraint) (i : IntentTag) (d : IntentDefinition)
    (present : List String) : List Diagnostic :=
  (d.requiresIntent.filter fun needed => !present.contains needed).map fun needed =>
    (Diagnostic.ofConstraint Code.missingIntent c (.text i.name)
      ("@intent:" ++ d.name ++ " requires @intent:" ++ needed ++ " on the same scope")
      ("Add @intent:" ++ needed)).onLine i.line

/-- Check one intent. -/
def checkIntent (c : Constraint) (ctx : FileContext) (i : IntentTag)
    (reported : List (String × String)) : Option (List Diagnostic × List (String × String)) :=
  match ctx.intentRegistry.find? i.name with
  | none => some ([undefinedIntent c ctx i], reported)
  | some d => do
    let (text, skipped) ← scopeText ctx i
    let broken ← brokenPatterns c ctx.limits i d text skipped
    let present := namesInScope i ctx.intents
    let (clashes, reported) := conflicts c i d present d.conflictsWith reported
    return (unmetPatterns c ctx.limits i d text ++ broken ++ clashes ++
      missingPartners c i d present, reported)

/-- Each intent once for each scope, at its first place. -/
def distinctIntents (intents : List IntentTag) : List IntentTag :=
  (intents.foldl (fun seen i =>
    if seen.any fun s => s.name = i.name && s.scope = i.scope then seen else i :: seen)
      []).reverse

/-- Check intents in turn. -/
def checkIntents (c : Constraint) (ctx : FileContext) :
    List IntentTag → List (String × String) → Option (List Diagnostic)
  | [], _ => some []
  | i :: rest, reported => do
    let (found, reported) ← checkIntent c ctx i reported
    return found ++ (← checkIntents c ctx rest reported)

def verifyIntent : Validator := fun c ctx =>
  (checkIntents c ctx (distinctIntents ctx.intents) []).map .ofViolations

end Conformance.Validator
