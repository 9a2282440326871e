import Conformance.Glob
import Conformance.Validator.Basic

/-! Rules on calls and on changes of objects. -/
namespace Conformance.Validator

/-- Whether a pattern names a call: by its whole callee or, for a call without a receiver, by the
name alone. -/
def callMatches (pattern : String) (call : CallSite) : Bool :=
  Glob.matchName pattern call.callee ||
    (!Text.contains pattern "." && call.receiver.isNone &&
      Glob.matchName pattern call.methodName)

/-- Whether an intent covers a call: one of the file does, one of a function if the call stands
in that function. -/
def coversCall (call : CallSite) (i : IntentTag) : Bool :=
  match i.scope with
  | .file => true
  | .function name => name.isSome && name = call.parentFunction

/-- Whether an entry lets a call through: the function around it, or a declared intent. -/
def exempts (ctx : FileContext) (call : CallSite) (entry : String) : Bool :=
  match Text.strip? "@intent:" entry with
  | some intent => ctx.intents.any fun i => i.name == intent && coversCall call i
  | none => call.parentFunction.any (Glob.matchName entry)

def callNames : String := "a call name or list of call names"

def forbidCall : Validator := onList callNames fun banned c ctx =>
  let calls := ctx.model.calls.filter fun call => !c.exempt.any (exempts ctx call)
  some (.ofViolations (calls.filterMap fun call =>
    (banned.find? fun p => callMatches p call).map fun hit =>
      (Diagnostic.ofConstraint Rule.forbidCall.code c (.text hit)
        ("Call to '" ++ call.callee ++ "' is forbidden in " ++ ctx.archId)
        (useInstead c.alternatives ("Remove the call to '" ++ call.callee ++ "'"))).onColumn
          call.line call.column))

def requireCall : Validator := onList callNames fun required c ctx =>
  let missing := required.filter fun p => !ctx.model.calls.any (callMatches p)
  let names := Text.join c.matchMode.joiner missing
  some (if c.matchMode.fails required.length missing.length then
    .fail (.ofConstraint Rule.requireCall.code c c.value
      ("File must call " ++ names) ("Add a call to " ++ names))
  else .pass)

/-- Calls that stand in no guarded block. -/
def unguardedCalls (c : Constraint) (m : SourceModel) (targets : List String) : Verdict :=
  let calls := m.calls.filter fun call =>
    !call.controlFlow.isGuarded && targets.any fun t => callMatches t call
  .ofViolations (calls.map fun call =>
    (Diagnostic.ofConstraint Rule.requireTryCatch.code c c.value
      ("Call to '" ++ call.callee ++ "' must be wrapped in try/catch")
      ("Wrap '" ++ call.callee ++ "' in a try block and handle the failure")).onColumn
        call.line call.column)

def requireTryCatch : Validator := fun c ctx =>
  if c.around.isEmpty then
    onList "a list of call names (or `around`)"
      (fun targets c ctx => some (unguardedCalls c ctx.model targets)) c ctx
  else some (unguardedCalls c ctx.model c.around)

/-- Whether one call stands before another in the text. -/
def standsBefore (a b : CallSite) : Bool :=
  a.line < b.line || (a.line = b.line && a.column < b.column)

/-- Whether a prerequisite comes before a call in the same function. -/
def isPreceded (calls : List CallSite) (before : List String) (call : CallSite) : Bool :=
  calls.any fun prior => prior.parentFunction = call.parentFunction && standsBefore prior call &&
    before.any fun b => callMatches b prior

def requireCallBefore : Validator := onList "a list of call names" fun targets c ctx =>
  if c.before.isEmpty then some (invalidValue c "a `before` list of prerequisite calls")
  else
    let calls := ctx.model.calls.filter fun call =>
      targets.any (fun t => callMatches t call) && !isPreceded ctx.model.calls c.before call
    let before := Text.join " or " c.before
    some (.ofViolations (calls.map fun call =>
      (Diagnostic.ofConstraint Rule.requireCallBefore.code c c.value
        ("Call to '" ++ call.callee ++ "' must be preceded by " ++ before)
        ("Call " ++ before ++ " earlier in the same function")).onColumn call.line call.column))

/-- Whether a target is a property or an element of a base. -/
def isPartOf (base target : String) : Bool :=
  (Text.strip? base target).any fun rest => Text.startsWith rest "." || Text.startsWith rest "["

/-- Whether an entry covers a mutation. A final star stands for the parts of a base alone. -/
def mutationMatches (entry : String) (m : Mutation) : Bool :=
  match Text.stripEnd? ".*" entry with
  | some base => isPartOf base m.target
  | none =>
    if Text.contains entry "*" then Glob.matchCall entry m.target
    else m.target == entry || m.rootObject == entry || isPartOf entry m.target

def forbidMutation : Validator := onList "a list of object roots" fun roots c ctx =>
  let mutations := ctx.model.mutations.filter fun m => !m.isDeclaration
  some (.ofViolations (mutations.filterMap fun m =>
    (roots.find? fun r => mutationMatches r m).map fun hit =>
      (Diagnostic.ofConstraint Rule.forbidMutation.code c (.text hit)
        ("Mutation of '" ++ m.target ++ "' (" ++ m.operator ++ ") is forbidden")
        "Pass the value in explicitly instead of mutating shared state").onColumn
          m.line m.column))

end Conformance.Validator
