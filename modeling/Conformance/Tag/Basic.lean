import Conformance.Code
import Conformance.Source.Model

/-! Tags in comments: the architecture of a file, its intents, and overrides of single
constraints. -/
namespace Conformance

structure ArchTag where
  id : String
  line : Nat
  deriving DecidableEq, Repr, Inhabited

/-- A request not to report one constraint value, with its reasons. -/
structure OverrideTag where
  rule : String
  value : String
  reason : Option String := none
  expires : Option String := none
  ticket : Option String := none
  approvedBy : Option String := none
  line : Nat
  deriving DecidableEq, Repr, Inhabited

/-- What an intent speaks about: the file, or a function that may not be known yet. -/
inductive IntentScope where
  | file
  | function (name : Option String)
  deriving DecidableEq, Repr, Inhabited

structure IntentTag where
  name : String
  line : Nat
  scope : IntentScope
  deriving DecidableEq, Repr, Inhabited

/-- What is wrong with a tag. -/
inductive TagProblem where
  /-- A field of an override without a value. -/
  | emptyField (field : String)
  /-- A field with no override before it. -/
  | strayField (field : String)
  | archWithoutId
  | duplicateArch (id : String) (first : ArchTag)
  /-- An override that is not a rule, a colon and a value. -/
  | overrideForm (rest : String)
  deriving DecidableEq, Repr, Inhabited

namespace TagProblem

def code : TagProblem → String
  | emptyField _ | strayField _ | overrideForm _ => Code.overrideForm
  | archWithoutId | duplicateArch _ _ => Code.unparsed

def message : TagProblem → String
  | emptyField field => "@" ++ field ++ " has no value"
  | strayField field => "@" ++ field ++ " without a preceding @override"
  | archWithoutId => "@arch has no architecture id"
  | duplicateArch id first =>
    "duplicate @arch '" ++ id ++ "' ignored; '" ++ first.id ++ "' declared on line " ++
      toString first.line
  | overrideForm rest =>
    "expected '@override <rule>:<value>', found '@override " ++ rest ++ "'"

end TagProblem

structure TagError where
  problem : TagProblem
  line : Nat
  deriving DecidableEq, Repr, Inhabited

/-- All tags of a file. -/
structure SourceTags where
  arch : Option ArchTag := none
  overrides : List OverrideTag := []
  intents : List IntentTag := []
  errors : List TagError := []
  deriving DecidableEq, Repr, Inhabited

namespace SourceTags

def archId? (t : SourceTags) : Option String := t.arch.map (·.id)

def fileIntents (t : SourceTags) : List IntentTag :=
  t.intents.filter fun i => i.scope = .file

end SourceTags

/-- The first function, in list order, of those that start earliest after a line. -/
def firstAfter? (functions : List FunctionDecl) (line : Nat) : Option FunctionDecl :=
  functions.foldl (fun best f =>
    if f.startLine > line then
      match best with
      | some b => if f.startLine < b.startLine then some f else best
      | none => some f
    else best) none

/-- Bind an unbound function-level intent to the next function, or else to the one around it. -/
def IntentTag.bind (model : SourceModel) (i : IntentTag) : IntentTag :=
  match i.scope with
  | .function none =>
    let target := (firstAfter? model.functions i.line).or (model.functionAt? i.line)
    { i with scope := .function (target.map (·.name)) }
  | _ => i

end Conformance
