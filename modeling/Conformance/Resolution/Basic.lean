import Conformance.Registry.Basic
import Conformance.Resolution.Merge

/-! Resolving an architecture: its ancestors from the root to itself, with their mixins, merged
into one list of constraints. -/
namespace Conformance

structure ResolveOptions where
  expandMixins : Bool := true
  resolveInherits : Bool := true
  deriving DecidableEq, Repr, Inhabited

inductive ResolutionError where
  | unknownArch (id : String) (chain : List String)
  | circularInheritance (id : String) (chain : List String)
  | missingMixin (archId mixin : String)
  deriving DecidableEq, Repr, Inhabited

namespace ResolutionError

def kind : ResolutionError → String
  | unknownArch _ _ => "UNKNOWN_ARCH"
  | circularInheritance _ _ => "CIRCULAR_INHERITANCE"
  | missingMixin _ _ => "MISSING_MIXIN"

/-- The name to look at. -/
def offendingId : ResolutionError → String
  | unknownArch id _ => id
  | circularInheritance id _ => id
  | missingMixin _ mixin => mixin

def chain? : ResolutionError → Option (List String)
  | unknownArch _ chain => some chain
  | circularInheritance _ chain => some chain
  | missingMixin _ _ => none

def message : ResolutionError → String
  | unknownArch id chain =>
    "Unknown architecture '" ++ id ++ "' (chain: " ++ Text.join " -> " chain ++ ")"
  | circularInheritance id chain =>
    "Circular inheritance at '" ++ id ++ "' (chain: " ++ Text.join " -> " chain ++ ")"
  | missingMixin archId mixin =>
    "Architecture '" ++ archId ++ "' references undefined mixin '" ++ mixin ++ "'"

end ResolutionError

structure Deprecation where
  since : String
  migrationGuide : Option String
  deriving DecidableEq, Repr, Inhabited

structure FlattenedArchitecture where
  archId : String
  /-- Ancestors from the root, the architecture itself last. -/
  inheritanceChain : List String
  appliedMixins : List String
  constraints : List Constraint
  hints : List String
  description : Option String
  rationale : Option String
  deprecation : Option Deprecation
  deriving DecidableEq, Repr, Inhabited

def FlattenedArchitecture.constraintsFor (a : FlattenedArchitecture) (rule : Rule) :
    List Constraint :=
  a.constraints.filter fun c => c.rule = rule.name

namespace Resolution

/-- Walk from an architecture to its root; `visited` are the ids met, the latest first. Each
step meets a registered id for the first time, so there are at most as many as the registry
holds. -/
def walk (r : Registry) (follow : Bool) : (fuel : Nat) → (visited : List String) → String →
    Except ResolutionError (List String)
  | 0, visited, id => .error (.circularInheritance id (visited.reverse ++ [id]))
  | fuel + 1, visited, id =>
    if visited.contains id then .error (.circularInheritance id (visited.reverse ++ [id]))
    else
      match r.get? id with
      | none => .error (.unknownArch id visited.reverse)
      | some node =>
        match (if follow then node.inherits else none) with
        | some parent => walk r follow fuel (id :: visited) parent
        | none => .ok (id :: visited)

/-- The ancestors of an architecture from the root on. -/
def chain (r : Registry) (id : String) (follow : Bool) : Except ResolutionError (List String) :=
  walk r follow (r.nodes.size + 1) [] id

/-- What has been gathered along the chain. -/
structure Gathered where
  constraints : List Constraint := []
  hints : List String := []
  appliedMixins : List String := []
  deriving DecidableEq, Repr, Inhabited

/-- The constraints that a mixin reference contributes. -/
def mixinConstraints (mixin : Mixin) (params : Dict String) : List Constraint :=
  mixin.constraints.map fun c =>
    { c.substitute params with source := some ("mixin:" ++ mixin.name) }

/-- Take in one mixin of an architecture. -/
def addMixin (r : Registry) (archId : String) (g : Gathered) (ref : MixinRef) :
    Except ResolutionError Gathered :=
  match r.mixins.find? ref.name with
  | none => .error (.missingMixin archId ref.name)
  | some mixin => .ok {
      constraints := Merge.mergeAll g.constraints (mixinConstraints mixin ref.params)
      hints := g.hints ++ mixin.hints
      appliedMixins := if g.appliedMixins.contains mixin.name then g.appliedMixins
        else g.appliedMixins ++ [mixin.name] }

/-- The constraints of an architecture's own, with their source. -/
def ownConstraints (node : ArchitectureNode) : List Constraint :=
  node.constraints.map fun c => { c with source := some node.id }

/-- Take in one architecture: its mixins in order, then its own constraints and hints. -/
def addNode (r : Registry) (options : ResolveOptions) (g : Gathered) (node : ArchitectureNode) :
    Except ResolutionError Gathered :=
  let mixins := if options.expandMixins then node.mixins else []
  (mixins.foldlM (addMixin r node.id) g).map fun g => { g with
    constraints := Merge.mergeAll g.constraints (ownConstraints node)
    hints := g.hints ++ node.hints }

/-- Flatten an architecture. -/
def resolve (r : Registry) (id : String) (options : ResolveOptions := {}) :
    Except ResolutionError FlattenedArchitecture :=
  match chain r id options.resolveInherits with
  | .error e => .error e
  | .ok ids =>
    let nodes := ids.filterMap r.get?
    match nodes.foldlM (addNode r options) {} with
    | .error e => .error e
    | .ok g =>
      let leaf := nodes.getLast?
      .ok {
        archId := id
        inheritanceChain := ids
        appliedMixins := g.appliedMixins
        constraints := g.constraints
        hints := g.hints
        description := nodes.reverse.findSome? (·.description)
        rationale := leaf.bind (·.rationale)
        deprecation := leaf.bind fun n => n.deprecatedFrom.map fun since =>
          { since, migrationGuide := n.migrationGuide } }

/-- Flatten every registered architecture. -/
def resolveAll (r : Registry) (options : ResolveOptions := {}) :
    Dict (Except ResolutionError FlattenedArchitecture) :=
  r.nodes.map fun id _ => resolve r id options

end Resolution

end Conformance
