import Conformance.Constraint.Basic
import Conformance.Similarity

/-! The registry: architectures, mixins and intents by name, merged from several files. The
first definition of a name stays, and every later one is an issue. -/
namespace Conformance

/-- A mixin that an architecture takes in, perhaps with parameters. -/
inductive MixinRef where
  | named (name : String)
  | withParams (name : String) (params : Dict String)
  deriving DecidableEq, Repr, Inhabited

namespace MixinRef

def name : MixinRef → String
  | named n => n
  | withParams n _ => n

def params? : MixinRef → Option (Dict String)
  | named _ => none
  | withParams _ ps => some ps

def params (r : MixinRef) : Dict String := r.params?.getD ∅

end MixinRef

structure ArchitectureNode where
  id : String := ""
  inherits : Option String := none
  mixins : List MixinRef := []
  constraints : List Constraint := []
  hints : List String := []
  description : Option String := none
  rationale : Option String := none
  deprecatedFrom : Option String := none
  migrationGuide : Option String := none
  deriving DecidableEq, Repr, Inhabited

structure Mixin where
  name : String := ""
  description : Option String := none
  constraints : List Constraint := []
  hints : List String := []
  deriving DecidableEq, Repr, Inhabited

/-- A declared property of a file or function, with patterns on its text and relations to other
intents. -/
structure IntentDefinition where
  name : String := ""
  description : Option String := none
  category : Option String := none
  requires : List String := []
  forbids : List String := []
  conflictsWith : List String := []
  requiresIntent : List String := []
  deriving DecidableEq, Repr, Inhabited

/-- The definitions in one file. -/
structure RegistryFile where
  architectures : Dict ArchitectureNode := ∅
  mixins : Dict Mixin := ∅
  intents : Dict IntentDefinition := ∅

inductive DefinitionKind where
  | architecture
  | mixin
  | intent
  deriving DecidableEq, Repr, Inhabited

def DefinitionKind.name : DefinitionKind → String
  | .architecture => "architecture"
  | .mixin => "mixin"
  | .intent => "intent"

/-- A name defined again in a file. -/
structure RegistryIssue where
  path : String
  kind : DefinitionKind
  name : String
  deriving DecidableEq, Repr, Inhabited

def RegistryIssue.message (i : RegistryIssue) : String :=
  i.kind.name ++ " '" ++ i.name ++ "' is defined more than once"

structure Registry where
  nodes : Dict ArchitectureNode := ∅
  mixins : Dict Mixin := ∅
  intents : Dict IntentDefinition := ∅
  issues : List RegistryIssue := []
  sources : List String := []
  deriving Inhabited

namespace Registry

/-- Add the new ones of some definitions, each under its name. -/
def addNew {α : Type} (known : Dict α) (defined : Dict α) : Dict α :=
  defined.entries.foldl (fun d entry => d.insertNew entry.1 entry.2) known

/-- The names that are defined already. -/
def repeated {α : Type} (known : Dict α) (defined : Dict α) : List String :=
  defined.keys.filter known.contains

/-- Merge the definitions of a file. -/
def merge (r : Registry) (path : String) (file : RegistryFile) : Registry :=
  let architectures := file.architectures.map fun id node => { node with id }
  let mixins := file.mixins.map fun name mixin => { mixin with name }
  let intents := file.intents.map fun name intent => { intent with name }
  let issues (kind : DefinitionKind) (names : List String) : List RegistryIssue :=
    names.map fun name => { path, kind, name }
  { nodes := addNew r.nodes architectures
    mixins := addNew r.mixins mixins
    intents := addNew r.intents intents
    issues := r.issues ++ issues .architecture (repeated r.nodes architectures) ++
      issues .mixin (repeated r.mixins mixins) ++ issues .intent (repeated r.intents intents)
    sources := r.sources ++ [path] }

def get? (r : Registry) (id : String) : Option ArchitectureNode := r.nodes.find? id

def contains (r : Registry) (id : String) : Bool := r.nodes.contains id

def ids (r : Registry) : List String := r.nodes.keys

/-- The registered id that is closest to a given one. -/
def closestId? (r : Registry) (id : String) : Option String := Similarity.closest? id r.ids

end Registry

end Conformance
