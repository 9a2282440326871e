/-! The stable codes of diagnostics. The first letters name the family: `E` one per rule, `I`
intents, `O` overrides, `S` system, `SEC` security, `W` advice. -/
namespace Conformance.Code

def taxonomyVersion : String := "1.0.0"

def undefinedIntent : String := "I001"
def intentPattern : String := "I002"
def intentConflict : String := "I003"
def missingIntent : String := "I004"

def overrideForm : String := "O001"
def overrideField : String := "O002"
def overrideExpired : String := "O003"
def overrideTooLong : String := "O004"
def overrideLimit : String := "O005"

def unparsed : String := "S001"
def unreadable : String := "S002"
def malformedConstraint : String := "S003"
def unknownRule : String := "S004"
def unresolved : String := "S005"

def pathTraversal : String := "SEC001"
def unsafePattern : String := "SEC002"

def deprecated : String := "W001"
def untagged : String := "W002"
def noExpiry : String := "W003"

/-- One line on what a code stands for. -/
def describe? (code : String) : Option String :=
  match code with
  | "E001" => some "class must extend the required base"
  | "E002" => some "class must implement the required interface"
  | "E003" => some "import is forbidden for this architecture"
  | "E004" => some "required import is missing"
  | "E005" => some "invalid allow_import constraint"
  | "E006" => some "required decorator is missing"
  | "E007" => some "decorator is forbidden"
  | "E008" => some "file name does not match the naming pattern"
  | "E009" => some "file is outside the allowed location"
  | "E010" => some "file exceeds the line limit"
  | "E011" => some "class exceeds the public method limit"
  | "E012" => some "companion test file is missing"
  | "E013" => some "file is imported by a module that may not import it"
  | "E014" => some "file participates in a circular dependency"
  | "E015" => some "call is forbidden"
  | "E016" => some "required call is missing"
  | "E017" => some "call must be wrapped in try/catch"
  | "E018" => some "call must be preceded by a guard call"
  | "E019" => some "mutation is forbidden"
  | "E020" => some "forbidden pattern found"
  | "E021" => some "required pattern not found"
  | "E022" => some "invalid allow_pattern constraint"
  | "E023" => some "none of the alternatives is present"
  | "E024" => some "function exceeds the line limit"
  | "E025" => some "required export is missing"
  | "E026" => some "companion file is missing"
  | "E027" => some "coverage target is missing"
  | "E028" => some "required intent is missing"
  | "I001" => some "intent is not defined in the registry"
  | "I002" => some "intent pattern requirement violated"
  | "I003" => some "intents conflict"
  | "I004" => some "intent requires another intent"
  | "O001" => some "override has invalid syntax"
  | "O002" => some "override is missing a required field"
  | "O003" => some "override has expired"
  | "O004" => some "override expiry is too far in the future"
  | "O005" => some "too many overrides in one file"
  | "S001" => some "file could not be parsed"
  | "S002" => some "file could not be read"
  | "S003" => some "constraint is malformed"
  | "S004" => some "no validator registered for rule"
  | "S005" => some "architecture could not be resolved"
  | "SEC001" => some "path escapes the project root"
  | "SEC002" => some "pattern rejected by the regex sandbox"
  | "W001" => some "architecture is deprecated"
  | "W002" => some "file has no architecture tag"
  | "W003" => some "override has no expiry date"
  | _ => none

end Conformance.Code
