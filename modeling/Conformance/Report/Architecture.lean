import Conformance.Report.Render
import Conformance.Resolution.Basic

/-! Flattened architectures for people. -/
namespace Conformance.Render

def constraint (coloured : Bool) (c : Constraint) : String :=
  "    " ++ dimmed coloured ("[" ++ c.severity.name ++ "]") ++ " " ++ bold coloured c.rule ++
    " = " ++ c.value.display ++ " " ++
    dimmed coloured ("(from " ++ c.source.getD "?" ++ ")")

/-- A header, then one line per constraint and hint. -/
def architecture (coloured : Bool) (a : FlattenedArchitecture) : String :=
  let head := (Style.boldIn .white).paint coloured a.archId ++ " " ++
    dimmed coloured ("(chain: " ++ Text.join " -> " a.inheritanceChain ++ ")")
  let mixins := if a.appliedMixins.isEmpty then []
    else ["  mixins: " ++ Text.join ", " a.appliedMixins]
  let description := a.description.toList.map fun d => "  " ++ compact d messageWidth
  let deprecation := a.deprecation.toList.map fun d =>
    "  " ++ (Style.boldIn .yellow).paint coloured "deprecated" ++ " since " ++ d.since
  let hints := a.hints.map fun h => "  " ++ cyan coloured "hint:" ++ " " ++ h
  Text.join "\n" (head :: mixins ++ description ++ deprecation ++
    a.constraints.map (constraint coloured) ++ hints)

end Conformance.Render
