import Conformance.Proofs.Project.Cycles
import Conformance.Validator.Imports
import Mathlib.Data.List.Induction

/-! Who imports a file. After linking, the importers of a file are the files whose imports were last set
to a list with it, each once and in order, whatever calls built the project. The rule on importers
reports each of them that no allowed path matches. -/
namespace Conformance

namespace ProjectIndex

variable {p : ProjectIndex} {f g : String}

section Linking

/-- Reverse edges come behind those that a file has. -/
private theorem find?_foldl_addImporter (edges : List (String × String)) (d : Dict (List String))
    (f : String) :
    ((edges.foldl addImporter d).find? f).getD [] =
      (d.find? f).getD [] ++ (edges.filter (·.2 = f)).map Prod.fst := by
  induction edges generalizing d with
  | nil => exact (List.append_nil _).symm
  | cons edge rest ih =>
    rw [List.foldl_cons, ih, addImporter, Dict.find?_insert, List.filter_cons]
    by_cases here : edge.2 = f <;> simp [here]

theorem importersOf_link (p : ProjectIndex) (f : String) :
    p.link.importersOf f = sortedDistinct ((p.edges.filter (·.2 = f)).map Prod.fst) := by
  have sources := find?_foldl_addImporter p.edges ∅ f
  rw [Dict.find?_empty, Option.getD_none, List.nil_append] at sources
  rw [importersOf, link, Dict.find?_map, ← sources]
  cases (p.edges.foldl addImporter ∅).find? f <;> rfl

private theorem mem_importersOf_link : g ∈ p.link.importersOf f ↔ f ∈ p.importsOf g := by
  have edge : (g, f) ∈ p.edges ↔ f ∈ p.importsOf g := mem_edges
  rw [importersOf_link, mem_sortedDistinct, ← edge]
  simp

end Linking

/-- A call that builds a project. -/
inductive Call where
  | addFile (path : String)
  | setContent (path content : String)
  | setImports (path : String) (targets : List String)
  | link

namespace Call

def apply (p : ProjectIndex) : Call → ProjectIndex
  | addFile path => p.addFile path
  | setContent path content => p.setContent path content
  | setImports path targets => p.setImports path targets
  | link => p.link

/-- The imports that a call sets for a file. -/
def importsFor? (path : String) : Call → Option (List String)
  | setImports other targets => if other = path then some targets else none
  | _ => none

private theorem importsOf_apply (p : ProjectIndex) (call : Call) (path : String) :
    (call.apply p).importsOf path = (call.importsFor? path).getD (p.importsOf path) := by
  cases call with
  | addFile | setContent | link => rfl
  | setImports other targets =>
    rw [apply, ProjectIndex.setImports, importsOf, Dict.find?_insert, importsFor?]
    split <;> rfl

end Call

/-- The project after calls. -/
def build (calls : List Call) : ProjectIndex := calls.foldl Call.apply {}

theorem build_concat (calls : List Call) (call : Call) :
    build (calls ++ [call]) = call.apply (build calls) := by
  rw [build, List.foldl_append]
  rfl

/-- The imports of a file are those set last. -/
private theorem importsOf_build (calls : List Call) (path : String) :
    (build calls).importsOf path = (calls.filterMap (Call.importsFor? path)).getLastD [] := by
  induction calls using List.reverseRecOn with
  | nil => rfl
  | append_singleton calls call ih =>
    rw [build_concat, Call.importsOf_apply, List.filterMap_append, ih]
    cases set : call.importsFor? path with
    | none => simp [set]
    | some targets => simp [set]

end ProjectIndex

namespace Validator

/-- The finding about a file that may not import. -/
def strangerFound (c : Constraint) (globs : List String) (importer : String) : Diagnostic :=
  .ofConstraint Rule.importableBy.code c c.value
    ("'" ++ importer ++ "' imports this file but is not an allowed importer (" ++
      Text.join ", " globs ++ ")")
    ("Move the dependency behind a module matching " ++ Text.join " or " globs)

theorem importableBy_eq {c : Constraint} {globs : List String} (listed : c.value.toList? = some globs)
    (ctx : FileContext) : importableBy c ctx = some (.ofViolations
      (((ctx.project.importersOf ctx.filePath).filter fun importer =>
        !globs.any fun g => Glob.matchPath g importer).map (strangerFound c globs))) := by
  rw [importableBy, onList, listed]
  rfl

end Validator

namespace ProjectIndex

open Validator

/-- After a link the importers of a file are, each once and in order, the files whose imports last set
name it. The rule on importers finds those that match none of its paths. -/
theorem importers_reverse_imports (calls : List Call) :
    let p := build (calls ++ [.link])
    (∀ g, p.importsOf g = (calls.filterMap (Call.importsFor? g)).getLastD []) ∧
    (∀ f g, g ∈ p.importersOf f ↔ f ∈ p.importsOf g) ∧
    (∀ f, (p.importersOf f).Pairwise (· < ·)) ∧
    ∀ (c : Constraint) (ctx : FileContext) (globs : List String), ctx.project = p →
      c.value.toList? = some globs →
      ∃ strangers : List String, strangers.Pairwise (· < ·) ∧
        (∀ g, g ∈ strangers ↔ ctx.filePath ∈ p.importsOf g ∧
          ∀ glob ∈ globs, Glob.matchPath glob g = false) ∧
        importableBy c ctx = some (.ofViolations (strangers.map (strangerFound c globs))) ∧
        ∀ g ∈ strangers, (strangerFound c globs g).code = "E013" := by
  intro p
  have linked : p = (build calls).link := build_concat calls .link
  have transposed (f g : String) : g ∈ p.importersOf f ↔ f ∈ p.importsOf g := by
    rw [linked]
    exact mem_importersOf_link
  have sorted (f : String) : (p.importersOf f).Pairwise (· < ·) := by
    rw [linked, importersOf_link]
    exact sortedDistinct_increasing _
  refine ⟨fun g => ?_, transposed, sorted, fun c ctx globs project listed => ?_⟩
  · rw [linked]
    exact importsOf_build calls g
  · refine ⟨_, (sorted ctx.filePath).filter _, fun g => ?_, project ▸ importableBy_eq listed ctx,
      fun _ _ => rfl⟩
    rw [List.mem_filter, transposed]
    simp

namespace Strangers

/-- Imports set twice for one file, a repeated import, and a file that imports itself. -/
def calls : List Call :=
  [.addFile "f", .setImports "a" ["b"], .setImports "z" ["f"], .link, .setImports "f" ["f"],
    .setImports "a" ["f", "f"]]

/-- The file that all of them import. -/
def file : FileContext where
  filePath := "f"
  archId := "svc"
  model := {}
  content := ""
  intents := []
  intentRegistry := ∅
  project := build (calls ++ [.link])
  limits := {}
  testFilePatterns := []

end Strangers

open Strangers in
theorem importers_outside_the_paths_are_found :
    let c := Constraint.ofRule .importableBy (.list ["x/*", "z"])
    file.project.importersOf "f" = ["a", "f", "z"] ∧ file.project.importersOf "b" = [] ∧
    ∃ strangers : List String, importableBy c file =
        some (.ofViolations (strangers.map (strangerFound c ["x/*", "z"]))) ∧
      strangers.Pairwise (· < ·) ∧ "a" ∈ strangers ∧ "f" ∈ strangers ∧ "z" ∉ strangers := by
  intro c
  obtain ⟨-, -, -, found⟩ := importers_reverse_imports calls
  obtain ⟨strangers, sorted, mem_strangers, verdict, -⟩ := found c file ["x/*", "z"] rfl rfl
  refine ⟨by decide +kernel, by decide +kernel, strangers, verdict, sorted, ?_, ?_, ?_⟩
  all_goals
    rw [mem_strangers]
    decide +kernel

end ProjectIndex

end Conformance
