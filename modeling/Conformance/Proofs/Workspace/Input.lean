import Conformance.Proofs.ResultCache.Key
import Conformance.Proofs.Workspace.Run

/-! What a file is checked from. The facts about it follow from its text and its stored model, as
long as a stored model that is there can be read. -/
namespace Conformance

namespace Run
variable {r q : Run}

/-- A stored model that is not there, or can be read. -/
def ReadsSidecar (r : Run) (path : String) : Prop :=
  r.workspace.modelSource = .stored →
    r.tree.isPresent (ModelSource.modelPath r.workspace.root path) = true →
    ∃ text, r.tree.readText (ModelSource.modelPath r.workspace.root path) = .ok text

private theorem isPresent_of_readText {t : FileTree} {path text : String}
    (read : t.readText path = .ok text) : t.isPresent path = true := by
  obtain ⟨bytes, found, -⟩ := bind_eq_ok read
  obtain ⟨entry, at?, -⟩ := bind_eq_ok found
  rw [FileTree.isPresent, at?]
  rfl

/-- The facts about a file from its text and its stored model. -/
def modelFrom (root path content : String) : Option String → Except Failure SourceModel
  | none => .ok (TextModel.parse path content)
  | some raw =>
    match (Json.scan? raw).bind SourceModel.ofDocument? with
    | some m => .ok (ModelSource.withText m path content)
    | none => .error (.parse path (ModelSource.modelPath root path ++ ":"))

theorem model_eq {path : String} (reads : r.ReadsSidecar path) (content : String) :
    r.model path content = modelFrom r.workspace.root path content (r.sidecar? path) := by
  unfold ReadsSidecar at reads
  unfold model sidecar? ModelSource.parse ModelSource.input?
  cases source : r.workspace.modelSource with
  | text => rfl
  | stored =>
    cases at? : r.tree.isPresent (ModelSource.modelPath r.workspace.root path) with
    | false =>
      have none : (r.tree.readText (ModelSource.modelPath r.workspace.root path)).toOption = none := by
        cases read : r.tree.readText (ModelSource.modelPath r.workspace.root path) with
        | error e => rfl
        | ok text => rw [isPresent_of_readText read] at at?; cases at?
      simp [at?, none, modelFrom]
    | true =>
      obtain ⟨text, read⟩ := reads source at?
      simp only [at?, read, Except.toOption, modelFrom]
      rfl

end Run

end Conformance
