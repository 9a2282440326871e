import Conformance.Document.JsonReader
import Conformance.Failure
import Conformance.FileTree.Basic
import Conformance.Source.ModelCodec
import Conformance.Source.TextModel

/-! Where the facts about a file come from: its text alone, or a model that another tool stored
for it. -/
namespace Conformance

inductive ModelSource where
  /-- The text alone. -/
  | text
  /-- A stored model, or the text of a file without one. -/
  | stored
  deriving DecidableEq, Repr, Inhabited

namespace ModelSource

def all : List ModelSource := [.text, .stored]

def name : ModelSource → String
  | .text => "plain-text"
  | .stored => "sidecar"

/-- The stored model of a project file. -/
def modelPath (root path : String) : String :=
  FileTree.join (FileTree.join root ".arch/models") (path ++ ".json")

/-- The text of the stored model, which a file's result depends on. -/
def input? (s : ModelSource) (t : FileTree) (root path : String) : Option String :=
  match s with
  | .text => none
  | .stored => (t.readText (modelPath root path)).toOption

/-- A stored model beside the text it speaks of: lines are counted in the text, which also tells
the language if the model does not. -/
def withText (m : SourceModel) (path content : String) : SourceModel :=
  let text := SourceModel.ofText path content
  { m with
    filePath := text.filePath
    lineCount := text.lineCount
    locCount := text.locCount
    language := if m.language.isEmpty then text.language else m.language }

/-- The facts about a project file. -/
def parse (s : ModelSource) (t : FileTree) (root path content : String) :
    Except Failure SourceModel :=
  let stored := modelPath root path
  if s = .stored && t.isPresent stored then
    match t.readText stored with
    | .error e => .error (.io e.message)
    | .ok raw =>
      match (Json.scan? raw).bind SourceModel.ofDocument? with
      | some m => .ok (withText m path content)
      | none => .error (.parse path (stored ++ ":"))
  else .ok (TextModel.parse path content)

end ModelSource

end Conformance
