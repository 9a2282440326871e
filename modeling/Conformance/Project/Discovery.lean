import Conformance.FileTree.Basic
import Conformance.Project.Inclusion

/-! Finding the files of a project. -/
namespace Conformance.Discovery

/-- A path in a file tree as a project path. -/
def projectPath (path : String) : String := Text.replaceAll "\\" "/" path

/-- The folders on the way to a path, from the outside in. -/
def foldersAround (path : String) : List (List String) :=
  let segments := Path.segments path
  ((List.range segments.length).drop 1).map segments.take

/-- Folders that are not looked into: those of version control and those an exclude pattern
names. -/
def isPruned (c : FilesConfig) (folder : List String) : Bool :=
  folder.getLast? = some ".git" || c.isExcluded (projectPath (Text.join "/" folder) ++ "/")

/-- Whether a file below the root is one of the project. -/
def isFound (c : FilesConfig) (path : String) : Bool :=
  !(foldersAround path).any (isPruned c) && c.isIncluded (projectPath path)

/-- The project files below a root, in path order. -/
def files (t : FileTree) (root : String) (c : FilesConfig) : Except FileError (List String) := do
  match ← t.entry root with
  | .file _ => .error .notFolder
  | .folder =>
    let found := (t.below root).filterMap fun (path, entry) =>
      match entry with
      | .file _ => if isFound c path then some (projectPath path) else none
      | .folder => none
    return found.mergeSort fun a b => decide (a ≤ b)

end Conformance.Discovery
