import Conformance.Config
import Conformance.Glob

/-! Which files belong to a project, by include and exclude patterns. -/
namespace Conformance.FilesConfig

def isExcluded (c : FilesConfig) (path : String) : Bool :=
  c.exclude.any fun g => Glob.matchPath g path

def isIncluded (c : FilesConfig) (path : String) : Bool :=
  (c.include.any fun g => Glob.matchPath g path) && !c.isExcluded path

end Conformance.FilesConfig
