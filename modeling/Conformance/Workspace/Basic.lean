import Conformance.Date
import Conformance.Project.Discovery
import Conformance.Registry.Codec
import Conformance.ResultCache.Basic
import Conformance.Source.StoredModel
import Conformance.Tag.Scan
import Conformance.Audit
import Conformance.Validator.Catalogue

/-! A project opened for checking: its root with the configuration and the registry found
there. -/
namespace Conformance

structure Workspace where
  root : String
  config : Config
  registry : Registry
  catalogue : Catalogue := .builtin
  modelSource : ModelSource := .stored
  registryChecksum : String
  configChecksum : String
  /-- The day on which overrides are judged. -/
  today : Date

/-- What is known of the stored results without a run. -/
structure CacheInfo where
  path : String
  isPresent : Bool
  entries : Nat
  /-- They were stored for another registry or configuration. -/
  stale : Bool
  deriving DecidableEq, Repr, Inhabited

namespace Workspace

def ofParts (root : String) (config : Config) (registry : Registry) (today : Date) :
    Workspace where
  root
  config
  registry
  registryChecksum := registry.checksum
  configChecksum := config.checksum
  today

def fileFailure (e : FileError) : Failure := .io e.message

/-- A project without a configuration file has the default one. -/
def loadConfig (t : FileTree) (root : String) : Except Failure Config := do
  let path := FileTree.join root ".arch/config.toml"
  if t.isPresent path then
    let text ← (t.readText path).mapError fileFailure
    match Config.read? text with
    | some config => .ok config
    | none => .error (.config path)
  else .ok {}

/-- The registry files in the order in which they are merged: the single one, then those of the
registry folder by name. -/
def registryFiles (t : FileTree) (root : String) : List String :=
  let single := FileTree.join root ".arch/registry.toml"
  let folder := FileTree.join root ".arch/registry"
  let parts := if t.isFolder folder then
      (t.names folder).filter fun name => (Path.splitName name).2 = "toml"
    else []
  (if t.isFile single then [single] else []) ++ parts.map (FileTree.join folder)

/-- Merge a registry file into what was read before. -/
def loadRegistryFile (t : FileTree) (r : Registry) (path : String) : Except Failure Registry := do
  let text ← (t.readText path).mapError fileFailure
  match r.mergeText? path text with
  | some r => .ok r
  | none => .error (.registry path)

def loadRegistry (t : FileTree) (root : String) : Except Failure Registry :=
  (registryFiles t root).foldlM (loadRegistryFile t) {}

/-- Open the project at a root. -/
def load (t : FileTree) (root : String) (today : Date) : Except Failure Workspace := do
  let config ← loadConfig t root
  let registry ← loadRegistry t root
  return ofParts root config registry today

/-- Turn stored results on or off; the checksum they are stored under stays. -/
def withCache (w : Workspace) (enabled : Bool) : Workspace :=
  { w with config := { w.config with cache := { w.config.cache with enabled } } }

def resolve (w : Workspace) (id : String) : Except ResolutionError FlattenedArchitecture :=
  Resolution.resolve w.registry id

def discover (w : Workspace) (t : FileTree) : Except Failure (List String) :=
  (Discovery.files t w.root w.config.files).mapError fileFailure

/-- A path given by a user as a project path; nothing for one outside the root. -/
def relativePath? (w : Workspace) (raw : String) : Option String :=
  let below := if Text.startsWith raw "/" then
      (FileTree.components w.root).isPrefixOf? (FileTree.components raw) |>.map (Text.join "/")
    else some raw
  ((below.map Discovery.projectPath).bind Path.normalize?).filter (· ≠ "")

def cachePath (w : Workspace) : String := FileTree.join w.root w.config.cache.path

/-- The stored results as they are found. -/
def loadCache (w : Workspace) (t : FileTree) (now : String) : ResultCache :=
  ResultCache.load t w.cachePath w.registryChecksum w.configChecksum now

def cacheInfo (w : Workspace) (t : FileTree) : CacheInfo :=
  let cache := w.loadCache t ""
  { path := w.cachePath
    isPresent := t.isPresent w.cachePath
    entries := if cache.stats.fullInvalidation then cache.stats.invalidated else cache.size
    stale := cache.stats.fullInvalidation }

def clearCache (w : Workspace) (t : FileTree) : Except Failure Bool × FileTree :=
  let (out, t) := ResultCache.clear t w.cachePath
  (out.mapError fileFailure, t)

/-- The overrides in one file; a file that cannot be read has none. -/
def overridesIn (w : Workspace) (t : FileTree) (path : String) : List OverrideRecord :=
  match t.readText (FileTree.join w.root path) with
  | .ok content => (TagScan.extract content).overrides.map fun tag => { path, tag }
  | .error _ => []

/-- All overrides of the project. -/
def collectOverrides (w : Workspace) (t : FileTree) : Except Failure (List OverrideRecord) :=
  (w.discover t).map fun files => files.flatMap (w.overridesIn t)

end Workspace

end Conformance
