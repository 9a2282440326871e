import Conformance.Report.Render
import Conformance.Session
import Conformance.Workspace.Check

/-! Checking many files in one run: every project file is read, those without a stored result are
parsed, the import graph is built from fresh and stored imports, and then the wanted files are
checked. -/
namespace Conformance

/-- A file as read from the tree. -/
structure LoadedFile where
  path : String
  target : Bool
  content : Except FileError String
  checksum : String

structure RunReport where
  /-- In path order. -/
  results : List FileResult
  summary : RunSummary
  /-- Nothing when results are not stored. -/
  cache : Option CacheStats
  session : Session

namespace RunSummary

def add (s : RunSummary) (r : FileResult) : RunSummary where
  files := s.files + 1
  passed := s.passed + (if r.status = .pass then 1 else 0)
  warned := s.warned + (if r.status = .warn then 1 else 0)
  failed := s.failed + (if r.status = .fail then 1 else 0)
  errors := s.errors + r.violations.length
  warnings := s.warnings + r.warnings.length
  overridden := s.overridden + r.overridesCount
  cached := s.cached + (if r.fromCache then 1 else 0)

def tally (results : List FileResult) : RunSummary := results.foldl add {}

/-- Whether a run counts as a success. -/
def succeeded (s : RunSummary) (failOnWarning : Bool) : Bool :=
  s.failed = 0 && (!failOnWarning || s.warned = 0)

end RunSummary

namespace Workspace

/-- All paths of a run: those of the project and those asked for, sorted, each once. -/
def runPaths (discovered targets : List String) : List String :=
  sortedDistinct (discovered ++ targets)

def loadFile (w : Workspace) (t : FileTree) (targets : List String) (s : Session)
    (path : String) : LoadedFile × Session :=
  let (content, contents) := s.contents.getOrTryInsert path fun _ =>
    t.readText (FileTree.join w.root path)
  let checksum := match content with
    | .ok text => inputChecksum text (w.modelSource.input? t w.root path)
    | .error _ => ""
  ({ path, target := targets.contains path, content, checksum }, { s with contents })

/-- Apply a step to items in turn, with a state that goes through all of them. -/
def inTurn {α β σ : Type} (step : σ → α → β × σ) : List α → σ → List β × σ
  | [], s => ([], s)
  | a :: rest, s =>
    let (b, s) := step s a
    let (bs, s) := inTurn step rest s
    (b :: bs, s)

/-- A wanted file that cannot be read. -/
def readFailure (path : String) (e : FileError) : FileResult :=
  .ofDiagnostics path none [.system Code.unreadable "read" .error
    ("Cannot read " ++ path ++ ": " ++ e.message) "Check the path and file permissions"]

/-- What becomes of a loaded file. -/
inductive Consulted where
  | unreadable (r : FileResult) (target : Bool)
  | stored (r : FileResult) (target : Bool)
  | missed (f : LoadedFile) (content : String)

/-- The stored result of a file. Look-ups of files that nobody asked for leave no trace. -/
def lookupStored (cache : Option ResultCache) (f : LoadedFile) :
    Option CachedResult × Option ResultCache :=
  match cache with
  | none => (none, none)
  | some c =>
    if f.target then
      let (entry, c) := c.get? f.path f.checksum
      (entry, some c)
    else (c.peek? f.path f.checksum, some c)

/-- Look a file up in the stored results. -/
def consult (cache : Option ResultCache) (f : LoadedFile) : Consulted × Option ResultCache :=
  match f.content with
  | .error e => (.unreadable (readFailure f.path e) f.target, cache)
  | .ok content =>
    match lookupStored cache f with
    | (some e, cache) => (.stored (e.toResult f.path) f.target, cache)
    | (none, cache) => (.missed f content, cache)

/-- The results that are there without checking. -/
def Consulted.result? : Consulted → Option FileResult
  | .unreadable r target | .stored r target => if target then some r else none
  | .missed _ _ => none

/-- The imports that are known without parsing. -/
def Consulted.imports? : Consulted → Option (String × List String)
  | .stored r _ => some (r.path, r.imports)
  | _ => none

def Consulted.missed? : Consulted → Option (LoadedFile × String)
  | .missed f content => some (f, content)
  | _ => none

/-- The file that an import names, remembered by importing file and specifier. -/
def resolveImport (all : Dict Unit) (path : String) (s : Session) (i : ImportDecl) :
    Option String × Session :=
  let (target, modules) := s.modules.getOrInsert (path, i.moduleSpecifier) fun _ =>
    Path.resolveModule? all path i.moduleSpecifier
  (target, { s with modules })

def parseFile (w : Workspace) (t : FileTree) (all : Dict Unit) (s : Session)
    (file : LoadedFile × String) : ParsedFile × Session :=
  let (f, content) := file
  let (tags, tagMemo) := s.tags.getOrInsert f.path fun _ => TagScan.extract content
  let (model, models) := s.models.getOrTryInsert f.path fun _ =>
    w.modelSource.parse t w.root f.path content
  let s := { s with tags := tagMemo, models }
  let (targets, s) := match model with
    | .ok m => inTurn (resolveImport all f.path) m.imports s
    | .error _ => ([], s)
  ({ path := f.path, content, checksum := f.checksum, target := f.target, tags, model
     imports := sortedDistinct (targets.filterMap id) }, s)

/-- The project as all checks see it. -/
def projectOf (loaded : List LoadedFile) (imports : List (String × List String)) :
    ProjectIndex :=
  let withFiles := loaded.foldl (fun p f =>
    let p := p.addFile f.path
    match f.content with
    | .ok content => p.setContent f.path content
    | .error _ => p) ({} : ProjectIndex)
  (imports.foldl (fun p (path, targets) => p.setImports path targets) withFiles).link

/-- Check a file, with its architecture remembered by name. -/
def checkFile (w : Workspace) (project : ProjectIndex) (s : Session) (f : ParsedFile) :
    FileResult × Session :=
  match f.tags.arch with
  | none => (w.checkUntagged f, s)
  | some tag =>
    let (flattened, architectures) := s.architectures.getOrInsert tag.id fun _ => w.resolve tag.id
    (w.checkTagged project f tag flattened, { s with architectures })

/-- Failures to read or parse are not stored. -/
def isCacheable (r : FileResult) : Bool :=
  !r.violations.any fun d => d.code = Code.unparsed || d.code = Code.unreadable

/-- Store fresh results, drop those of files that are gone, and write. A document that cannot be
written is let go. -/
def storeResults (cache : ResultCache) (t : FileTree) (all : Dict Unit)
    (fresh : List (ParsedFile × FileResult)) (now : String) : CacheStats × FileTree :=
  let cache := fresh.foldl (fun c (f, r) =>
    if isCacheable r then c.put f.path (.ofResult r f.checksum now) else c) cache
  let (_, cache, t) := (cache.retain all.contains).flush t now
  (cache.stats, t)

/-- Check files against the whole project. -/
def validatePaths (w : Workspace) (t : FileTree) (targets : List String) (now : String) :
    Except Failure RunReport × FileTree :=
  match w.discover t with
  | .error e => (.error e, t)
  | .ok discovered =>
    let paths := runPaths discovered targets
    let all : Dict Unit := .ofList (paths.map fun p => (p, ()))
    let cache := if w.config.cache.enabled then some (w.loadCache t now) else none
    let (loaded, session) := inTurn (w.loadFile t targets) paths {}
    let (consulted, cache) := inTurn consult loaded cache
    let (parsed, session) := inTurn (w.parseFile t all) (consulted.filterMap (·.missed?)) session
    let project := projectOf loaded
      (consulted.filterMap (·.imports?) ++ parsed.map fun f => (f.path, f.imports))
    let wanted := parsed.filter (·.target)
    let (fresh, session) := inTurn (w.checkFile project) wanted session
    let (stats, t) := match cache with
      | some c =>
        let (stats, t) := storeResults c t all (wanted.zip fresh) now
        (some stats, t)
      | none => (none, t)
    let results := (consulted.filterMap (·.result?) ++ fresh).mergeSort fun a b =>
      decide (a.path ≤ b.path)
    (.ok { results, summary := .tally results, cache := stats, session }, t)

/-- Check all files of the project. -/
def validateAll (w : Workspace) (t : FileTree) (now : String) :
    Except Failure RunReport × FileTree :=
  match w.discover t with
  | .error e => (.error e, t)
  | .ok files => w.validatePaths t files now

end Workspace

/-- The result of one file. -/
def RunReport.result? (r : RunReport) (path : String) : Option FileResult :=
  r.results.find? fun f => f.path = path

end Conformance
