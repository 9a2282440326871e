import Conformance.Document.JsonReader
import Conformance.Document.JsonWriter
import Conformance.FileTree.Basic
import Conformance.ResultCache.Entry

/-! The results of earlier runs. The document is read once, consulted and changed in memory, and
written once through a second file, so that it is never seen half written. A document for another
registry or configuration counts for nothing. -/
namespace Conformance

structure CacheStats where
  hits : Nat := 0
  /-- Look-ups without a stored result, out-of-date ones among them. -/
  misses : Nat := 0
  /-- Entries thrown away. -/
  invalidated : Nat := 0
  /-- The whole document was thrown away. -/
  fullInvalidation : Bool := false
  deriving DecidableEq, Repr, Inhabited

def CacheStats.toDocument (s : CacheStats) : Document := .record [
  ("hits", .ofNat s.hits),
  ("misses", .ofNat s.misses),
  ("invalidated", .ofNat s.invalidated),
  ("full_invalidation", .bool s.fullInvalidation)]

structure ResultCache where
  path : String
  document : CacheDocument
  stats : CacheStats := {}
  /-- The document differs from the stored one. -/
  dirty : Bool := false

namespace ResultCache

/-- What is found where the document should be. -/
inductive Stored where
  | absent
  /-- It cannot be read, or is no such document. -/
  | broken
  | readable (c : CacheDocument)

def stored (t : FileTree) (path : String) : Stored :=
  match t.readText path with
  | .error .missing => .absent
  | .error _ => .broken
  | .ok text =>
    match (Json.scan? text).bind CacheDocument.ofDocument? with
    | some c => .readable c
    | none => .broken

/-- Whether a document was written in this form for this registry and configuration. -/
def isCurrent (c : CacheDocument) (registryChecksum configChecksum : String) : Bool :=
  c.version = cacheVersion && c.registryChecksum = registryChecksum &&
    c.configChecksum = configChecksum

/-- Start from what is stored, which is never an error. -/
def start (path registryChecksum configChecksum now : String) (found : Stored) : ResultCache :=
  let fresh : CacheDocument :=
    { registryChecksum, configChecksum, createdAt := now, updatedAt := now }
  let discarded (n : Nat) : ResultCache := {
    path, document := fresh, dirty := true
    stats := { invalidated := n, fullInvalidation := true } }
  match found with
  | .absent => { path, document := fresh }
  | .broken => discarded 0
  | .readable c =>
    if isCurrent c registryChecksum configChecksum then { path, document := c }
    else discarded c.files.size

def load (t : FileTree) (path registryChecksum configChecksum now : String) : ResultCache :=
  start path registryChecksum configChecksum now (stored t path)

/-- The entry of a file if it was stored for this checksum. -/
def peek? (c : ResultCache) (file checksum : String) : Option CachedResult :=
  (c.document.files.find? file).filter fun e => e.checksum = checksum

/-- The entry of a file, with the outcome counted. An entry for another checksum goes. -/
def get? (c : ResultCache) (file checksum : String) : Option CachedResult × ResultCache :=
  match c.document.files.find? file with
  | none => (none, { c with stats := { c.stats with misses := c.stats.misses + 1 } })
  | some e =>
    if e.checksum = checksum then
      (some e, { c with stats := { c.stats with hits := c.stats.hits + 1 } })
    else
      (none, { c with
        document := { c.document with files := c.document.files.erase file }
        stats := { c.stats with
          misses := c.stats.misses + 1, invalidated := c.stats.invalidated + 1 }
        dirty := true })

def put (c : ResultCache) (file : String) (e : CachedResult) : ResultCache :=
  { c with document := { c.document with files := c.document.files.insert file e }, dirty := true }

/-- Keep the entries of some files only. -/
def retain (c : ResultCache) (keep : String → Bool) : ResultCache :=
  let files := c.document.files.filter fun file _ => keep file
  { c with
    document := { c.document with files }
    dirty := c.dirty || files.size ≠ c.document.files.size }

/-- The name of the file that is written first. -/
def draftPath (path : String) : String := FileTree.withExtension "json.tmp" path

/-- Write a text under a path by way of the draft. What was done before a refusal stays. -/
def store (t : FileTree) (path text : String) : Except FileError Unit × FileTree :=
  match t.createFolders (FileTree.parent path) with
  | .error e => (.error e, t)
  | .ok t =>
    match t.write (draftPath path) text.toUTF8 with
    | .error e => (.error e, t)
    | .ok t =>
      match t.rename (draftPath path) path with
      | .error e => (.error e, t)
      | .ok t => (.ok (), t)

/-- Write the document if it changed. -/
def flush (c : ResultCache) (t : FileTree) (now : String) :
    Except FileError Unit × ResultCache × FileTree :=
  if c.dirty then
    let c := { c with document := { c.document with updatedAt := now } }
    match store t c.path (Json.writeIndented c.document.toDocument) with
    | (.ok (), t) => (.ok (), { c with dirty := false }, t)
    | (.error e, t) => (.error e, c, t)
  else (.ok (), c, t)

def size (c : ResultCache) : Nat := c.document.files.size

def isEmpty (c : ResultCache) : Bool := c.document.files.isEmpty

/-- Remove the stored document; whether there was one. -/
def clear (t : FileTree) (path : String) : Except FileError Bool × FileTree :=
  match t.remove path with
  | .ok t => (.ok true, t)
  | .error .missing => (.ok false, t)
  | .error e => (.error e, t)

end ResultCache

end Conformance
