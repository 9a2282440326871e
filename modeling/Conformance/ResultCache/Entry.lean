import Conformance.Diagnostic.Codec
import Conformance.Dict
import Conformance.Sha256

/-! Stored results: one entry per file, keyed by a checksum of what the file was checked from, in
a document bound to one registry and one configuration. -/
namespace Conformance

structure CachedResult where
  checksum : String
  cachedAt : String
  archId : Option String
  status : FileStatus
  violations : List Diagnostic
  warnings : List Diagnostic
  imports : List String
  overridesCount : Nat
  deriving DecidableEq, Repr, Inhabited

namespace CachedResult

def ofResult (r : FileResult) (checksum now : String) : CachedResult where
  checksum
  cachedAt := now
  archId := r.archId
  status := r.status
  violations := r.violations
  warnings := r.warnings
  imports := r.imports
  overridesCount := r.overridesCount

/-- The stored result of a path. Overridden diagnostics are not stored, only their number. -/
def toResult (e : CachedResult) (path : String) : FileResult where
  path
  archId := e.archId
  status := e.status
  violations := e.violations
  warnings := e.warnings
  overridesCount := e.overridesCount
  imports := e.imports
  fromCache := true

def ofDocument? (d : Document) : Option CachedResult := do
  let fields ← d.fields? ["checksum", "cached_at", "arch_id", "status", "violations", "warnings",
    "imports", "overrides_count"]
  return {
    checksum := ← fields.required "checksum" Document.text?
    cachedAt := ← fields.required "cached_at" Document.text?
    archId := ← fields.nullable "arch_id" Document.text?
    status := ← fields.required "status" FileStatus.ofDocument?
    violations := ← fields.required "violations" (Document.list? Diagnostic.ofDocument?)
    warnings := ← fields.required "warnings" (Document.list? Diagnostic.ofDocument?)
    imports := ← fields.required "imports" Document.texts?
    overridesCount := ← fields.required "overrides_count" Document.nat? }

def toDocument (e : CachedResult) : Document := .record [
  ("checksum", .text e.checksum),
  ("cached_at", .text e.cachedAt),
  ("arch_id", .ofOptionText e.archId),
  ("status", e.status.toDocument),
  ("violations", .list (e.violations.map Diagnostic.toDocument)),
  ("warnings", .list (e.warnings.map Diagnostic.toDocument)),
  ("imports", .ofTexts e.imports),
  ("overrides_count", .ofNat e.overridesCount)]

end CachedResult

/-- The form of the document that is read and written. -/
def cacheVersion : Nat := 1

structure CacheDocument where
  version : Nat := cacheVersion
  registryChecksum : String
  configChecksum : String
  createdAt : String
  updatedAt : String
  files : Dict CachedResult := ∅

namespace CacheDocument

def ofDocument? (d : Document) : Option CacheDocument := do
  let fields ← d.fields? ["version", "registry_checksum", "config_checksum", "created_at",
    "updated_at", "files"]
  return {
    version := ← fields.required "version" (Document.unsigned? 32)
    registryChecksum := ← fields.required "registry_checksum" Document.text?
    configChecksum := ← fields.required "config_checksum" Document.text?
    createdAt := ← fields.required "created_at" Document.text?
    updatedAt := ← fields.required "updated_at" Document.text?
    files := ← fields.required "files" (Document.dict? CachedResult.ofDocument?) }

def toDocument (c : CacheDocument) : Document := .record [
  ("version", .ofNat c.version),
  ("registry_checksum", .text c.registryChecksum),
  ("config_checksum", .text c.configChecksum),
  ("created_at", .text c.createdAt),
  ("updated_at", .text c.updatedAt),
  ("files", .ofDict CachedResult.toDocument c.files)]

end CacheDocument

/-- What a file is checked from: its text and, after a zero byte, its stored model. -/
def inputBytes (content : String) (model : Option String) : ByteArray :=
  match model with
  | none => content.toUTF8
  | some m => content.toUTF8 ++ ⟨#[0]⟩ ++ m.toUTF8

def inputChecksum (content : String) (model : Option String) : String :=
  Sha256.digest (inputBytes content model)

end Conformance
