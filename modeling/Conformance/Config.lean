import Conformance.Document.JsonWriter
import Conformance.Override.Codec
import Conformance.Pattern
import Conformance.Sha256
import Conformance.Toml.Reader

/-! The configuration of a project. Every setting has a default. -/
namespace Conformance

/-- Which files belong to the project. -/
structure FilesConfig where
  «include» : List String := ["**/*"]
  exclude : List String :=
    ["**/node_modules/**", "**/target/**", "**/.git/**", ".arch/**"]
  deriving DecidableEq, Repr, Inhabited

structure ValidationConfig where
  failOnWarning : Bool := false
  /-- Whether files without an architecture are warned about. -/
  reportUntagged : Bool := true
  testFilePatterns : List String := [
    "\x7bdir\x7d/\x7bname\x7d.test.\x7bext\x7d",
    "\x7bdir\x7d/\x7bname\x7d.spec.\x7bext\x7d",
    "\x7bdir\x7d/\x7bname\x7d_test.\x7bext\x7d",
    "\x7bdir\x7d/test_\x7bname\x7d.\x7bext\x7d"]
  deriving DecidableEq, Repr, Inhabited

structure CacheConfig where
  enabled : Bool := true
  path : String := ".arch/cache/validation.json"
  deriving DecidableEq, Repr, Inhabited

structure Config where
  files : FilesConfig := {}
  validation : ValidationConfig := {}
  overrides : OverridePolicy := {}
  cache : CacheConfig := {}
  patterns : PatternLimits := {}
  deriving DecidableEq, Repr, Inhabited

namespace FilesConfig

def ofDocument? (format : Format) (d : Document) : Option FilesConfig := do
  let fields ← d.fieldsIn? format ["include", "exclude"]
  let absent : FilesConfig := {}
  return {
    «include» := ← fields.withDefault "include" absent.include Document.texts?
    exclude := ← fields.withDefault "exclude" absent.exclude Document.texts? }

def toDocument (c : FilesConfig) : Document :=
  .record [("include", .ofTexts c.include), ("exclude", .ofTexts c.exclude)]

end FilesConfig

namespace ValidationConfig

def ofDocument? (d : Document) : Option ValidationConfig := do
  let fields ← d.fieldsIn? .toml ["fail_on_warning", "report_untagged", "test_file_patterns"]
  let absent : ValidationConfig := {}
  return {
    failOnWarning := ← fields.withDefault "fail_on_warning" absent.failOnWarning Document.bool?
    reportUntagged := ← fields.withDefault "report_untagged" absent.reportUntagged Document.bool?
    testFilePatterns :=
      ← fields.withDefault "test_file_patterns" absent.testFilePatterns Document.texts? }

def toDocument (c : ValidationConfig) : Document := .record [
  ("fail_on_warning", .bool c.failOnWarning),
  ("report_untagged", .bool c.reportUntagged),
  ("test_file_patterns", .ofTexts c.testFilePatterns)]

end ValidationConfig

namespace CacheConfig

def ofDocument? (d : Document) : Option CacheConfig := do
  let fields ← d.fieldsIn? .toml ["enabled", "path"]
  let absent : CacheConfig := {}
  return {
    enabled := ← fields.withDefault "enabled" absent.enabled Document.bool?
    path := ← fields.withDefault "path" absent.path Document.text? }

def toDocument (c : CacheConfig) : Document :=
  .record [("enabled", .bool c.enabled), ("path", .text c.path)]

end CacheConfig

namespace PatternLimits

def ofDocument? (format : Format) (d : Document) : Option PatternLimits := do
  let fields ← d.fieldsIn? format ["max_length", "slow_match_ms"]
  let absent : PatternLimits := {}
  return {
    maxLength := ← fields.withDefault "max_length" absent.maxLength Document.nat?
    slowMatchMs := ← fields.withDefault "slow_match_ms" absent.slowMatchMs Document.nat? }

def toDocument (p : PatternLimits) : Document :=
  .record [("max_length", .ofNat p.maxLength), ("slow_match_ms", .ofNat p.slowMatchMs)]

end PatternLimits

namespace Config

def ofDocument? (d : Document) : Option Config := do
  let fields ← d.fieldsIn? .toml ["files", "validation", "overrides", "cache", "patterns"]
  return {
    files := ← fields.withDefault "files" {} (FilesConfig.ofDocument? .toml)
    validation := ← fields.withDefault "validation" {} ValidationConfig.ofDocument?
    overrides := ← fields.withDefault "overrides" {} (OverridePolicy.ofDocument? .toml)
    cache := ← fields.withDefault "cache" {} CacheConfig.ofDocument?
    patterns := ← fields.withDefault "patterns" {} (PatternLimits.ofDocument? .toml) }

def read? (toml : String) : Option Config := (Toml.read? toml).bind ofDocument?

def toDocument (c : Config) : Document := .record [
  ("files", c.files.toDocument),
  ("validation", c.validation.toDocument),
  ("overrides", c.overrides.toDocument),
  ("cache", c.cache.toDocument),
  ("patterns", c.patterns.toDocument)]

def checksum (c : Config) : String := Sha256.ofText (Json.write c.toDocument)

end Config

end Conformance
