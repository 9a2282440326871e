import Conformance.Source.Model
import Conformance.Constraint.Codec

/-! Source models as documents. In reading, every field may be left out. -/
namespace Conformance

namespace ImportDecl

def ofDocument? (d : Document) : Option ImportDecl := do
  let fields ← d.fields? ["module_specifier", "default_import", "named_imports",
    "namespace_import", "is_type_only", "line"]
  return {
    moduleSpecifier := ← fields.withDefault "module_specifier" "" Document.text?
    defaultImport := ← fields.optional "default_import" Document.text?
    namedImports := ← fields.withDefault "named_imports" [] Document.texts?
    namespaceImport := ← fields.optional "namespace_import" Document.text?
    isTypeOnly := ← fields.withDefault "is_type_only" false Document.bool?
    line := ← fields.withDefault "line" 0 Document.nat? }

def toDocument (i : ImportDecl) : Document := .record [
  ("module_specifier", .text i.moduleSpecifier),
  ("default_import", .ofOptionText i.defaultImport),
  ("named_imports", .ofTexts i.namedImports),
  ("namespace_import", .ofOptionText i.namespaceImport),
  ("is_type_only", .bool i.isTypeOnly),
  ("line", .ofNat i.line)]

end ImportDecl

namespace Visibility

def ofDocument? (d : Document) : Option Visibility :=
  match d.choice? .json with
  | some "public" => some .public
  | some "protected" => some .protected
  | some "private" => some .private
  | _ => none

def toDocument : Visibility → Document
  | .public => .text "public"
  | .protected => .text "protected"
  | .private => .text "private"

end Visibility

namespace Decorator

def ofDocument? (d : Document) : Option Decorator := do
  let fields ← d.fields? ["name", "arguments", "line"]
  return {
    name := ← fields.withDefault "name" "" Document.text?
    arguments := ← fields.withDefault "arguments" [] Document.texts?
    line := ← fields.withDefault "line" 0 Document.nat? }

def toDocument (x : Decorator) : Document := .record [
  ("name", .text x.name),
  ("arguments", .ofTexts x.arguments),
  ("line", .ofNat x.line)]

end Decorator

namespace MethodDecl

def ofDocument? (d : Document) : Option MethodDecl := do
  let fields ← d.fields? ["name", "visibility", "is_static", "decorators", "start_line",
    "end_line"]
  return {
    name := ← fields.withDefault "name" "" Document.text?
    visibility := ← fields.withDefault "visibility" .public Visibility.ofDocument?
    isStatic := ← fields.withDefault "is_static" false Document.bool?
    decorators := ← fields.withDefault "decorators" [] (Document.list? Decorator.ofDocument?)
    startLine := ← fields.withDefault "start_line" 0 Document.nat?
    endLine := ← fields.withDefault "end_line" 0 Document.nat? }

def toDocument (m : MethodDecl) : Document := .record [
  ("name", .text m.name),
  ("visibility", m.visibility.toDocument),
  ("is_static", .bool m.isStatic),
  ("decorators", .list (m.decorators.map Decorator.toDocument)),
  ("start_line", .ofNat m.startLine),
  ("end_line", .ofNat m.endLine)]

end MethodDecl

namespace ClassDecl

def ofDocument? (d : Document) : Option ClassDecl := do
  let fields ← d.fields? ["name", "extends", "implements", "decorators", "methods",
    "is_exported", "line"]
  return {
    name := ← fields.withDefault "name" "" Document.text?
    base := ← fields.optional "extends" Document.text?
    interfaces := ← fields.withDefault "implements" [] Document.texts?
    decorators := ← fields.withDefault "decorators" [] (Document.list? Decorator.ofDocument?)
    methods := ← fields.withDefault "methods" [] (Document.list? MethodDecl.ofDocument?)
    isExported := ← fields.withDefault "is_exported" false Document.bool?
    line := ← fields.withDefault "line" 0 Document.nat? }

def toDocument (c : ClassDecl) : Document := .record [
  ("name", .text c.name),
  ("extends", .ofOptionText c.base),
  ("implements", .ofTexts c.interfaces),
  ("decorators", .list (c.decorators.map Decorator.toDocument)),
  ("methods", .list (c.methods.map MethodDecl.toDocument)),
  ("is_exported", .bool c.isExported),
  ("line", .ofNat c.line)]

end ClassDecl

namespace InterfaceDecl

def ofDocument? (d : Document) : Option InterfaceDecl := do
  let fields ← d.fields? ["name", "extends", "is_exported", "line"]
  return {
    name := ← fields.withDefault "name" "" Document.text?
    bases := ← fields.withDefault "extends" [] Document.texts?
    isExported := ← fields.withDefault "is_exported" false Document.bool?
    line := ← fields.withDefault "line" 0 Document.nat? }

def toDocument (i : InterfaceDecl) : Document := .record [
  ("name", .text i.name),
  ("extends", .ofTexts i.bases),
  ("is_exported", .bool i.isExported),
  ("line", .ofNat i.line)]

end InterfaceDecl

namespace FunctionDecl

def ofDocument? (d : Document) : Option FunctionDecl := do
  let fields ← d.fields? ["name", "is_exported", "is_async", "decorators", "start_line",
    "end_line"]
  return {
    name := ← fields.withDefault "name" "" Document.text?
    isExported := ← fields.withDefault "is_exported" false Document.bool?
    isAsync := ← fields.withDefault "is_async" false Document.bool?
    decorators := ← fields.withDefault "decorators" [] (Document.list? Decorator.ofDocument?)
    startLine := ← fields.withDefault "start_line" 0 Document.nat?
    endLine := ← fields.withDefault "end_line" 0 Document.nat? }

def toDocument (f : FunctionDecl) : Document := .record [
  ("name", .text f.name),
  ("is_exported", .bool f.isExported),
  ("is_async", .bool f.isAsync),
  ("decorators", .list (f.decorators.map Decorator.toDocument)),
  ("start_line", .ofNat f.startLine),
  ("end_line", .ofNat f.endLine)]

end FunctionDecl

namespace ControlFlow

def ofDocument? (d : Document) : Option ControlFlow := do
  let fields ← d.fields? ["in_try_block", "try_depth", "in_catch_block", "in_finally_block"]
  return {
    inTryBlock := ← fields.withDefault "in_try_block" false Document.bool?
    tryDepth := ← fields.withDefault "try_depth" 0 (Document.unsigned? 32)
    inCatchBlock := ← fields.withDefault "in_catch_block" false Document.bool?
    inFinallyBlock := ← fields.withDefault "in_finally_block" false Document.bool? }

def toDocument (f : ControlFlow) : Document := .record [
  ("in_try_block", .bool f.inTryBlock),
  ("try_depth", .ofNat f.tryDepth),
  ("in_catch_block", .bool f.inCatchBlock),
  ("in_finally_block", .bool f.inFinallyBlock)]

end ControlFlow

namespace CallSite

def ofDocument? (d : Document) : Option CallSite := do
  let fields ← d.fields? ["callee", "method_name", "receiver", "argument_count", "line",
    "column", "parent_function", "control_flow"]
  return {
    callee := ← fields.withDefault "callee" "" Document.text?
    methodName := ← fields.withDefault "method_name" "" Document.text?
    receiver := ← fields.optional "receiver" Document.text?
    argumentCount := ← fields.withDefault "argument_count" 0 Document.nat?
    line := ← fields.withDefault "line" 0 Document.nat?
    column := ← fields.withDefault "column" 0 Document.nat?
    parentFunction := ← fields.optional "parent_function" Document.text?
    controlFlow := ← fields.withDefault "control_flow" {} ControlFlow.ofDocument? }

def toDocument (c : CallSite) : Document := .record [
  ("callee", .text c.callee),
  ("method_name", .text c.methodName),
  ("receiver", .ofOptionText c.receiver),
  ("argument_count", .ofNat c.argumentCount),
  ("line", .ofNat c.line),
  ("column", .ofNat c.column),
  ("parent_function", .ofOptionText c.parentFunction),
  ("control_flow", c.controlFlow.toDocument)]

end CallSite

namespace Mutation

def ofDocument? (d : Document) : Option Mutation := do
  let fields ← d.fields? ["target", "root_object", "property_path", "operator",
    "is_declaration", "line", "column"]
  return {
    target := ← fields.withDefault "target" "" Document.text?
    rootObject := ← fields.withDefault "root_object" "" Document.text?
    propertyPath := ← fields.withDefault "property_path" [] Document.texts?
    operator := ← fields.withDefault "operator" "" Document.text?
    isDeclaration := ← fields.withDefault "is_declaration" false Document.bool?
    line := ← fields.withDefault "line" 0 Document.nat?
    column := ← fields.withDefault "column" 0 Document.nat? }

def toDocument (m : Mutation) : Document := .record [
  ("target", .text m.target),
  ("root_object", .text m.rootObject),
  ("property_path", .ofTexts m.propertyPath),
  ("operator", .text m.operator),
  ("is_declaration", .bool m.isDeclaration),
  ("line", .ofNat m.line),
  ("column", .ofNat m.column)]

end Mutation

namespace ExportDecl

def ofDocument? (d : Document) : Option ExportDecl := do
  let fields ← d.fields? ["name", "kind", "is_default", "line"]
  return {
    name := ← fields.withDefault "name" "" Document.text?
    kind := ← fields.withDefault "kind" "" Document.text?
    isDefault := ← fields.withDefault "is_default" false Document.bool?
    line := ← fields.withDefault "line" 0 Document.nat? }

def toDocument (e : ExportDecl) : Document := .record [
  ("name", .text e.name),
  ("kind", .text e.kind),
  ("is_default", .bool e.isDefault),
  ("line", .ofNat e.line)]

end ExportDecl

namespace SourceModel

def ofDocument? (d : Document) : Option SourceModel := do
  let fields ← d.fields? ["file_path", "language", "line_count", "loc_count", "imports",
    "classes", "interfaces", "functions", "function_calls", "mutations", "exports"]
  return {
    filePath := ← fields.withDefault "file_path" "" Document.text?
    language := ← fields.withDefault "language" "" Document.text?
    lineCount := ← fields.withDefault "line_count" 0 Document.nat?
    locCount := ← fields.withDefault "loc_count" 0 Document.nat?
    imports := ← fields.withDefault "imports" [] (Document.list? ImportDecl.ofDocument?)
    classes := ← fields.withDefault "classes" [] (Document.list? ClassDecl.ofDocument?)
    interfaces := ← fields.withDefault "interfaces" [] (Document.list? InterfaceDecl.ofDocument?)
    functions := ← fields.withDefault "functions" [] (Document.list? FunctionDecl.ofDocument?)
    calls := ← fields.withDefault "function_calls" [] (Document.list? CallSite.ofDocument?)
    mutations := ← fields.withDefault "mutations" [] (Document.list? Mutation.ofDocument?)
    exports := ← fields.withDefault "exports" [] (Document.list? ExportDecl.ofDocument?) }

def toDocument (m : SourceModel) : Document := .record [
  ("file_path", .text m.filePath),
  ("language", .text m.language),
  ("line_count", .ofNat m.lineCount),
  ("loc_count", .ofNat m.locCount),
  ("imports", .list (m.imports.map ImportDecl.toDocument)),
  ("classes", .list (m.classes.map ClassDecl.toDocument)),
  ("interfaces", .list (m.interfaces.map InterfaceDecl.toDocument)),
  ("functions", .list (m.functions.map FunctionDecl.toDocument)),
  ("function_calls", .list (m.calls.map CallSite.toDocument)),
  ("mutations", .list (m.mutations.map Mutation.toDocument)),
  ("exports", .list (m.exports.map ExportDecl.toDocument))]

end SourceModel

end Conformance
