import Conformance.Tag.Basic

/-! The tag scanner: a line-by-line state machine over comments. An override collects the field
lines that follow it directly. -/
namespace Conformance.TagScan

inductive LineKind where
  | blank
  | code
  | comment (text : List Char)
  deriving DecidableEq, Repr

/-- The text of a comment and whether a block comment is open after a line. -/
def classify (inBlock : Bool) (line : List Char) : LineKind × Bool :=
  let s := Chars.trim line
  if inBlock then
    match Chars.cut? ['*', '/'] s with
    | some (body, _) => (.comment (Chars.trim (Chars.dropLeading '*' body)), false)
    | none => (.comment (Chars.trim (Chars.dropLeading '*' s)), true)
  else if s.isEmpty then (.blank, false)
  else
    match Chars.strip? ['/', '/'] s with
    | some rest => (.comment (Chars.trim (Chars.dropLeading '/' rest)), false)
    | none =>
      match Chars.strip? ['/', '*'] s with
      | some rest =>
        let rest := Chars.dropLeading '*' rest
        match Chars.cut? ['*', '/'] rest with
        | some (body, _) => (.comment (Chars.trim body), false)
        | none => (.comment (Chars.trim rest), true)
      | none =>
        if Chars.startsWith s ['#'] && !Chars.startsWith s ['#', '['] then
          (.comment (Chars.trim (Chars.dropLeading '#' s)), false)
        else
          match Chars.strip? ['-', '-'] s with
          | some rest => (.comment (Chars.trim rest), false)
          | none => (.code, false)

/-- A tag word after an at sign, and the trimmed rest. -/
def splitTag? (text : List Char) : Option (List Char × List Char) :=
  match Chars.trimStart text with
  | '@' :: body =>
    let (tag, rest) := Chars.spanToken body
    if tag.isEmpty then none else some (tag, Chars.trim rest)
  | _ => none

/-- The first word and what follows it. -/
def firstToken (text : List Char) : List Char × List Char :=
  let (token, rest) := Chars.spanToken (Chars.trimStart text)
  (token, Chars.trimStart rest)

inductive State where
  | outside
  | header
  | inOverride
  deriving DecidableEq, Repr, Inhabited

structure Scanner where
  state : State := .outside
  seenCode : Bool := false
  inBlock : Bool := false
  pending : Option OverrideTag := none
  tags : SourceTags := {}
  deriving Inhabited, Repr

namespace Scanner

def addError (s : Scanner) (line : Nat) (problem : TagProblem) : Scanner :=
  { s with tags := { s.tags with errors := s.tags.errors ++ [{ problem, line }] } }

/-- Where the scanner rests between overrides. -/
def restingState (s : Scanner) : State := if s.seenCode then .outside else .header

/-- Close the override that is being collected. -/
def finishOverride (s : Scanner) : Scanner :=
  let overrides := s.tags.overrides ++ s.pending.toList
  { s with
    pending := none
    tags := { s.tags with overrides }
    state := if s.state = .inOverride then s.restingState else s.state }

/-- The names of the fields of an override. -/
def isField (tag : String) : Bool :=
  ["reason", "expires", "ticket", "approved_by", "approved-by", "approvedBy"].contains tag

/-- Set a field of an override. -/
def setField (o : OverrideTag) (field value : String) : OverrideTag :=
  match field with
  | "reason" => { o with reason := some value }
  | "expires" => { o with expires := some value }
  | "ticket" => { o with ticket := some value }
  | _ => { o with approvedBy := some value }

/-- Read a field line of the override being collected; nothing when it is no field line. -/
def field? (s : Scanner) (line : Nat) (text : List Char) : Option Scanner :=
  match splitTag? text, s.pending with
  | some (tag, rest), some pending =>
    let tag := String.ofList tag
    if isField tag then
      if rest.isEmpty then some (s.addError line (.emptyField tag))
      else some { s with pending := some (setField pending tag (String.ofList rest)) }
    else none
  | _, _ => none

/-- An architecture tag; only the first of a file counts. -/
def archTag (s : Scanner) (line : Nat) (rest : List Char) : Scanner × List Char :=
  let (id, tail) := firstToken rest
  if id.isEmpty then (s.addError line .archWithoutId, tail)
  else
    let id := String.ofList id
    match s.tags.arch with
    | some first => (s.addError line (.duplicateArch id first), tail)
    | none => ({ s with tags := { s.tags with arch := some { id, line } } }, tail)

/-- Note an intent; before any code it speaks about the file. -/
def addIntent (s : Scanner) (line : Nat) (name : List Char) : Scanner :=
  if name.isEmpty then s
  else
    let scope := if s.seenCode then .function none else .file
    { s with tags := { s.tags with
        intents := s.tags.intents ++ [{ name := String.ofList name, line, scope }] } }

/-- Rule and value around the first colon, both non-empty. -/
def ruleValue? (rest : List Char) : Option (List Char × List Char) :=
  match Chars.cut? [':'] rest with
  | some (rule, value) =>
    let rule := Chars.trim rule
    let value := Chars.trim value
    if rule.isEmpty || value.isEmpty then none else some (rule, value)
  | none => none

/-- Open an override. -/
def overrideTag (s : Scanner) (line : Nat) (rest : List Char) : Scanner :=
  let s := s.finishOverride
  match ruleValue? rest with
  | some (rule, value) =>
    { s with
      pending := some { rule := String.ofList rule, value := String.ofList value, line }
      state := .inOverride }
  | none => s.addError line (.overrideForm (String.ofList rest))

/-- Apply one tag; the second result is the text in which to look on. -/
def applyTag (s : Scanner) (line : Nat) (tag rest : List Char) : Scanner × List Char :=
  let word := String.ofList tag
  if word == "arch" then s.archTag line rest
  else if word == "override" then (s.overrideTag line rest, [])
  else if isField word then (s.addError line (.strayField word), [])
  else if word == "intent" then
    let (name, tail) := firstToken rest
    (s.addIntent line name, tail)
  else
    match Chars.strip? "intent:".toList tag with
    | some name => (s.addIntent line name, rest)
    | none => (s, rest)

/-- The text from the first at sign on. -/
def fromAt (text : List Char) : List Char := text.dropWhile (· != '@')

/-- Read the tags in a comment from left to right. Each tag shortens what is left, so the length
of the text bounds their number. -/
def comment : (fuel : Nat) → Scanner → Nat → List Char → Scanner
  | 0, s, _, _ => s
  | fuel + 1, s, line, text =>
    match splitTag? (fromAt text) with
    | some (tag, rest) =>
      let (s, rest) := s.applyTag line tag rest
      comment fuel s line rest
    | none => s

/-- Go over one line, given its number. -/
def step (s : Scanner) (line : Nat) (text : List Char) : Scanner :=
  let (kind, inBlock) := classify s.inBlock text
  let s := { s with inBlock }
  match kind with
  | .code => { s.finishOverride with seenCode := true, state := .outside }
  | .blank => if s.state = .inOverride then s.finishOverride else s
  | .comment body =>
    let onward (s : Scanner) : Scanner :=
      let s := if s.state = .outside ∧ !s.seenCode then { s with state := .header } else s
      comment (body.length + 1) s line body
    if s.state = .inOverride then
      match s.field? line body with
      | some s => s
      | none => onward s.finishOverride
    else onward s

end Scanner

/-- The scanner after numbered lines. -/
def run (s : Scanner) (lines : List (List Char × Nat)) : Scanner :=
  lines.foldl (fun s numbered => s.step (numbered.2 + 1) numbered.1) s

/-- All tags of a text. -/
def extract (content : String) : SourceTags :=
  (run {} (Chars.lines content.toList).zipIdx).finishOverride.tags

end Conformance.TagScan
