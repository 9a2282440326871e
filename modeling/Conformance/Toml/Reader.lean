import Conformance.Toml.Scalar
import Conformance.Toml.Table

/-! Reading TOML text: key and value lines under table headers. Every step consumes input, so
the length of the text bounds their number; values nest to a fixed depth. -/
namespace Conformance.Toml

/-- Arrays and inline tables may nest this deep, and a key has at most as many parts. -/
def nestingLimit : Nat := 80

def skipSpace (s : List Char) : List Char := s.dropWhile isSpace

/-- What follows a comment, which runs to the end of its line; nothing for a control
character. -/
def afterComment? : List Char → Option (List Char)
  | [] => some []
  | '\n' :: rest => some ('\n' :: rest)
  | '\r' :: '\n' :: rest => some ('\r' :: '\n' :: rest)
  | c :: rest => if isPlain c then afterComment? rest else none

/-- Pass over blanks, line ends and comments. -/
def skipTrivia : (fuel : Nat) → List Char → Option (List Char)
  | 0, s => some s
  | fuel + 1, s =>
    match skipSpace s with
    | '#' :: rest => (afterComment? rest).bind (skipTrivia fuel)
    | s =>
      match newline? s with
      | some rest => skipTrivia fuel rest
      | none => some s

/-- The end of a line: blanks, perhaps a comment, then a line end or the end of the text. -/
def lineEnd? (s : List Char) : Option (List Char) :=
  let rest := match skipSpace s with
    | '#' :: rest => afterComment? rest
    | rest => some rest
  rest.bind fun rest => if rest.isEmpty then some [] else newline? rest

def isKeyChar (c : Char) : Bool := c.isAlphanum || c == '_' || c == '-'

/-- One part of a key: bare, or a quoted string of one line. -/
def keyPart? (s : List Char) : Option (String × List Char) :=
  match s with
  | '\"' :: rest => (basic? [] 0 rest).map fun (cs, rest) => (String.ofList cs, rest)
  | '\'' :: rest => (literal? [] rest).map fun (cs, rest) => (String.ofList cs, rest)
  | _ =>
    let bare := s.takeWhile isKeyChar
    if bare.isEmpty then none else some (String.ofList bare, s.drop bare.length)

/-- The parts of a key between dots, with blanks around them. -/
def keyParts? : (fuel : Nat) → List Char → Option (List String × List Char)
  | 0, _ => none
  | fuel + 1, s =>
    match keyPart? (skipSpace s) with
    | none => none
    | some (part, rest) =>
      match skipSpace rest with
      | '.' :: rest => (keyParts? fuel rest).map fun (parts, rest) => (part :: parts, rest)
      | rest => some ([part], rest)

/-- A key: its path and its last part, and what follows. -/
def key? (s : List Char) : Option (List String × String × List Char) :=
  (keyParts? (s.length + 1) s).bind fun (parts, rest) =>
    if parts.length ≤ nestingLimit then some (parts.dropLast, parts.getLastD "", rest) else none

mutual

/-- A value with `depth` levels of nesting left. -/
def value? (fuel depth : Nat) (s : List Char) : Option (Document × List Char) :=
  match fuel with
  | 0 => none
  | fuel + 1 =>
    match string? s with
    | some text => text.map fun (cs, rest) => (.text (String.ofList cs), rest)
    | none =>
      match s with
      | '[' :: rest =>
        if depth = 0 then none
        else (items? fuel (depth - 1) rest).map fun (ds, rest) => (.list ds, rest)
      | '\x7b' :: rest =>
        if depth = 0 then none
        else (pairs? fuel (depth - 1) [] rest).map fun (es, rest) =>
          (.record (entryDocuments es), rest)
      | _ =>
        let length := scalarLength s
        (unquoted? (s.take length)).map fun d => (d, s.drop length)

/-- The items of an array up to its closing bracket. -/
def items? (fuel depth : Nat) (s : List Char) : Option (List Document × List Char) :=
  match fuel with
  | 0 => none
  | fuel + 1 =>
    match skipTrivia s.length s with
    | none => none
    | some (']' :: rest) => some ([], rest)
    | some s =>
      match value? fuel depth s with
      | none => none
      | some (d, rest) =>
        match skipTrivia rest.length rest with
        | some (',' :: rest) => (items? fuel depth rest).map fun (ds, rest) => (d :: ds, rest)
        | some (']' :: rest) => some ([d], rest)
        | _ => none

/-- The pairs of an inline table up to its closing brace. -/
def pairs? (fuel depth : Nat) (entries : Entries) (s : List Char) : Option (Entries × List Char) :=
  match fuel with
  | 0 => none
  | fuel + 1 =>
    match skipTrivia s.length s with
    | none => none
    | some ('\x7d' :: rest) => some (entries, rest)
    | some s =>
      match pair? fuel depth (fun s => skipTrivia s.length s) s with
      | none => none
      | some (path, key, d, rest) =>
        match entries.addValue path key d with
        | none => none
        | some entries =>
          match skipTrivia rest.length rest with
          | some (',' :: rest) => pairs? fuel depth entries rest
          | some ('\x7d' :: rest) => some (entries, rest)
          | _ => none

/-- A key, an equals sign and a value; `gap` passes over what may stand around the sign. -/
def pair? (fuel depth : Nat) (gap : List Char → Option (List Char)) (s : List Char) :
    Option (List String × String × Document × List Char) :=
  match fuel with
  | 0 => none
  | fuel + 1 =>
    match key? s with
    | none => none
    | some (path, key, rest) =>
      match gap rest with
      | some ('=' :: rest) =>
        match gap rest with
        | none => none
        | some rest => (value? fuel depth rest).map fun (d, rest) => (path, key, d, rest)
      | _ => none

end

/-- A header after its opening bracket. -/
def header? (s : List Char) : Option (Header × List Char) :=
  let (isArray, s) := match s with
    | '[' :: rest => (true, rest)
    | _ => (false, s)
  match key? s with
  | none => none
  | some (path, key, rest) =>
    let header : Header := { path, key, isArray }
    match isArray, rest with
    | true, ']' :: ']' :: rest => some (header, rest)
    | false, ']' :: rest => some (header, rest)
    | _, _ => none

/-- Read lines until the text ends. -/
def lines? : (fuel : Nat) → Builder → List Char → Option Builder
  | 0, _, _ => none
  | fuel + 1, b, s =>
    match skipTrivia (s.length + 1) s with
    | none => none
    | some [] => some b
    | some ('[' :: rest) =>
      match header? rest with
      | none => none
      | some (h, rest) =>
        match b.start h, lineEnd? rest with
        | some b, some rest => lines? fuel b rest
        | _, _ => none
    | some s =>
      match pair? (2 * s.length + 2) nestingLimit (fun s => some (skipSpace s)) s with
      | none => none
      | some (path, key, d, rest) =>
        match b.current.addValue path key d, lineEnd? rest with
        | some current, some rest => lines? fuel { b with current } rest
        | _, _ => none

/-- Read a whole text as a record; a byte order mark in front is passed over. -/
def read? (text : String) : Option Document :=
  let s := text.toList
  let s := match s with
    | '\uFEFF' :: rest => rest
    | _ => s
  ((lines? (s.length + 2) {} s).bind Builder.finish).map fun root =>
    .record (entryDocuments root)

end Conformance.Toml
