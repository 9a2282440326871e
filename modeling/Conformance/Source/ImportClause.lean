import Conformance.Source.Model

/-! The clause between `import` and `from`: a default binding, a namespace binding and named
bindings in braces. -/
namespace Conformance.ImportClause

/-- The text before the braces and the text inside them: from the first opening brace to the
last closing brace, or to the end without one. -/
def split (clause : List Char) : List Char × Option (List Char) :=
  match Chars.cut? ['\x7b'] clause with
  | none => (clause, none)
  | some (head, rest) =>
    match Chars.cutLast? '\x7d' rest with
    | some (inside, _) => (head, some inside)
    | none => (head, some (if head.contains '\x7d' then [] else rest))

/-- Drop leading `type ` words. -/
def dropTypeWords : (fuel : Nat) → List Char → List Char
  | 0, s => s
  | fuel + 1, s =>
    match Chars.strip? ['t', 'y', 'p', 'e', ' '] s with
    | some rest => dropTypeWords fuel rest
    | none => s

/-- The text before the first ` as `. -/
def beforeAs (s : List Char) : List Char :=
  match Chars.cut? [' ', 'a', 's', ' '] s with
  | some (before, _) => before
  | none => s

/-- The exported name of one named binding. -/
def namedBinding (item : List Char) : List Char :=
  let s := Chars.trim item
  Chars.trim (beforeAs (dropTypeWords s.length s))

/-- Names between commas, without the empty ones. -/
def names (name : List Char → List Char) (s : List Char) : List String :=
  (((Chars.splitOn ',' s).map name).filter (· ≠ [])).map String.ofList

/-- One part before the braces: a star gives a namespace, anything else the default. -/
def addBinding (i : ImportDecl) (part : List Char) : ImportDecl :=
  match part with
  | '*' :: rest =>
    { i with namespaceImport := (Chars.strip? ['a', 's'] (Chars.trim rest)).map fun n =>
        String.ofList (Chars.trim n) }
  | _ => { i with defaultImport := some (String.ofList part) }

/-- The bindings of a clause. -/
def parse (clause : List Char) : ImportDecl :=
  let (head, inside) := split (Chars.trim clause)
  let parts := ((Chars.splitOn ',' head).map Chars.trim).filter (· ≠ [])
  let bound := parts.foldl addBinding {}
  match inside with
  | some inside => { bound with namedImports := names namedBinding inside }
  | none => bound

end Conformance.ImportClause
