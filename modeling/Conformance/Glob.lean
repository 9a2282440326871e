import Conformance.Text.Basic

/-! Wildcard patterns over texts with a separator: `*` stays inside one segment, `**` crosses
segments, `?` is one character of a segment. -/
namespace Conformance.Glob

/-- Every suffix of a text, the text itself first and the empty one last. -/
def suffixes : List Char → List (List Char)
  | [] => [[]]
  | c :: cs => (c :: cs) :: suffixes cs

/-- The suffixes left after dropping characters that are no separator. -/
def segmentSuffixes (sep : Char) : List Char → List (List Char)
  | [] => [[]]
  | c :: cs => (c :: cs) :: if c = sep then [] else segmentSuffixes sep cs

/-- Whether a pattern matches a whole text. Two stars are read before one, and two stars with
the separator after them may together match nothing. -/
def matchChars (sep : Char) : List Char → List Char → Bool
  | [], text => text.isEmpty
  | '*' :: '*' :: [], _ => true
  | '*' :: '*' :: c :: rest, text =>
    (c == sep && matchChars sep rest text) ||
      (suffixes text).any fun t => matchChars sep (c :: rest) t
  | '*' :: rest, text => (segmentSuffixes sep text).any fun t => matchChars sep rest t
  | '?' :: rest, text =>
    match text with
    | [] => false
    | t :: ts => t != sep && matchChars sep rest ts
  | c :: rest, text =>
    match text with
    | [] => false
    | t :: ts => t == c && matchChars sep rest ts

/-- Path patterns, with segments between slashes. -/
def matchPath (pattern path : String) : Bool := matchChars '/' pattern.toList path.toList

/-- Call patterns, with segments between dots. -/
def matchCall (pattern name : String) : Bool := matchChars '.' pattern.toList name.toList

/-- Names match a pattern with a wildcard as a call, and any other pattern by equality. -/
def matchName (pattern name : String) : Bool :=
  if pattern.toList.contains '*' || pattern.toList.contains '?' then matchCall pattern name
  else pattern == name

end Conformance.Glob
