import Conformance.Document.Basic

/-! JSON text of a document, compact or indented: non-ASCII characters stand as they are, control
characters are escaped, and what has no value is written as null. -/
namespace Conformance.Json

def hexDigit (n : Nat) : Char :=
  if n < 10 then Char.ofNat (48 + n) else Char.ofNat (87 + n)

/-- The written form of one character inside a text. -/
def escape (c : Char) : List Char :=
  match c.toNat with
  | 0x22 => ['\\', '\"']
  | 0x5C => ['\\', '\\']
  | 0x08 => ['\\', 'b']
  | 0x09 => ['\\', 't']
  | 0x0A => ['\\', 'n']
  | 0x0C => ['\\', 'f']
  | 0x0D => ['\\', 'r']
  | n =>
    if n < 0x20 then ['\\', 'u', '0', '0', hexDigit (n / 16), hexDigit (n % 16)] else [c]

def quote (s : String) : String :=
  "\"" ++ String.ofList (s.toList.flatMap escape) ++ "\""

/-- A number with an exponent, in scientific form. -/
def decimalText (significand exponent : Int) : String :=
  toString significand ++ "e" ++ toString exponent

mutual

def write : Document → String
  | .null => "null"
  | .bool true => "true"
  | .bool false => "false"
  | .int n => toString n
  | .decimal significand exponent => decimalText significand exponent
  | .text s => quote s
  | .list items => "[" ++ writeItems items ++ "]"
  | .record fields => "\x7b" ++ writeFields fields ++ "\x7d"
  | .unreadable => "null"

def writeItems : List Document → String
  | [] => ""
  | [d] => write d
  | d :: rest => write d ++ "," ++ writeItems rest

def writeFields : List (String × Document) → String
  | [] => ""
  | [(name, d)] => quote name ++ ":" ++ write d
  | (name, d) :: rest => quote name ++ ":" ++ write d ++ "," ++ writeFields rest

end

mutual

/-- The text with each item and field on a line of its own, after a margin. -/
def indented (margin : String) : Document → String
  | .list (d :: rest) =>
    "[\n" ++ indentedItems (margin ++ "  ") (d :: rest) ++ "\n" ++ margin ++ "]"
  | .record (f :: rest) =>
    "\x7b\n" ++ indentedFields (margin ++ "  ") (f :: rest) ++ "\n" ++ margin ++ "\x7d"
  | d => write d

def indentedItems (margin : String) : List Document → String
  | [] => ""
  | [d] => margin ++ indented margin d
  | d :: rest => margin ++ indented margin d ++ ",\n" ++ indentedItems margin rest

def indentedFields (margin : String) : List (String × Document) → String
  | [] => ""
  | [(name, d)] => margin ++ quote name ++ ": " ++ indented margin d
  | (name, d) :: rest =>
    margin ++ quote name ++ ": " ++ indented margin d ++ ",\n" ++ indentedFields margin rest

end

/-- Indented text: two spaces a level, empty lists and records closed at once. -/
def writeIndented (d : Document) : String := indented "" d

end Conformance.Json
