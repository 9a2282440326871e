import Conformance.Dict

/-! A tree of plain data, the common ground of the file formats. A record keeps its fields in
the order and the number they were written, so a reader can tell a repeated field. A part that
is well formed but has no value is kept as such: whether it spoils the whole depends on who looks
at it. -/
namespace Conformance

/-- The formats that documents are written in. They differ in what a record may be read from. -/
inductive Format where
  | json
  | toml
  deriving DecidableEq, Repr

inductive Document where
  | null
  | bool (value : Bool)
  | int (value : Int)
  /-- A number with a fraction or an exponent, or one too large for an integer:
  `significand * 10 ^ exponent`. -/
  | decimal (significand exponent : Int)
  | text (value : String)
  | list (items : List Document)
  | record (fields : List (String × Document))
  /-- A well-formed value that nothing stands for, such as a number out of range. -/
  | unreadable
  deriving Inhabited, Repr

namespace Document

/-- Smallest and greatest signed 64-bit integers bound what a signed field may hold. -/
def int64? : Document → Option Int
  | int n => if -(Nat.pow 2 63) ≤ n ∧ n < Nat.pow 2 63 then some n else none
  | _ => none

/-- An unsigned integer of a given number of bits. -/
def unsigned? (bits : Nat) : Document → Option Nat
  | int n => if 0 ≤ n ∧ n < Nat.pow 2 bits then some n.toNat else none
  | _ => none

def nat? : Document → Option Nat := unsigned? 64

def bool? : Document → Option Bool
  | bool b => some b
  | _ => none

def text? : Document → Option String
  | text s => some s
  | _ => none

def list? {α : Type} (item : Document → Option α) : Document → Option (List α)
  | list items => items.mapM item
  | _ => none

def texts? : Document → Option (List String) := list? text?

/-- A value that may be absent: null reads as none. -/
def nullable? {α : Type} (value : Document → Option α) : Document → Option (Option α)
  | null => some none
  | d => (value d).map some

/-- A map from names to values; of two entries with one name the last stays. -/
def dict? {α : Type} (value : Document → Option α) : Document → Option (Dict α)
  | record fields =>
    (fields.mapM fun (entry : String × Document) =>
      (value entry.2).map fun v => (entry.1, v)).map Dict.ofList
  | _ => none

/-- The raw field of a record, the last one of that name. -/
def field? (d : Document) (name : String) : Option Document :=
  match d with
  | record fields => (fields.reverse.find? (·.1 == name)).map (·.2)
  | _ => none

end Document

/-- The fields of one record, addressed by name, each name at most once. -/
structure Fields where
  entries : List (String × Document)
  /-- The values stand in a list, in the order of the fields. -/
  inOrder : Bool

namespace Document

mutual

/-- Whether every part has a value. -/
def isReadable : Document → Bool
  | list items => areReadable items
  | record fields => haveReadable fields
  | unreadable => false
  | _ => true

def areReadable : List Document → Bool
  | [] => true
  | d :: rest => d.isReadable && areReadable rest

def haveReadable : List (String × Document) → Bool
  | [] => true
  | (_, d) :: rest => d.isReadable && haveReadable rest

end

mutual

/-- Whether a document can be kept aside and read again: every part has a value, and its integers
have at most 64 bits. -/
def isHoldable : Document → Bool
  | int n => -(Nat.pow 2 63) ≤ n && n < Nat.pow 2 64
  | list items => areHoldable items
  | record fields => haveHoldable fields
  | unreadable => false
  | _ => true

def areHoldable : List Document → Bool
  | [] => true
  | d :: rest => d.isHoldable && areHoldable rest

def haveHoldable : List (String × Document) → Bool
  | [] => true
  | (_, d) :: rest => d.isHoldable && haveHoldable rest

end

/-- Read a record with the given field names. Unknown fields are passed over, in TOML only if
they are readable; a known field that is given twice is refused. A list stands for the fields in
order, in TOML also one with more items than there are fields. -/
def fieldsIn? (format : Format) (names : List String) : Document → Option Fields
  | record fields =>
    let (known, unknown) := fields.partition fun entry => names.contains entry.1
    let passed := format = .json || haveReadable unknown
    if passed = true ∧ known.length = (sortedDistinct (known.map (·.1))).length then
      some { entries := known, inOrder := false }
    else none
  | list items =>
    if format = .json ∧ names.length < items.length then none
    else some { entries := names.zip items, inOrder := true }
  | _ => none

def fields? (names : List String) : Document → Option Fields := fieldsIn? .json names

end Document

namespace Fields
variable {α : Type}

def raw? (fields : Fields) (name : String) : Option Document :=
  (fields.entries.find? (·.1 == name)).map (·.2)

def required (fields : Fields) (name : String) (value : Document → Option α) : Option α :=
  (fields.raw? name).bind value

/-- A field with a value of its own when it is left out. -/
def withDefault (fields : Fields) (name : String) (absent : α) (value : Document → Option α) :
    Option α :=
  match fields.raw? name with
  | none => some absent
  | some d => value d

/-- A field that may be left out or null. -/
def optional (fields : Fields) (name : String) (value : Document → Option α) :
    Option (Option α) :=
  fields.withDefault name none (Document.nullable? value)

/-- A field that may be null; a record may leave it out, a list may not. -/
def nullable (fields : Fields) (name : String) (value : Document → Option α) :
    Option (Option α) :=
  match fields.raw? name with
  | none => if fields.inOrder then none else some none
  | some d => Document.nullable? value d

end Fields

namespace Document

def ofTexts (texts : List String) : Document := list (texts.map text)

def ofNat (n : Nat) : Document := int n

def ofOption {α : Type} (value : α → Document) : Option α → Document
  | none => null
  | some a => value a

def ofOptionText : Option String → Document := ofOption text

def ofDict {α : Type} (value : α → Document) (d : Dict α) : Document :=
  record (d.entries.map fun (k, v) => (k, value v))

end Document

end Conformance
