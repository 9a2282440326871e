import Conformance.Project.Path

/-! A file system of plain files and folders. An entry is found under its segments from the root,
joined by slashes; the root itself is a folder without an entry. Paths given to the operations
are absolute and may hold empty, `.` and `..` segments, which are followed through the folders
that exist. -/
namespace Conformance

inductive FileEntry where
  | file (bytes : ByteArray)
  | folder

instance : DecidableEq FileEntry
  | .file a, .file b => decidable_of_iff (a.data = b.data) (by simp [ByteArray.ext_iff])
  | .folder, .folder => isTrue rfl
  | .file _, .folder => isFalse nofun
  | .folder, .file _ => isFalse nofun

structure FileTree where
  entries : Dict FileEntry := {}

/-- Why the file system refuses. -/
inductive FileError where
  | missing
  | busy
  | present
  | notFolder
  | isFolder
  | nameTooLong
  | nulInName
  | notText
  deriving DecidableEq, Repr

def FileError.message : FileError → String
  | missing => "No such file or directory (os error 2)"
  | busy => "Device or resource busy (os error 16)"
  | present => "File exists (os error 17)"
  | notFolder => "Not a directory (os error 20)"
  | isFolder => "Is a directory (os error 21)"
  | nameTooLong => "File name too long (os error 36)"
  | nulInName => "file name contained an unexpected NUL byte"
  | notText => "stream did not contain valid UTF-8"

namespace FileTree

/-- A path below a root; an absolute path stands for itself. -/
def join (root path : String) : String :=
  if Text.startsWith path "/" then path
  else if root.isEmpty || Text.endsWith root "/" then root ++ path
  else root ++ "/" ++ path

/-- The segments that name something. -/
def components (path : String) : List String :=
  (Path.segments path).filter fun segment => segment ≠ "" ∧ segment ≠ "."

/-- The folder that holds a path. -/
def parent (path : String) : String := "/" ++ Text.join "/" (components path).dropLast

/-- The path with another extension; a path without a file name stays as it is. -/
def withExtension (ext path : String) : String :=
  match (components path).getLast? with
  | none | some ".." => path
  | some name => join (parent path) ((Path.splitName name).1 ++ "." ++ ext)

/-- Longest name of one entry, in bytes. -/
def maxName : Nat := 255

/-- Longest path, in bytes. -/
def maxPath : Nat := 4095

/-- The key of an entry, from its segments, the innermost first. -/
def key (stack : List String) : String := Text.join "/" stack.reverse

/-- Where a path leads: a folder, the innermost segment first, and the name in it that the path
ends with, if it ends with one. -/
structure Location where
  folder : List String
  name? : Option String
  /-- A slash follows the name. -/
  slash : Bool := false

/-- Follow segments from a folder. All but the last name have to be folders. -/
def follow (t : FileTree) (stack : List String) : List String → Except FileError Location
  | [] => .ok { folder := stack, name? := none }
  | segment :: rest =>
    if segment = "" ∨ segment = "." then t.follow stack rest
    else if segment = ".." then t.follow stack.tail rest
    else if segment.utf8ByteSize > maxName then .error .nameTooLong
    else if rest.all (· = "") then
      .ok { folder := stack, name? := some segment, slash := !rest.isEmpty }
    else
      match t.entries.find? (key (segment :: stack)) with
      | some .folder => t.follow (segment :: stack) rest
      | some (.file _) => .error .notFolder
      | none => .error .missing

def locate (t : FileTree) (path : String) : Except FileError Location :=
  if Text.contains path "\x00" then .error .nulInName
  else if path.utf8ByteSize > maxPath then .error .nameTooLong
  else t.follow [] (Path.segments path)

/-- What stands at a location. -/
def entryAt? (t : FileTree) (l : Location) : Option FileEntry :=
  match l.name? with
  | none => some .folder
  | some name => t.entries.find? (key (name :: l.folder))

def entry (t : FileTree) (path : String) : Except FileError FileEntry := do
  let l ← t.locate path
  match t.entryAt? l with
  | none => .error .missing
  | some (.file bytes) => if l.slash then .error .notFolder else .ok (.file bytes)
  | some .folder => .ok .folder

/-- The path of an entry without empty and dot segments. -/
def canonical (t : FileTree) (path : String) : Except FileError String := do
  let l ← t.locate path
  let _ ← t.entry path
  return "/" ++ key (l.name?.toList ++ l.folder)

def isPresent (t : FileTree) (path : String) : Bool := (t.entry path).isOk

def isFile (t : FileTree) (path : String) : Bool :=
  match t.entry path with
  | .ok (.file _) => true
  | _ => false

def isFolder (t : FileTree) (path : String) : Bool :=
  match t.entry path with
  | .ok .folder => true
  | _ => false

def readBytes (t : FileTree) (path : String) : Except FileError ByteArray := do
  match ← t.entry path with
  | .file bytes => .ok bytes
  | .folder => .error .isFolder

def readText (t : FileTree) (path : String) : Except FileError String := do
  match String.fromUTF8? (← t.readBytes path) with
  | some text => .ok text
  | none => .error .notText

/-- Write a file, over a file that is there. -/
def write (t : FileTree) (path : String) (bytes : ByteArray) : Except FileError FileTree := do
  let l ← t.locate path
  match l.name?, t.entryAt? l with
  | none, _ | some _, some .folder => .error .isFolder
  | some name, _ =>
    if l.slash then .error .isFolder
    else .ok { t with entries := t.entries.insert (key (name :: l.folder)) (.file bytes) }

/-- Create the folders on a way that are not there. -/
def extend (t : FileTree) (stack : List String) : List String → Except FileError FileTree
  | [] => .ok t
  | segment :: rest =>
    if segment = ".." then t.extend stack.tail rest
    else if segment.utf8ByteSize > maxName then .error .nameTooLong
    else
      match t.entries.find? (key (segment :: stack)) with
      | some .folder => t.extend (segment :: stack) rest
      | some (.file _) => .error (if rest.isEmpty then .present else .notFolder)
      | none =>
        ({ t with entries := t.entries.insert (key (segment :: stack)) .folder } : FileTree).extend
          (segment :: stack) rest

/-- Create a folder and those that hold it. -/
def createFolders (t : FileTree) (path : String) : Except FileError FileTree :=
  if Text.contains path "\x00" then .error .nulInName
  else if path.utf8ByteSize > maxPath then .error .nameTooLong
  else t.extend [] (components path)

/-- Remove a file. -/
def remove (t : FileTree) (path : String) : Except FileError FileTree := do
  let l ← t.locate path
  match l.name?, t.entryAt? l with
  | none, _ | some _, some .folder => .error .isFolder
  | some _, none => .error .missing
  | some name, some (.file _) =>
    if l.slash then .error .notFolder
    else .ok { t with entries := t.entries.erase (key (name :: l.folder)) }

/-- Give a file another path, over a file that is there. -/
def rename (t : FileTree) (source target : String) : Except FileError FileTree := do
  let bytes ← t.readBytes source
  let l ← t.locate target
  match l.name?, t.entryAt? l with
  | none, _ => .error .busy
  | some _, some .folder => .error (if l.slash then .notFolder else .isFolder)
  | some name, _ =>
    if l.slash then .error .notFolder
    else
      let removed ← t.remove source
      .ok { removed with
        entries := removed.entries.insert (key (name :: l.folder)) (.file bytes) }

/-- The entries below a folder, by the path from it. -/
def below (t : FileTree) (folder : String) : List (String × FileEntry) :=
  let head := Text.join "/" (components folder) ++ "/"
  let head := if head = "/" then "" else head
  t.entries.entries.filterMap fun (path, entry) =>
    (Text.strip? head path).map fun rest => (rest, entry)

/-- The names in a folder. -/
def names (t : FileTree) (folder : String) : List String :=
  ((t.below folder).map (·.1)).filter fun path => !Text.contains path "/"

end FileTree

end Conformance
