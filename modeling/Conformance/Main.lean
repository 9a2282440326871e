import Conformance.CommandLine.Clock
import Conformance.CommandLine.Run
import Std.Time.DateTime.Timestamp

/-! The program: files are read into a tree, the command is carried out on it, and what it
changed is written back. -/
namespace Conformance.Program

/-- Add what lies in a folder of the disk. Links to folders are not followed, and what cannot be
read is left out. -/
partial def readFolder (t : FileTree) (path : String) : IO FileTree := do
  let folder ← IO.FS.realPath path
  if folder.toString ≠ path then return t
  let mut tree := t
  for entry in ← folder.readDir do
    let inner := FileTree.join path entry.fileName
    if ← entry.path.isDir then
      if let .ok extended := tree.createFolders inner then
        tree ← readFolder extended inner
    else
      try
        let bytes ← IO.FS.readBinFile entry.path
        if let .ok extended := tree.write inner bytes then tree := extended
      catch _ => pure ()
  return tree

/-- The tree at a folder of the disk; empty when there is none. -/
def readTree (path : String) : IO FileTree := do
  try
    let folder := (← IO.FS.realPath path).toString
    match ({} : FileTree).createFolders folder with
    | .ok t => readFolder t folder
    | .error _ => return {}
  catch _ => return {}

/-- Write one entry. A file is written beside its place and then moved there. -/
def writeEntry (path : String) : FileEntry → IO Unit
  | .folder => IO.FS.createDirAll path
  | .file bytes => do
    let draft := ResultCache.draftPath path
    IO.FS.writeBinFile draft bytes
    IO.FS.rename draft path

/-- Bring the disk from one tree to another. -/
def writeChanges (before after : FileTree) : IO Unit := do
  for (key, entry) in after.entries.entries do
    unless before.entries.find? key = some entry do
      writeEntry ("/" ++ key) entry
  for (key, _) in before.entries.entries do
    unless after.entries.contains key do
      IO.FS.removeFile ("/" ++ key)

/-- Colours are forced or refused by the environment, and else go to terminals. -/
def wantsColour : IO Bool := do
  let forced ← IO.getEnv "CLICOLOR_FORCE"
  if forced.isSome && forced ≠ some "0" then return true
  if (← IO.getEnv "NO_COLOR").isSome then return false
  (← IO.getStdout).isTty

def surroundings : IO CommandLine.Surroundings := do
  let seconds := (← Std.Time.Timestamp.now).toSecondsSinceUnixEpoch.toInt
  let chance ← IO.rand 0 (Nat.pow 2 80 - 1)
  return {
    folder := (← IO.currentDir).toString
    now := Clock.text seconds
    today := Clock.today seconds
    runId := Clock.runId (seconds.toNat * 1000) chance
    coloured := ← wantsColour }

end Conformance.Program

open Conformance in
/-- Run a command in the current folder. -/
def main (args : List String) : IO UInt32 := do
  let started ← IO.monoMsNow
  let s ← Program.surroundings
  let root := match CommandLine.request args with
    | .run i => FileTree.join s.folder (i.root.getD "")
    | _ => s.folder
  let before ← match CommandLine.request args with
    | .run _ => Program.readTree root
    | _ => pure {}
  let (outcome, after) := CommandLine.run s before args
  try Program.writeChanges before after catch _ => pure ()
  IO.print (outcome.stdout ((← IO.monoMsNow) - started))
  IO.eprint outcome.stderr
  return UInt32.ofNat outcome.exit
