import Std.Time.DateTime.Timestamp
import TemplateTree.CommandLine.Help
import TemplateTree.CommandLine.Run
import TemplateTree.Files.Changes

/-!
# The program

Reads the files below the current directory and beside the settings document,
does the job that the arguments ask for on them, prints what the job printed and
writes the changed files back.
-/

namespace TemplateTree

def readingDepth : Nat := 128

def readBelow : Nat → String → IO Node
  | 0, _ => return .dir []
  | depth + 1, path => do
    let mut entries : List (Text × Node) := []
    for entry in ← (← IO.FS.realPath path).readDir do
      let about ← entry.path.symlinkMetadata
      let node : Option Node ← match about.type with
        | .dir => some <$> readBelow depth entry.path.toString
        | .symlink => do
          try
            pure (some (.link (← IO.FS.realPath entry.path).toString.toList))
          catch _ => pure none
        | .file => do
          try
            let bytes ← IO.FS.readBinFile entry.path
            let time : Instant :=
              about.modified.sec * Instant.second + about.modified.nsec.toNat
            pure (some (.file bytes.toList FileTree.defaultMode time))
          catch _ => pure none
        | .other => pure none
      if let some n := node then
        entries := Node.putEntry entry.fileName.toList n entries
    return .dir entries

def readTree (a : Arguments) : IO FileTree := do
  let current ← IO.currentDir
  let beside ← match a.settings.bind Path.parent? with
    | some dir =>
      if dir = [] then pure []
      else
        try
          pure [(← IO.FS.realPath (String.ofList dir)).toString]
        catch _ => pure []
    | none => pure []
  let start : FileTree := ⟨.dir [], FileTree.wayOf current.toString.toList⟩
  (beside ++ [current.toString]).foldlM (fun t dir => do
    let n ← readBelow readingDepth dir
    let place := FileTree.wayOf dir.toList
    return match t.makeAllDirs dir.toList with
      | .ok t' => t'.putAt place n
      | .error _ => t) start

def applyChange (place : Place) (node : Option Node) : IO Unit := do
  let path := String.ofList (FileTree.placeText place)
  match node with
  | some (.dir _) => IO.FS.createDirAll path
  | some (.file bytes mode _) =>
    IO.FS.writeBinFile path ⟨bytes.toArray⟩
    if mode &&& FileTree.ownerExecute ≠ 0 then
      IO.setAccessRights path ⟨⟨true, true, true⟩, ⟨true, false, false⟩, ⟨true, false, false⟩⟩
  | some (.link target) =>
    throw (IO.userError ("cannot link " ++ path ++ " to " ++ String.ofList target))
  | none =>
    let real ← IO.FS.realPath path
    if ← real.isDir then IO.FS.removeDir real else IO.FS.removeFile path

/-- Bring the disk up to date, clearing inner places before outer ones. -/
def applyChanges (before after : FileTree) : IO Unit := do
  let changes := Node.changes before.root after.root
  for (place, node) in (changes.filter (·.2.isNone)).reverse do
    applyChange place node
  for (place, node) in changes.filter (·.2.isSome) do
    applyChange place node

def printTo (stream : IO.FS.Stream) (t : Text) : IO Unit := do
  stream.putStr (String.ofList t)
  stream.flush

def renderFor (a : Arguments) : IO UInt32 := do
  let out ← IO.getStdout
  let err ← IO.getStderr
  let color ← err.isTty
  let files ← readTree a
  let clock ← Std.Time.Timestamp.now
  let now : Instant := clock.toNanosecondsSinceUnixEpoch.val
  let session : Session := ⟨files, now, .empty, .new ⟨color⟩ a.verbosity now⟩
  let (failure?, done) := match (a.run ⟨color⟩).run session with
    | .ok _ s => (none, s)
    | .error f s => (some f, s)
  applyChanges files done.files
  printTo out done.console.out
  printTo err done.console.err
  match failure? with
  | none => return 0
  | some f =>
    printTo err f.report
    return 1

end TemplateTree

open TemplateTree in
/-- Run the program; arguments that are not accepted end it with status 2. -/
def main (args : List String) : IO UInt32 := do
  match Arguments.parse (args.map String.toList) with
  | .error e =>
    if e.isRequest then
      printTo (← IO.getStdout) e.message
      return 0
    else
      printTo (← IO.getStderr) ("error: " ++ e.message ++ "\n\n" ++ usageText)
      return 2
  | .ok a =>
    match a.completions with
    | some shell =>
      printTo (← IO.getStdout) shell.script
      return 0
    | none => renderFor a
