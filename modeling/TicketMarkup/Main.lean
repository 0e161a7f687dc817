import TicketMarkup.CommandLine

/-!
# The program

The outer layer of the command: the files that its arguments name are read from the disk, the
command is run on them, its notices are printed, and the files that it changed are written back.
-/

namespace TicketMarkup.Disk

/-- The text of an address on the disk. -/
def textOf (a : Address) : String := "/" ++ String.intercalate "/" a

/-- Reads what lies at an address, and all that lies below it if that is asked for. -/
partial def load (files : FileTree) (a : Address) (deep : Bool) : IO FileTree := do
  let place := (← IO.currentDir) / textOf a
  if ← place.isDir then
    let mut files := files.insert a .folder
    if deep then
      for entry in ← place.readDir do
        files ← load files (a ++ [entry.fileName]) true
    return files
  else if ← place.pathExists then
    return files.insert a (.file (← IO.FS.readBinFile place).data.toList)
  else
    return files

/-- Reads what lies on the way along a path, and all that lies where it leads to. -/
def loadPath (files : FileTree) (p : FilePath) : IO FileTree := do
  let mut files := files
  let mut here := files.startAddress p.start
  for length in [0 : here.length + 1] do
    files ← load files (here.take length) false
  for name in p.parts do
    here := FileTree.step here name
    files ← load files here false
  load files here true

/-- Writes the files back that differ. -/
def store (before after : FileTree) : IO Unit := do
  for (a, octets) in before.changes after do
    IO.FS.writeBinFile (textOf a) ⟨octets.toArray⟩

/-- The settings in the environment. -/
def environment : IO Assignments := do
  let names : List SettingName := [.base, .profiles, .format, .limit]
  names.filterMapM fun name => do
    return (← IO.getEnv name.text).map fun value => (name.text, some value)

/-- The paths that arguments name. -/
def pathsOf (args : List String) : List FilePath :=
  match CommandLine.parse args with
  | .error _ => []
  | .ok a =>
    Settings.defaultFile ::
      (a.positionals ++ (a.value? .output).toList).map FilePath.ofText

end TicketMarkup.Disk

open TicketMarkup in
/-- Runs the command. -/
def main (args : List String) : IO UInt32 := do
  let working := (FilePath.ofText (← IO.currentDir).toString).parts
  if h : ∀ s ∈ working, IsEntryName s then
    let before ← (Disk.pathsOf args).foldlM Disk.loadPath (FileTree.empty working h)
    let run := CommandLine.run .terminal (← Disk.environment) before args
    IO.print (Console.display run.notices)
    match run.ending with
    | .status _ => pure ()
    | .usage _ => IO.eprintln Notice.usage.text
    | .settings fault => IO.eprintln fault.message
    | .batch fault => IO.eprintln fault.message
    Disk.store before run.files
    return run.ending.code.toUInt32
  else
    IO.eprintln "The working folder has no path."
    return 1
