import HostBridge.CommandLine

/-!
# The executable

The outer layer: the questions of the program are put to the real file system.
-/

namespace HostBridge

/-- Whether a path leads to a directory. -/
def leadsToDirectory (path : String) : IO Bool := do
  let here ← IO.currentDir
  (here / path).isDir

/-- Makes the first directory, after those above it where one is missing. -/
def makeDirectories : List String → IO Bool
  | [] => return true
  | path :: above => do
    try IO.FS.createDir path; return true
    catch
      | .noFileOrDirectory .. =>
        if ← makeDirectories above then
          try IO.FS.createDir path; return true catch _ => leadsToDirectory path
        else return false
      | _ => leadsToDirectory path

/-- The reply of the real file system. -/
def fileReply : (op : FileOp) → IO op.Reply
  | .exists path => do
    if path = "" then return false
    let here ← IO.currentDir
    (here / path).pathExists
  | .read path => do
    try return some (← IO.FS.readFile path) catch _ => return none
  | .write path text => do
    try IO.FS.writeFile path text; return true catch _ => return false
  | .list path => do
    try
      let here ← IO.currentDir
      let entries ← (here / path).readDir
      return some (entries.toList.map (fun e => e.fileName))
    catch _ => return none
  | .makeDirs path =>
    let top := if path.startsWith "/" then "/" else ""
    makeDirectories ((Files.ways path).map (fun way => top ++ "/".intercalate way))

/-- Runs a program on the real file system. -/
def runOnFiles {α : Type} : FileProgram α → IO (Option α)
  | .done a => return some a
  | .panic _ => return none
  | .perform op next => do
    let r ← fileReply op
    runOnFiles (next r)

end HostBridge

/-- Runs the program; it fails with exit code 1. -/
def main (args : List String) : IO UInt32 := do
  match ← HostBridge.runOnFiles (HostBridge.CommandLine.program args) with
  | some true => return 0
  | _ => return 1
