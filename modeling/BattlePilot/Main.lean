import BattlePilot.Log.Retention
import BattlePilot.Program.Run

/-!
The command line: reads the files that a request names, prints what it gives, and keeps a log if a
directory for logs is named.
-/

namespace BattlePilot.Main

def usage : String :=
  "usage: battlepilot check [--json] SCRIPT\n" ++
  "       battlepilot simulate [--script FILE] --scenario FILE [--settings FILE]\n" ++
  "                            [--nightmare] [--json]\n" ++
  "options: --log-dir DIR"

/-- What reading a file gives. -/
def readFile (path : String) : IO (Except FileError String) := do
  let found ← try pure (Except.ok (← IO.FS.realPath path)) catch
    | .noFileOrDirectory .. => pure (.error .notFound)
    | _ => pure (.error .notDirectory)
  match found with
  | .error fault => return .error fault
  | .ok place =>
    if ← place.isDir then return .error .isDirectory
    else if ← place.pathExists then return Text.ofBytes (← IO.FS.readBinFile place)
    else return .error .notFound

/-- The files of a request, each read once. -/
def readFiles (request : Request) : IO Files := do
  let contents ← request.paths.mapM fun path => return (path, ← readFile path)
  return fun path => (contents.lookup path).getD (.error .notFound)

/-- Plays on for as long as a battle takes. -/
partial def serve (files : Files) (request : Request) (rounds : Nat) :
    IO (Except Failure String) := do
  match request.run files rounds with
  | .error ⟨_, some (.fight .unfinished)⟩ => serve files request (2 * rounds)
  | result => return result

/-- Removes old logs below a directory, and writes a text to a new one. -/
def keepLog (directory text : String) : IO Unit := do
  let logs := directory ++ "/logs"
  IO.FS.createDirAll logs
  let fresh := logs ++ "/new"
  IO.FS.writeFile fresh text
  let now := (← (← IO.FS.realPath fresh).metadata).modified.sec
  let mut entries : List Log.Entry := []
  for entry in ← (← IO.FS.realPath logs).readDir do
    let metadata ← entry.path.metadata
    entries := entries ++ [{
      name := entry.fileName
      age := (now - metadata.modified.sec).toNat
      isDirectory := ← entry.path.isDir }]
  let kept := Log.kept entries
  for entry in entries do
    if !kept.contains entry.name then IO.FS.removeFile (logs ++ "/" ++ entry.name)
  IO.FS.rename fresh (Log.path logs now.toNat)

end BattlePilot.Main

open BattlePilot in
def main (words : List String) : IO UInt32 := do
  match Arguments.parse? words with
  | none =>
    IO.eprintln Main.usage
    return 2
  | some invocation =>
    let result ← Main.serve (← Main.readFiles invocation.request) invocation.request 1000
    let text := match result with
      | .ok text => text
      | .error failure => s!"error: {failure.message}\n"
    if let some directory := invocation.logDirectory then Main.keepLog directory text
    match result with
    | .ok _ =>
      IO.print text
      return 0
    | .error _ =>
      IO.eprint text
      return 1
