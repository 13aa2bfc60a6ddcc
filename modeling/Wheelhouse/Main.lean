import Std.Time
import Wheelhouse.CommandLine.Run
import Wheelhouse.Console
import Wheelhouse.Request.Places

/-!
The program. It reads the places that a request has to do with from the disk, carries the request out,
writes back what has changed, and shows what happened. Object services are out of its reach.
-/

set_option autoImplicit false

namespace Wheelhouse.Main

def variableNames : List String :=
  ["GITHUB_OUTPUT", "FORCE_REBUILD", "ROCWHEEL_FORCE_REBUILD", "ROCWHEEL_CONFIG", "HOME"] ++
    Settings.sources.map (·.1)

def readEnvironment : IO (List (String × String)) :=
  variableNames.filterMapM fun name => do return (← IO.getEnv name).map fun value => (name, value)

/-- The settings file: the one that the environment names, or the one in the home folder. -/
def settingsFile (cwd : Path) (found : List (String × String)) : SettingsFile :=
  let named := (found.lookup "ROCWHEEL_CONFIG").getD ""
  let shown :=
    if named = "" then (found.lookup "HOME").getD "" ++ "/.rocwheel/settings.json" else named
  ⟨shown, Path.resolve cwd shown⟩

/-- Adds what is at a place to what is known of the disk, as far down as it goes. -/
partial def load (known : Disk) (p : Path) : IO Disk := do
  let place := (← IO.currentDir) / p.text
  if ← place.isDir then
    (← place.readDir).foldlM (fun d e => load d (p ++ [e.fileName])) (known.addFolder p)
  else if ← place.pathExists then return known.put p (.file (← IO.FS.readBinFile place))
  else return known

def loadPlace (known : Disk) (p : Path) : IO Disk := do
  let around ← (Disk.ancestry p.parent).filterM fun q => do ((← IO.currentDir) / q.text).isDir
  load (around.foldl Disk.addFolder known) p

def isUnchanged (before : Disk) (p : Path) (e : Entry) : Bool :=
  match before.find? p, e with
  | some .folder, .folder => true
  | some (.file a), .file b => a.data == b.data
  | _, _ => false

def drop (after : Disk) (p : Path) (e : Entry) : IO Unit := do
  unless after.has p do
    let place := (← IO.currentDir) / p.text
    if ← place.pathExists then
      match e with
      | .folder => IO.FS.removeDirAll place
      | .file _ => IO.FS.removeFile place

def store (before : Disk) (p : Path) (e : Entry) : IO Unit := do
  unless isUnchanged before p e do
    let place := (← IO.currentDir) / p.text
    match e with
    | .folder => IO.FS.createDirAll place
    | .file contents => IO.FS.writeBinFile place contents

def save (before after : Disk) : IO Unit := do
  before.entries.forM fun x => drop after x.1 x.2
  after.entries.forM fun x => store before x.1 x.2

def print : Output → IO Unit
  | .standard text => do (← IO.getStdout).putStr text
  | .error text => do (← IO.getStderr).putStr text

def outcome (w : Workspace) (job : Job Nat) : Nat × Workspace :=
  match job w with
  | .ok code w' => (code, w')
  | .error _ w' => (1, w')

def gather (file : SettingsFile) (w : Workspace) (arguments : List String) : IO Disk := do
  let known ← loadPlace w.disk file.path
  match CommandLine.interpret arguments with
  | .request r =>
    let found :=
      match Request.settings ⟨file, .unreachable⟩ { w with disk := known } with
      | .ok s _ => s
      | .error _ _ => Settings.load [] w.environment
    (r.places found w.cwd (w.environment.lookup "GITHUB_OUTPUT")).foldlM loadPlace known
  | _ => return known

def run (arguments : List String) : IO UInt32 := do
  let cwd := Path.resolve [] (← IO.currentDir).toString
  let environment ← readEnvironment
  let now := (← Std.Time.Timestamp.now).toMillisecondsSinceUnixEpoch.val
  let w : Workspace := { disk := .empty, objects := [], trace := [], cwd, environment, now }
  let file := settingsFile cwd environment
  let before ← gather file w arguments
  let (code, after) :=
    outcome { w with disk := before } (CommandLine.run ⟨file, .unreachable⟩ arguments)
  save before after.disk
  let console := Console.start (environment.lookup "ROCWHEEL_LOG_LEVEL")
  (Console.writeAll (Calendar.clock now) console after.trace).forM print
  return code.toUInt32

end Wheelhouse.Main

def main (arguments : List String) : IO UInt32 := Wheelhouse.Main.run arguments
