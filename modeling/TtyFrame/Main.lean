import TtyFrame.Config.Home
import TtyFrame.Walkthrough

/-!
# Command line

Makes sure that there is a configuration file, and prints the walkthrough under the
settings that it holds.
-/

set_option autoImplicit false

open TtyFrame

def configHome? : IO (Option String) := do
  match (← IO.getEnv "XDG_CONFIG_HOME").filter (·.startsWith "/") with
  | some home => return some home
  | none => return (← IO.getEnv "HOME").map (· ++ "/.config")

def fileContent? (path : String) : IO (Option ByteArray) := do
  try
    return some (← IO.FS.readBinFile path)
  catch _ =>
    return none

def readHome (home : String) : IO Config.Home := do
  return .directory (← fileContent? (home ++ "/" ++ Config.filePath))

/-- Creates the configuration file if there is none. A failure is passed over. -/
def writeHome (home : String) : IO Unit := do
  try
    IO.FS.createDirAll (home ++ "/" ++ Config.folder)
    IO.FS.writeFile (home ++ "/" ++ Config.filePath) Config.template
  catch _ =>
    return

def userConfig : IO Config := do
  match ← configHome? with
  | none => return {}
  | some home =>
    match ← readHome home with
    | .directory none =>
      writeHome home
      return (Config.load (← readHome home).source).1
    | found => return (Config.load found.source).1

def main : IO UInt32 := do
  let (printed, outcome) := Walkthrough.run (← userConfig)
  printed.forM fun line => IO.println line
  match outcome with
  | .ok _ => return 0
  | .error failure =>
    IO.eprintln ("termbridge failed: " ++ failure.message)
    return 1
