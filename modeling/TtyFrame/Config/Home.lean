import TtyFrame.Config.Load

/-!
# The configuration directory

Where the configuration file of a user lives, and the file that is put there when there
is none yet.
-/

set_option autoImplicit false

namespace TtyFrame.Config

def folder : String := "termbridge"

def filePath : String := folder ++ "/config.toml"

def templateLines : List String := [
  "# termbridge configuration",
  "# Changes are applied live, just save this file.",
  "",
  "# Built-in palette: \"xterm\" or \"windows\"",
  "theme = \"xterm\"",
  "",
  "# Override the 16 base ANSI colors (index 0..15), as #rrggbb",
  "# palette = [\"#000000\", \"#cd0000\", \"#00cd00\", \"#cdcd00\"]",
  "",
  "# Maximum scrollback buffer size (lines)",
  "scrollback-lines = 10000",
  "",
  "# Initial grid size",
  "columns = 80",
  "rows = 24",
  "",
  "# Palette indices used when the terminal has no explicit default colors",
  "default-foreground = 15",
  "default-background = 0",
  "",
  "# Soft-keyboard composition strategy: \"buffered\" or \"flag\"",
  "composition = \"buffered\"",
  "",
  "# Reverse drag-to-scroll direction",
  "# scroll-reverse = false"]

def template : String := String.join (templateLines.map (· ++ "\n"))

/-- The configuration directory of a user. -/
inductive Home where
  /-- It is a directory, with or without a configuration file. -/
  | directory (file : Option ByteArray)
  /-- Something else stands in its place, and nothing can be put there. -/
  | blocked

namespace Home

def source : Home → Source
  | .directory (some content) => .file content
  | .directory none => .missing
  | .blocked => .unreadable

/-- Creates the file if there is none; gives its path, or nothing if it cannot be made. -/
def ensure : Home → Home × Option String
  | .directory none => (.directory (some template.toUTF8), some filePath)
  | .directory (some content) => (.directory (some content), some filePath)
  | .blocked => (.blocked, none)

def write (content : ByteArray) : Home → Home
  | .directory _ => .directory (some content)
  | .blocked => .blocked

def remove : Home → Home × Bool
  | .directory file => (.directory none, file.isSome)
  | .blocked => (.blocked, false)

def read? : Home → Option String
  | .directory (some content) => String.fromUTF8? content
  | .directory none => none
  | .blocked => none

end Home

end TtyFrame.Config
