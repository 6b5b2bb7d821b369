import TtyFrame.Config.Decode

/-!
# Loading a configuration file

A file that cannot be used leaves the defaults in force; a setting that is too long is
dropped. Each loss gives a warning.
-/

set_option autoImplicit false

namespace TtyFrame.Config

/-- What stands where the configuration file should be. -/
inductive Source where
  | missing
  /-- There is something, but it cannot be read as a file. -/
  | unreadable
  | file (content : ByteArray)

inductive Warning where
  | unreadable
  | tooLarge (size : Nat)
  | malformed
  | longTheme
  | longEntries (count : Nat)
deriving DecidableEq, Repr

def Warning.message : Warning → String
  | .unreadable => "Failed to read config"
  | .tooLarge size => "Config file too large (" ++ toString size ++ " bytes), using defaults"
  | .malformed => "Failed to parse config.toml"
  | .longTheme => "Theme name too long, using default"
  | .longEntries count => "Ignoring " ++ toString count ++ " oversized palette entries"

def maxFileSize : Nat := 65536

/-- The longest text that a setting may hold, in bytes. -/
def maxTextSize : Nat := 256

def fits (text : String) : Bool := text.utf8ByteSize ≤ maxTextSize

/-- The settings without the texts that are too long. -/
def sanitize (config : Config) : Config :=
  { config with
    theme := if fits config.theme then config.theme else (({} : Config)).theme
    palette := config.palette.filter fits }

def sanitizeWarnings (config : Config) : List Warning :=
  let dropped := config.palette.length - (config.palette.filter fits).length
  (if fits config.theme then [] else [.longTheme]) ++
    (if dropped = 0 then [] else [.longEntries dropped])

def load : Source → Config × List Warning
  | .missing => ({}, [])
  | .unreadable => ({}, [.unreadable])
  | .file content =>
    match String.fromUTF8? content with
    | none => ({}, [.unreadable])
    | some text =>
      if maxFileSize < text.utf8ByteSize then ({}, [.tooLarge text.utf8ByteSize])
      else
        match parse? text with
        | none => ({}, [.malformed])
        | some config => (config.sanitize, config.sanitizeWarnings)

end TtyFrame.Config
