import TtyFrame.Toml.Moment
import TtyFrame.Toml.Node
import TtyFrame.Toml.Number
import TtyFrame.Toml.Token

/-!
# TOML documents

Reads a whole document into its tree. A document is read completely or not at all.
-/

set_option autoImplicit false

namespace TtyFrame.Toml

/-- A value with the characters after it. -/
abbrev Read := Option (Node × List Char)

def numeral? (text : List Char) : Read :=
  match moment? text with
  | some rest => rest.map (.date, ·)
  | none =>
    match float? text with
    | some rest => rest.map (.float, ·)
    | none => (integer? text).map fun read => (.integer read.1, read.2)

def scalar? (text : List Char) : Read :=
  match text with
  | '"' :: _ | '\'' :: _ => (string? text).map fun read => (.string read.1, read.2)
  | 't' :: 'r' :: 'u' :: 'e' :: rest => some (.boolean true, rest)
  | 'f' :: 'a' :: 'l' :: 's' :: 'e' :: rest => some (.boolean false, rest)
  | 'i' :: 'n' :: 'f' :: rest => some (.float, rest)
  | 'n' :: 'a' :: 'n' :: rest => some (.float, rest)
  | c :: _ => if c.isDigit ∨ c = '+' ∨ c = '-' then numeral? text else none
  | [] => none

mutual

/-- A value at the given depth. -/
def value? : Nat → Nat → List Char → Read
  | 0, _, _ => none
  | fuel + 1, depth, text =>
    match text with
    | '[' :: rest => if depth + 1 < depthLimit then items? fuel (depth + 1) [] rest else none
    | '\x7b' :: rest =>
      if depth + 1 < depthLimit then
        match skipSpaces rest with
        | '}' :: rest => some (.table .inline [], rest)
        | rest => pairs? fuel (depth + 1) [] rest
      else none
    | _ => scalar? text

/-- The items of an array up to its closing bracket; a comma may follow the last. -/
def items? : Nat → Nat → List Node → List Char → Read
  | 0, _, _, _ => none
  | fuel + 1, depth, before, text =>
    match skipBlank (text.length + 1) text with
    | none => none
    | some (']' :: rest) => some (.array before.reverse, rest)
    | some rest =>
      match value? fuel depth rest with
      | none => none
      | some (item, rest) =>
        match skipBlank (rest.length + 1) rest with
        | some (',' :: rest) => items? fuel depth (item :: before) rest
        | some (']' :: rest) => some (.array (item :: before).reverse, rest)
        | _ => none

/-- The pairs of an inline table up to its closing brace, none of them missing. -/
def pairs? : Nat → Nat → Entries → List Char → Read
  | 0, _, _, _ => none
  | fuel + 1, depth, entries, text =>
    match key? text with
    | some ((path, key), '=' :: rest) =>
      match value? fuel depth (skipSpaces rest) with
      | none => none
      | some (node, rest) =>
        match entries.assign path key node with
        | none => none
        | some entries =>
          match skipSpaces rest with
          | ',' :: rest => pairs? fuel depth entries rest
          | '}' :: rest => some (.table .inline entries, rest)
          | _ => none
    | _ => none

end

/-- A document so far: its tree and the path of the header in force. -/
structure Document where
  entries : Entries
  header : List String

def Document.empty : Document := ⟨[], []⟩

def Document.pair? (document : Document) (text : List Char) : Option (Document × List Char) :=
  match key? text with
  | some ((path, key), '=' :: rest) =>
    match value? (2 * rest.length + 2) 0 (skipSpaces rest) with
    | none => none
    | some (node, rest) =>
      (document.entries.assignUnder document.header path key node).bind fun entries =>
        (lineRest? rest).map fun rest => (⟨entries, document.header⟩, rest)
  | _ => none

def Document.header? (document : Document) : List Char → Option (Document × List Char)
  | '[' :: '[' :: rest =>
    match key? rest with
    | some ((path, key), ']' :: ']' :: rest) =>
      (document.entries.openItem path key).bind fun entries =>
        (lineRest? rest).map fun rest => (⟨entries, path ++ [key]⟩, rest)
    | _ => none
  | '[' :: rest =>
    match key? rest with
    | some ((path, key), ']' :: rest) =>
      (document.entries.openTable path key).bind fun entries =>
        (lineRest? rest).map fun rest => (⟨entries, path ++ [key]⟩, rest)
    | _ => none
  | _ => none

def Document.lines? : Nat → Document → List Char → Option Document
  | 0, _, _ => none
  | fuel + 1, document, text =>
    match skipSpaces text with
    | [] => some document
    | '#' :: rest => (lineRest? ('#' :: rest)).bind (lines? fuel document)
    | '\n' :: rest => lines? fuel document rest
    | '\r' :: rest => (lineEnd? ('\r' :: rest)).bind (lines? fuel document)
    | '[' :: rest => (document.header? ('[' :: rest)).bind fun read => lines? fuel read.1 read.2
    | rest => (document.pair? rest).bind fun read => lines? fuel read.1 read.2

/-- The characters of a text without a leading byte order mark. -/
def dropByteOrderMark : List Char → List Char
  | '\ufeff' :: rest => rest
  | text => text

/-- The tree of a document, or nothing if the text is not valid. -/
def parse? (text : String) : Option Entries :=
  let chars := dropByteOrderMark text.toList
  (Document.empty.lines? (chars.length + 1) chars).map (·.entries)

end TtyFrame.Toml
