import TtyFrame.Text.Hex

/-!
# Keys and strings of TOML

Readers for the smallest parts of a document. Each takes the characters ahead and
gives what it read with the characters after it, or nothing if it cannot read.
-/

set_option autoImplicit false

namespace TtyFrame.Toml

open Text

def isSpace (c : Char) : Bool := c = ' ' || c = '\t'

/-- A character that may stand in a comment: no control but the tab. -/
def isCommentChar (c : Char) : Bool :=
  c = '\t' || (0x20 ≤ c.toNat && c.toNat ≠ 0x7F)

def isBareKeyChar (c : Char) : Bool := c.isAlphanum || c = '-' || c = '_'

def skipSpaces (text : List Char) : List Char := text.dropWhile isSpace

/-- The rest after one line end. -/
def lineEnd? : List Char → Option (List Char)
  | '\n' :: rest => some rest
  | '\r' :: '\n' :: rest => some rest
  | _ => none

def skipComment : List Char → List Char
  | '#' :: rest => rest.dropWhile isCommentChar
  | text => text

/-- The rest after what may follow a value or header on its line. -/
def lineRest? (text : List Char) : Option (List Char) :=
  match skipComment (skipSpaces text) with
  | [] => some []
  | rest => lineEnd? rest

def skipBlank : Nat → List Char → Option (List Char)
  | 0, text => some text
  | fuel + 1, text =>
    match skipSpaces text with
    | '#' :: rest => (lineEnd? (rest.dropWhile isCommentChar)).bind (skipBlank fuel)
    | '\n' :: rest => skipBlank fuel rest
    | '\r' :: rest => (lineEnd? ('\r' :: rest)).bind (skipBlank fuel)
    | rest => some rest

/-- The character of a one-letter escape. -/
def shortEscape? : Char → Option Char
  | 'b' => some '\x08'
  | 't' => some '\t'
  | 'n' => some '\n'
  | 'f' => some '\x0c'
  | 'r' => some '\r'
  | '"' => some '"'
  | '\\' => some '\\'
  | _ => none

/-- The character with the code point that the digits give, if there is one. -/
def codePoint? (digits : List Char) : Option Char :=
  (hexDigits? digits).bind fun value =>
    if valid : value.isValidChar then some (Char.ofNatAux value valid) else none

/-- The character that an escape stands for and the rest; the backslash is already read. -/
def escape? : List Char → Option (Char × List Char)
  | 'u' :: a :: b :: c :: d :: rest => (codePoint? [a, b, c, d]).map (·, rest)
  | 'U' :: a :: b :: c :: d :: e :: f :: g :: h :: rest =>
    (codePoint? [a, b, c, d, e, f, g, h]).map (·, rest)
  | c :: rest => (shortEscape? c).map (·, rest)
  | [] => none

/-- The body of a string in double quotes, with the characters before it in reverse. -/
def basicBody : Nat → List Char → List Char → Option (String × List Char)
  | 0, _, _ => none
  | fuel + 1, before, text =>
    match text with
    | '"' :: rest => some (String.ofList before.reverse, rest)
    | '\\' :: rest =>
      (escape? rest).bind fun escaped => basicBody fuel (escaped.1 :: before) escaped.2
    | c :: rest => if isCommentChar c then basicBody fuel (c :: before) rest else none
    | [] => none

def literalBody (text : List Char) : Option (String × List Char) :=
  let inside := text.takeWhile fun c => isCommentChar c && c ≠ '\''
  match text.drop inside.length with
  | '\'' :: rest => some (String.ofList inside, rest)
  | _ => none

/-- The rest after a line end and all blanks and line ends behind it. -/
def skipFoldedLines (text : List Char) : Option (List Char) :=
  (lineEnd? (skipSpaces text)).map (dropLines text.length)
where
  dropLines : Nat → List Char → List Char
    | 0, text => text
    | fuel + 1, text =>
      match lineEnd? (skipSpaces text) with
      | some rest => dropLines fuel rest
      | none => skipSpaces text

/-- The rest after a closing run of quotes, and the quotes of it that are content. Up to
two quotes may stand before the three that close. -/
def closingQuotes? (quote : Char) (text : List Char) : Option (List Char × List Char) :=
  let run := (text.takeWhile (· = quote)).length
  if run < 3 then none
  else
    let inner := min run 5 - 3
    some (List.replicate inner quote, text.drop (inner + 3))

def longBasicBody : Nat → List Char → List Char → Option (String × List Char)
  | 0, _, _ => none
  | fuel + 1, before, text =>
    match closingQuotes? '"' text with
    | some (inner, rest) => some (String.ofList (before.reverse ++ inner), rest)
    | none =>
      match text with
      | '\\' :: rest =>
        match escape? rest with
        | some (c, rest) => longBasicBody fuel (c :: before) rest
        | none => (skipFoldedLines rest).bind (longBasicBody fuel before)
      | '\n' :: rest => longBasicBody fuel ('\n' :: before) rest
      | '\r' :: rest => (lineEnd? text).bind fun _ =>
          longBasicBody fuel ('\n' :: before) (rest.drop 1)
      | c :: rest => if isCommentChar c then longBasicBody fuel (c :: before) rest else none
      | [] => none

def longLiteralBody : Nat → List Char → List Char → Option (String × List Char)
  | 0, _, _ => none
  | fuel + 1, before, text =>
    match closingQuotes? '\'' text with
    | some (inner, rest) => some (String.ofList (before.reverse ++ inner), rest)
    | none =>
      match text with
      | '\n' :: rest => longLiteralBody fuel ('\n' :: before) rest
      | '\r' :: rest => (lineEnd? text).bind fun _ =>
          longLiteralBody fuel ('\n' :: before) (rest.drop 1)
      | c :: rest => if isCommentChar c then longLiteralBody fuel (c :: before) rest else none
      | [] => none

/-- The characters ahead without one line end, if they start with it. -/
def dropLineEnd (text : List Char) : List Char := (lineEnd? text).getD text

def string? : List Char → Option (String × List Char)
  | '"' :: '"' :: '"' :: rest => longBasicBody (rest.length + 1) [] (dropLineEnd rest)
  | '"' :: rest => basicBody (rest.length + 1) [] rest
  | '\'' :: '\'' :: '\'' :: rest => longLiteralBody (rest.length + 1) [] (dropLineEnd rest)
  | '\'' :: rest => literalBody rest
  | _ => none

/-- One part of a dotted key. Strings of several lines are no keys. -/
def simpleKey? : List Char → Option (String × List Char)
  | '"' :: rest => basicBody (rest.length + 1) [] rest
  | '\'' :: rest => literalBody rest
  | text =>
    let name := text.takeWhile isBareKeyChar
    if name.isEmpty then none else some (String.ofList name, text.drop name.length)

/-- The parts of a dotted key after the first, with blanks around each point. -/
def keyParts : Nat → List String → List Char → Option (List String × List Char)
  | 0, _, _ => none
  | fuel + 1, before, text =>
    (simpleKey? (skipSpaces text)).bind fun part =>
      match skipSpaces part.2 with
      | '.' :: rest => keyParts fuel (part.1 :: before) rest
      | rest => some ((part.1 :: before).reverse, rest)

/-- Keys and values nest less deep than this. -/
def depthLimit : Nat := 80

/-- A dotted key as the path to its table and its last part. -/
def key? (text : List Char) : Option ((List String × String) × List Char) :=
  (keyParts (text.length + 1) [] text).bind fun parts =>
    if depthLimit ≤ parts.1.length then none
    else parts.1.getLast?.map fun last => ((parts.1.dropLast, last), parts.2)

end TtyFrame.Toml
