/-!
# The tree of a TOML document

A document is a tree of values and tables. Each table remembers how it came to be,
because that decides which later headers and keys may still add to it.
-/

set_option autoImplicit false

namespace TtyFrame.Toml

inductive TableForm where
  /-- Opened by a header of its own, or the top of a document. -/
  | header
  /-- Named only on the way to a header further down. -/
  | parent
  /-- Made by a dotted key. -/
  | dotted
  /-- Written in braces as a value. -/
  | inline
deriving DecidableEq, Repr

/-- A value or table of a document. A number with a fraction and a date keep no
content. -/
inductive Node where
  | string (text : String)
  | integer (value : Int)
  | float
  | boolean (value : Bool)
  | date
  | array (items : List Node)
  | table (form : TableForm) (entries : List (String × Node))
  /-- Tables opened by double-bracket headers of one name, in order. -/
  | tables (items : List (List (String × Node)))

/-- The keys of a table with their nodes, in order of appearance. -/
abbrev Entries := List (String × Node)

namespace Entries

def get? (entries : Entries) (key : String) : Option Node :=
  (entries.find? (·.1 = key)).map (·.2)

/-- The entries with a new node for a key, in its old place if it had one. -/
def set (entries : Entries) (key : String) (node : Node) : Entries :=
  match entries with
  | [] => [(key, node)]
  | (other, old) :: rest =>
    if other = key then (key, node) :: rest else (other, old) :: Entries.set rest key node

/-- A step through a table that a dotted key may not take: only tables without a
header and without braces are open to dotted keys. -/
def closedToDots : TableForm → Bool
  | .header => true
  | .inline => true
  | .parent => false
  | .dotted => false

/-- Changes the table at the end of a path, given its form and entries. Tables that are
missing on the way are made: by a dotted key if `dotted` is set, by a header if not. A
step into a list of tables goes to the last one. -/
def changeAt (dotted : Bool) (change : TableForm → Entries → Option Entries) :
    List String → TableForm → Entries → Option Entries
  | [], form, entries => change form entries
  | key :: path, _, entries =>
    match entries.get? key with
    | none =>
      let form := if dotted then .dotted else .parent
      (changeAt dotted change path form []).map fun inner =>
        entries.set key (.table form inner)
    | some (.table form inner) =>
      if form = .inline ∨ (dotted ∧ closedToDots form) then none
      else (changeAt dotted change path form inner).map fun inner =>
        entries.set key (.table form inner)
    | some (.tables items) =>
      match items.getLast? with
      | none => none
      | some inner =>
        (changeAt dotted change path .header inner).map fun inner =>
          entries.set key (.tables (items.dropLast ++ [inner]))
    | some _ => none

/-- Adds a key that must be new. -/
def insertNew (key : String) (node : Node) (entries : Entries) : Option Entries :=
  if (entries.get? key).isSome then none else some (entries ++ [(key, node)])

/-- Gives a value to a dotted key: the path to its table and its last part. A path may
end only in a table that dotted keys have made. -/
def assign (entries : Entries) (path : List String) (key : String) (node : Node) :
    Option Entries :=
  changeAt true
    (fun form inner =>
      if path ≠ [] ∧ form ≠ .dotted then none else insertNew key node inner)
    path .header entries

/-- Gives a value to a dotted key inside the table of the given header path. -/
def assignUnder (entries : Entries) (header : List String) (path : List String)
    (key : String) (node : Node) : Option Entries :=
  changeAt false (fun _ inner => inner.assign path key node) header .header entries

/-- Opens the table of a header. It may have been named on the way to another header,
but not been opened or made in another way. -/
def openTable (entries : Entries) (path : List String) (key : String) : Option Entries :=
  changeAt false
    (fun _ inner =>
      match inner.get? key with
      | none => some (inner ++ [(key, .table .header [])])
      | some (.table .parent old) => some (inner.set key (.table .header old))
      | some _ => none)
    path .header entries

def openItem (entries : Entries) (path : List String) (key : String) : Option Entries :=
  changeAt false
    (fun _ inner =>
      match inner.get? key with
      | none => some (inner ++ [(key, .tables [[]])])
      | some (.tables items) => some (inner.set key (.tables (items ++ [[]])))
      | some _ => none)
    path .header entries

end Entries

end TtyFrame.Toml
