import SentenceGen.Number.Binary64

/-!
# TOML values

A TOML document is a table. Tables and arrays keep how they were written, because that decides what
later lines of a document may add to them: a table that a header has opened may not be opened again,
and nothing may be added to a table or an array that was written in one piece.

The functions on entries follow a path of keys. Each answers with nothing where the document would
define a key twice.
-/

namespace SentenceGen.Toml

/-- How a table was written. -/
inductive Origin where
  /-- In braces, in one piece. -/
  | inline
  /-- By a header of its own, or as an element of an array of tables. -/
  | header
  /-- On the way to a table with a header. -/
  | implied
  /-- By a dotted key. -/
  | dotted
  deriving DecidableEq, Repr

/-- A TOML value. Dates and times keep their text. An array is `growing` when it is written by
headers in double brackets. -/
inductive Value where
  | text (s : String)
  | whole (n : Int)
  | real (x : Binary64)
  | flag (b : Bool)
  | moment (lexeme : String)
  | array (growing : Bool) (items : List Value)
  | table (origin : Origin) (entries : List (String × Value))
  deriving Repr, Inhabited

/-- The keys of a table with their values, in the order in which they were written. -/
abbrev Entries := List (String × Value)

/-- A reader of TOML texts: it answers with the entries of a document, or with what it has to say
about a text that is none. -/
abbrev Loader := String → Except String Entries

namespace Entries

/-- The entries with another value for a key that they hold. -/
def replace (key : String) (value : Value) (entries : Entries) : Entries :=
  entries.map fun (k, v) => if k == key then (k, value) else (k, v)

/-- Changes the entries of the table under a key, which a growing array holds as its
last element. -/
def within (key : String) (entries : Entries) (change : Entries → Option Entries) :
    Option Entries :=
  match entries.lookup key with
  | some (.table .inline _) => none
  | some (.table origin inner) => do
    return replace key (.table origin (← change inner)) entries
  | some (.array true items) =>
    match items.getLast? with
    | some (.table origin inner) => do
      return replace key (.array true (items.dropLast ++ [.table origin (← change inner)])) entries
    | _ => none
  | _ => none

/-- Adds a value under a dotted key, whose tables may have been made by dotted keys only. -/
def insert (value : Value) : (path : List String) → Entries → Option Entries
  | [], _ => none
  | [key], entries =>
    if (entries.lookup key).isSome then none else some (entries ++ [(key, value)])
  | key :: path, entries =>
    match entries.lookup key with
    | none => do return entries ++ [(key, .table .dotted (← insert value path []))]
    | some (.table .dotted _) => within key entries (insert value path)
    | some _ => none

/-- Opens the table that a header names. -/
def openTable : (path : List String) → Entries → Option Entries
  | [], _ => none
  | [key], entries =>
    match entries.lookup key with
    | none => some (entries ++ [(key, .table .header [])])
    | some (.table .implied inner) => some (replace key (.table .header inner) entries)
    | some _ => none
  | key :: path, entries =>
    match entries.lookup key with
    | none => do return entries ++ [(key, .table .implied (← openTable path []))]
    | some _ => within key entries (openTable path)

/-- Adds an element to the array of tables that a header in double brackets names. -/
def openElement : (path : List String) → Entries → Option Entries
  | [], _ => none
  | [key], entries =>
    match entries.lookup key with
    | none => some (entries ++ [(key, .array true [.table .header []])])
    | some (.array true items) =>
      some (replace key (.array true (items ++ [.table .header []])) entries)
    | some _ => none
  | key :: path, entries =>
    match entries.lookup key with
    | none => do return entries ++ [(key, .table .implied (← openElement path []))]
    | some _ => within key entries (openElement path)

/-- Adds a value under a dotted key in the table that the last header has opened. -/
def insertUnder (value : Value) (path : List String) : (header : List String) → Entries →
    Option Entries
  | [], entries => insert value path entries
  | key :: header, entries => within key entries (insertUnder value path header)

end Entries

end SentenceGen.Toml
