/-! A table may be written in several places, but each adds to it only in its own way: `header` tables are
closed to dotted keys, tables made by dotted keys have no header, and inline tables are complete. -/
namespace ChatDisplay.Toml

/-- How a table was written. -/
inductive Origin where
  | header
  /-- By the header of a table inside it. -/
  | implied
  | dotted
  | inline
  deriving DecidableEq, Repr

inductive Value where
  | string (s : String)
  | integer (n : Int)
  /-- A number with a fraction or an exponent, infinity or not a number, as it was written. -/
  | float (text : String)
  | bool (b : Bool)
  /-- A date, a time or both, as it was written. -/
  | moment (text : String)
  | array (items : List Value)
  | table (origin : Origin) (entries : List (String × Value))
  /-- The tables that headers in double brackets add one by one. -/
  | tables (elements : List (List (String × Value)))
  deriving Inhabited

/-- The contents of a table, with no key twice. -/
abbrev Entries := List (String × Value)

namespace Entries

def set (key : String) (v : Value) (es : Entries) : Entries :=
  es.map fun e => if e.1 = key then (key, v) else e

def inLast (f : Entries → Option Entries) : List Entries → Option (List Entries)
  | [] => none
  | [es] => (f es).map fun es => [es]
  | es :: rest => (inLast f rest).map (es :: ·)

/-- Puts a value under a dotted key. The table that the last part goes into must have been made by
dotted keys, or be the one in which the key is written. -/
def put (v : Value) : List String → Entries → Option Entries
  | [], _ => none
  | [key], es => if (es.lookup key).isSome then none else some (es ++ [(key, v)])
  | key :: next :: rest, es =>
    match es.lookup key with
    | none => (put v (next :: rest) []).map fun sub => es ++ [(key, .table .dotted sub)]
    | some (.table .dotted sub) =>
      (put v (next :: rest) sub).map fun sub => es.set key (.table .dotted sub)
    | some (.table .implied sub) =>
      if rest.isEmpty then none
      else (put v (next :: rest) sub).map fun sub => es.set key (.table .implied sub)
    | some (.tables elements) =>
      if rest.isEmpty then none
      else (inLast (put v (next :: rest)) elements).map fun elements =>
        es.set key (.tables elements)
    | some _ => none

/-- Changes the table at the end of a path of headers. Tables on the way that do not exist are
implied, and a list of tables stands for its last one. -/
def within (f : Entries → Option Entries) : List String → Entries → Option Entries
  | [], es => f es
  | key :: path, es =>
    match es.lookup key with
    | none => (within f path []).map fun sub => es ++ [(key, .table .implied sub)]
    | some (.table .inline _) => none
    | some (.table origin sub) => (within f path sub).map fun sub => es.set key (.table origin sub)
    | some (.tables elements) =>
      (inLast (within f path) elements).map fun elements => es.set key (.tables elements)
    | some _ => none

/-- Opens the table of a header. Each table has at most one. -/
def openTable (key : String) (es : Entries) : Option Entries :=
  match es.lookup key with
  | none => some (es ++ [(key, .table .header [])])
  | some (.table .implied sub) => some (es.set key (.table .header sub))
  | some _ => none

def openElement (key : String) (es : Entries) : Option Entries :=
  match es.lookup key with
  | none => some (es ++ [(key, .tables [[]])])
  | some (.tables elements) => some (es.set key (.tables (elements ++ [[]])))
  | some _ => none

end Entries

end ChatDisplay.Toml
