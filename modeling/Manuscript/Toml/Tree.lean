import Manuscript.Datum.Basic

/-!
# The tables of a TOML text

A table is written in pieces: under its header, by headers further down, and by dotted keys. Which
piece may add to which table depends on how the table came to be, so the tree of a text that is
being read keeps that with every table. A key is defined once, a table has one header, and a value
is never added to.
-/

namespace Manuscript.Toml

/-- How a table came to be. -/
inductive TableKind where
  /-- By its own header. -/
  | header
  /-- By the header of a table inside it. -/
  | implied
  /-- By a dotted key. -/
  | dotted
  deriving DecidableEq, Repr

/-- What a key stands for while a text is read. -/
inductive Node where
  /-- A value, to which nothing can be added. -/
  | value (d : Datum)
  | table (kind : TableKind) (entries : List (String × Node))
  /-- A table for each header in double brackets, in order. -/
  | tables (items : List (List (String × Node)))
  deriving Inhabited

/-- The entries of a table that is being read. -/
abbrev Entries := List (String × Node)

namespace Entries

/-- The entries with what a function makes of the node at a key. The function gets nothing if there
is no such key, and the key is then added at the end. -/
def alter? (key : String) (f : Option Node → Option Node) : Entries → Option Entries
  | [] => (f none).map fun n ↦ [(key, n)]
  | e :: es =>
    if e.1 = key then (f (some e.2)).map fun n ↦ (key, n) :: es
    else (alter? key f es).map fun es ↦ e :: es

/-- The tables of an array with a function applied to the last one. -/
def alterLast? (f : Entries → Option Entries) : List Entries → Option (List Entries)
  | [] => none
  | [t] => (f t).map fun t ↦ [t]
  | t :: ts => (alterLast? f ts).map fun ts ↦ t :: ts

/-- Adds a value under a dotted key. Only tables that dotted keys made are on the way. -/
def addValue? (d : Datum) : List String → Entries → Option Entries
  | [], _ => none
  | [key], es => es.alter? key fun n ↦ if n.isNone then some (.value d) else none
  | key :: keys, es =>
    es.alter? key fun n ↦
      match n with
      | none => (addValue? d keys []).map (.table .dotted)
      | some (.table .dotted sub) => (addValue? d keys sub).map (.table .dotted)
      | _ => none

/-- Changes the table at a path of headers. In an array of tables that is the last one. -/
def alterAt? (f : Entries → Option Entries) : List String → Entries → Option Entries
  | [], es => f es
  | key :: keys, es =>
    es.alter? key fun n ↦
      match n with
      | none => none
      | some (.table kind sub) => (alterAt? f keys sub).map (.table kind)
      | some (.tables items) => (alterLast? (alterAt? f keys) items).map .tables
      | some (.value _) => none

/-- Carries out a change at the last key of a header, making the tables on the way that are
missing. -/
def alterHeader? (f : Option Node → Option Node) : List String → Entries → Option Entries
  | [], _ => none
  | [key], es => es.alter? key f
  | key :: keys, es =>
    es.alter? key fun n ↦
      match n with
      | none => (alterHeader? f keys []).map (.table .implied)
      | some (.table kind sub) => (alterHeader? f keys sub).map (.table kind)
      | some (.tables items) => (alterLast? (alterHeader? f keys) items).map .tables
      | some (.value _) => none

/-- Opens the table of a header in single brackets. -/
def openTable? (path : List String) (es : Entries) : Option Entries :=
  es.alterHeader? (fun n ↦
    match n with
    | none => some (.table .header [])
    | some (.table .implied sub) => some (.table .header sub)
    | _ => none) path

/-- Opens another table of a header in double brackets. -/
def appendTable? (path : List String) (es : Entries) : Option Entries :=
  es.alterHeader? (fun n ↦
    match n with
    | none => some (.tables [[]])
    | some (.tables items) => some (.tables (items ++ [[]]))
    | _ => none) path

end Entries

mutual

/-- What a node has become when the text is read. -/
def Node.toDatum : Node → Datum
  | .value d => d
  | .table _ es => .map (entriesToData es)
  | .tables items => .list (tablesToData items)

/-- What the entries of a table have become. -/
def entriesToData : List (String × Node) → List (Datum × Datum)
  | [] => []
  | (k, n) :: es => (.text k, n.toDatum) :: entriesToData es

/-- What the tables of an array have become. -/
def tablesToData : List (List (String × Node)) → List Datum
  | [] => []
  | es :: ts => .map (entriesToData es) :: tablesToData ts

end

/-- The mapping that the entries have become. -/
def Entries.toDatum (es : Entries) : Datum :=
  .map (entriesToData es)

end Manuscript.Toml
