import ProbeCampaign.Datum

/-!
# The tree of a TOML document

A document defines values at dotted keys, tables under headers, and lists of
tables. `Node` keeps how each table came about, because that decides what may
still be added to it: `assign` adds a value, `openTable` a table and `openItem`
an item of a list of tables. Each of them refuses what would define something
twice. `toDatum` forgets how tables came about.
-/

namespace ProbeCampaign.Toml

/-- How a table came about: by its header, by the header of a table inside it,
or by a dotted key. -/
inductive Origin where
  | header
  | implied
  | dotted
  deriving DecidableEq

/-- A value, a table, or a list of tables, each with its entries in order. -/
inductive Node where
  | value (d : Datum)
  | table (origin : Origin) (entries : List (String × Node))
  | tables (items : List (List (String × Node)))

/-- The entries of a table. -/
abbrev Entries := List (String × Node)

/-- Replaces the node of a key, or adds one. -/
def alter (key : String) (f : Option Node → Option Node) : Entries → Option Entries
  | [] => (f none).map fun n => [(key, n)]
  | (k, n) :: rest =>
    if k = key then (f (some n)).map fun n' => (k, n') :: rest
    else (alter key f rest).map ((k, n) :: ·)

/-- Replaces the last item of a list. -/
def alterLast {α : Type} (f : α → Option α) : List α → Option (List α)
  | [] => none
  | [a] => (f a).map ([·])
  | a :: rest => (alterLast f rest).map (a :: ·)

/-- Adds an entry under a key that has none. -/
def addNew (key : String) (node : Node) : Entries → Option Entries :=
  alter key fun
    | none => some node
    | some _ => none

/-- Adds a value to a table that came about as `origin`, under the key
`path.key`. A table that the path leads through must not have a header of its
own, and the one that it leads to must come from dotted keys. -/
def assignIn (origin : Origin) : List String → String → Datum → Entries → Option Entries
  | [], key, d, es => if origin = .dotted then addNew key (.value d) es else none
  | k :: path, key, d, es =>
    alter k (fun
      | none => (assignIn .dotted path key d []).map (.table .dotted)
      | some (.table .header _) => none
      | some (.table o es') => (assignIn o path key d es').map (.table o)
      | some (.tables items) => (alterLast (assignIn .header path key d) items).map .tables
      | some (.value _) => none) es

/-- Adds a value to the table of a header, under the key `path.key`. -/
def assign : List String → String → Datum → Entries → Option Entries
  | [], key, d, es => addNew key (.value d) es
  | k :: path, key, d, es => assignIn .header (k :: path) key d es

/-- Changes the entries of the table at a path; tables on the way that are
missing are implied, and a list of tables stands for its last item. -/
def within (f : Entries → Option Entries) : List String → Entries → Option Entries
  | [], es => f es
  | k :: path, es =>
    alter k (fun
      | none => (within f path []).map (.table .implied)
      | some (.table o es') => (within f path es').map (.table o)
      | some (.tables items) => (alterLast (within f path) items).map .tables
      | some (.value _) => none) es

/-- Defines the table `path.key` by a header; so far it may only be implied. -/
def openTable (fill : Entries → Option Entries) (path : List String) (key : String) :
    Entries → Option Entries :=
  within (alter key fun
    | none => (fill []).map (.table .header)
    | some (.table .implied es) => (fill es).map (.table .header)
    | some _ => none) path

/-- Adds an item to the list of tables `path.key`. -/
def openItem (fill : Entries → Option Entries) (path : List String) (key : String) :
    Entries → Option Entries :=
  within (alter key fun
    | none => (fill []).map fun es => .tables [es]
    | some (.tables items) => (fill []).map fun es => .tables (items ++ [es])
    | some _ => none) path

mutual

/-- The datum of a node. -/
def Node.toDatum : Node → Datum
  | .value d => d
  | .table _ es => .table (entriesToData es)
  | .tables items => .list (itemsToData items)

/-- The data of entries. -/
def entriesToData : List (String × Node) → List (String × Datum)
  | [] => []
  | (k, n) :: rest => (k, n.toDatum) :: entriesToData rest

/-- The data of the items of a list of tables. -/
def itemsToData : List (List (String × Node)) → List Datum
  | [] => []
  | es :: rest => .table (entriesToData es) :: itemsToData rest

end

end ProbeCampaign.Toml
