import Stageflow.Table

namespace Stageflow.Toml

/-- A value of a TOML document. Of floating-point numbers, dates and times only the kind is kept. -/
inductive Value where
  | string (value : String)
  | integer (value : Int)
  | bool (value : Bool)
  | float
  | time
  | array (items : List Value)
  | table (entries : List (String × Value))
  deriving Repr, Inhabited

/-- How a table came to be: by a header of its own, by a key with points, or because the header of
    a table inside it named it. -/
inductive Origin where
  | header
  | dotted
  | implied
  deriving DecidableEq, Repr

/-- An entry of a document that is still being read. Values are closed, tables may still grow. -/
inductive Item where
  | value (value : Value)
  | table (origin : Origin) (entries : List (String × Item))
  | tables (tables : List (List (String × Item)))
  deriving Repr, Inhabited

namespace Item

mutual

def toValue : Item → Value
  | .value v => v
  | .table _ entries => .table (entriesToValues entries)
  | .tables items => .array (tablesToValues items)

def entriesToValues : List (String × Item) → List (String × Value)
  | [] => []
  | (key, item) :: entries => (key, item.toValue) :: entriesToValues entries

def tablesToValues : List (List (String × Item)) → List Value
  | [] => []
  | entries :: rest => .table (entriesToValues entries) :: tablesToValues rest

end

end Item

/-- The entries of a table. -/
abbrev Entries :=
  List (String × Item)

namespace Entries

/-- Puts an item in the place of the one with its key. -/
def replace (entries : Entries) (key : String) (item : Item) : Entries :=
  entries.map fun entry => if entry.1 = key then (key, item) else entry

/-- Changes the table that a path leads to, seen from a table of the given origin. Tables that are
    missing on the way are made; of several tables under one key the last one is meant. Keys with
    points do not lead into a table that has a header. -/
def change? (dotted : Bool) (change : Origin → Entries → Option Entries) (origin : Origin)
    (entries : Entries) : List String → Option Entries
  | [] => change origin entries
  | key :: path =>
    match lookup key entries with
    | none =>
      let origin := if dotted then Origin.dotted else .implied
      (change? dotted change origin [] path).map fun inner => entries ++ [(key, .table origin inner)]
    | some (.value _) => none
    | some (.table origin inner) =>
      if dotted ∧ origin = .header then none
      else
        (change? dotted change origin inner path).map fun inner =>
          entries.replace key (.table origin inner)
    | some (.tables tables) =>
      match tables.getLast? with
      | none => none
      | some last =>
        (change? dotted change .header last path).map fun last =>
          entries.replace key (.tables (tables.dropLast ++ [last]))

/-- Adds a value under a key with points, which is given as the keys in front of the last point and
    the key behind it. A table is written either with points throughout or without any. -/
def add? (entries : Entries) (path : List String) (key : String) (value : Value) : Option Entries :=
  change? true
    (fun origin entries =>
      if (origin == .dotted) == path.isEmpty then none
      else if (lookup key entries).isSome then none
      else some (entries ++ [(key, .value value)]))
    .header entries path

/-- Opens the table of a header. A table that was only implied is opened with what it holds. -/
def openTable? (entries : Entries) (path : List String) (key : String) : Option Entries :=
  change? false
    (fun _ entries =>
      match lookup key entries with
      | none => some (entries ++ [(key, .table .header [])])
      | some (.table .implied inner) => some (entries.replace key (.table .header inner))
      | some _ => none)
    .header entries path

/-- Opens one more table under the key of a header. -/
def openNextTable? (entries : Entries) (path : List String) (key : String) : Option Entries :=
  change? false
    (fun _ entries =>
      match lookup key entries with
      | none => some (entries ++ [(key, .tables [[]])])
      | some (.tables tables) => some (entries.replace key (.tables (tables ++ [[]])))
      | some _ => none)
    .header entries path

/-- Adds values under keys with points to a table that a header opened. -/
def addAll? (entries : Entries) : List (List String × String × Value) → Option Entries
  | [] => some entries
  | (path, key, value) :: rest => (entries.add? path key value).bind (addAll? · rest)

end Entries

end Stageflow.Toml
