/-!
# `OrderDesk.Toml.Document` — building a settings document

Statements of a document are applied one by one: headers open tables, assignments put values into
them. A table is defined once; what a header or a dotted key defines cannot be defined again by the
other.

## Contents
- `Toml`: finished values.
- `TomlTable`: a table as its statements have left it, with `assign`, `openTable` and `openItem`.
- `TomlTable.finish`: the value of a table.
-/

namespace OrderDesk

/-- A value of a settings document. -/
inductive Toml where
  | string (text : String)
  | integer (n : Int)
  | boolean (b : Bool)
  /-- A number with a fraction, a date or a time, which no setting takes. -/
  | unused
  | array (items : List Toml)
  | table (fields : List (String × Toml))
deriving Inhabited, BEq, Repr

/-- How a table came to be. -/
inductive TomlOrigin where
  /-- Opened by a header of its own, or the document itself. -/
  | header
  /-- Named on the way to a header's table. -/
  | passed
  /-- Named on the way to a dotted key. -/
  | dotted
deriving DecidableEq, Repr, Inhabited

/-- What stands under a key. -/
inductive TomlNode where
  | value (v : Toml)
  | table (origin : TomlOrigin) (entries : List (String × TomlNode))
  /-- An array of tables, the latest first. -/
  | items (tables : List (List (String × TomlNode)))
deriving Inhabited

/-- The entries of a table, in the order of their definition. -/
abbrev TomlTable := List (String × TomlNode)

namespace TomlTable

/-- What stands under a key. -/
def node? (t : TomlTable) (key : String) : Option TomlNode :=
  (List.find? (·.1 == key) t).map (·.2)

/-- Replaces what stands under a key. -/
def put (t : TomlTable) (key : String) (node : TomlNode) : TomlTable :=
  t.map fun (k, n) => if k == key then (k, node) else (k, n)

/-- Changes the table at the end of a path. Tables on the way that do not exist yet are made with the
given origin; dotted keys do not lead into tables with a header. -/
def within (origin : TomlOrigin) (change : TomlOrigin → TomlTable → Option TomlTable) :
    (path : List String) → TomlOrigin → TomlTable → Option TomlTable
  | [], own, t => change own t
  | key :: path, _, t =>
    match node? t key with
    | none => do
      let inner ← within origin change path origin []
      some (t ++ [(key, .table origin inner)])
    | some (.table own inner) =>
      if origin = .dotted ∧ own = .header then none
      else do
        let inner ← within origin change path own inner
        some (put t key (.table own inner))
    | some (.items (latest :: earlier)) => do
      let latest ← within origin change path .header latest
      some (put t key (.items (latest :: earlier)))
    | some _ => none

/-- Defines a key. Dotted keys only define keys of tables that dotted keys have made. -/
def define (key : String) (path : List String) (v : Toml) (own : TomlOrigin) (t : TomlTable) :
    Option TomlTable :=
  if (own == .dotted) == path.isEmpty then none
  else match node? t key with
    | none => some (t ++ [(key, .value v)])
    | some _ => none

/-- An assignment in the table under a header: `path.key = v`. -/
def assign (t : TomlTable) (header path : List String) (key : String) (v : Toml) :
    Option TomlTable :=
  within .passed (within .dotted (define key path v) path) header .header t

/-- A header `[path.key]`. -/
def openTable (t : TomlTable) (path : List String) (key : String) : Option TomlTable :=
  within .passed (fun _ t =>
    match node? t key with
    | none => some (t ++ [(key, .table .header [])])
    | some (.table .passed inner) => some (put t key (.table .header inner))
    | some _ => none) path .header t

/-- A header `[[path.key]]`. -/
def openItem (t : TomlTable) (path : List String) (key : String) : Option TomlTable :=
  within .passed (fun _ t =>
    match node? t key with
    | none => some (t ++ [(key, .items [[]])])
    | some (.items tables) => some (put t key (.items ([] :: tables)))
    | some _ => none) path .header t

mutual

/-- The finished value of a node. -/
def finishNode : TomlNode → Toml
  | .value v => v
  | .table _ entries => .table (finishEntries entries)
  | .items tables => .array (finishTables tables).reverse

/-- The finished entries of a table. -/
def finishEntries : List (String × TomlNode) → List (String × Toml)
  | [] => []
  | (key, node) :: rest => (key, finishNode node) :: finishEntries rest

/-- The finished tables of an array. -/
def finishTables : List (List (String × TomlNode)) → List Toml
  | [] => []
  | t :: rest => .table (finishEntries t) :: finishTables rest

end

/-- The fields of a finished table. -/
def finish (t : TomlTable) : List (String × Toml) := finishEntries t

end TomlTable
end OrderDesk
