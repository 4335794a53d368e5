import MeshAudit.Document.Value

/-!
# TOML tables

The tables of a text are put together from its lines. No key is given twice, and a table that has
been completed in one way is not added to in another.
-/

namespace MeshAudit.Toml

/-- How a table came about. -/
inductive Origin where
  /-- By a header of a table inside of it. -/
  | inner
  /-- By a key with several parts. -/
  | dotted
  /-- By its own header. -/
  | header
  deriving DecidableEq, Repr

/-- What a key of a table holds. -/
inductive Item where
  /-- A value that is not added to. -/
  | value (value : Value)
  /-- A table. -/
  | table (origin : Origin) (fields : List (String × Item))
  /-- Tables with headers of their own, last first. -/
  | tables (tables : List (List (String × Item)))

/-- The keys of a table with what they hold. -/
abbrev Table := List (String × Item)

namespace Table

/-- The table with another item under a key. -/
def replace (table : Table) (name : String) (item : Item) : Table :=
  (name, item) :: table.filter fun field => field.1 ≠ name

/-- Put a value under a key with several parts. Only tables that came about by such keys take a
value, and no table with a header is passed. -/
def put? (value : Value) : List String → Table → Option Table
  | [], _ => none
  | [name], table =>
    if (table.lookup name).isNone then some ((name, .value value) :: table) else none
  | name :: next :: path, table =>
    match table.lookup name with
    | none => do
      let inner ← put? value (next :: path) []
      some ((name, .table .dotted inner) :: table)
    | some (.table origin inner) =>
      if origin = .header ∨ (origin = .inner ∧ path.isEmpty) then none
      else do
        let inner ← put? value (next :: path) inner
        some (table.replace name (.table origin inner))
    | _ => none

/-- Change the table at a path. Missing tables on the way come about, and of several tables with one
name the last is meant. -/
def changeAt? (change : Table → Option Table) : List String → Table → Option Table
  | [], table => change table
  | name :: path, table =>
    match table.lookup name with
    | none => do
      let inner ← changeAt? change path []
      some ((name, .table .inner inner) :: table)
    | some (.table origin inner) => do
      let inner ← changeAt? change path inner
      some (table.replace name (.table origin inner))
    | some (.tables (last :: others)) => do
      let last ← changeAt? change path last
      some (table.replace name (.tables (last :: others)))
    | _ => none

/-- Begin a table under a name. It may have come about by tables inside of it. -/
def begin? (name : String) (table : Table) : Option Table :=
  match table.lookup name with
  | none => some ((name, .table .header []) :: table)
  | some (.table .inner inner) => some (table.replace name (.table .header inner))
  | _ => none

/-- Begin a further table of those with a name. -/
def beginNext? (name : String) (table : Table) : Option Table :=
  match table.lookup name with
  | none => some ((name, .tables [[]]) :: table)
  | some (.tables tables) => some (table.replace name (.tables ([] :: tables)))
  | _ => none

end Table

mutual

/-- The value of what a key holds. -/
def Item.toValue : Item → Value
  | .value v => v
  | .table _ fields => .ofFields (fieldValues fields)
  | .tables tables => .array (tableValues tables).reverse

/-- The values of all keys of a table. -/
def fieldValues : List (String × Item) → List (String × Value)
  | [] => []
  | (name, item) :: rest => (name, item.toValue) :: fieldValues rest

/-- The values of tables. -/
def tableValues : List (List (String × Item)) → List Value
  | [] => []
  | fields :: rest => .ofFields (fieldValues fields) :: tableValues rest

end

end MeshAudit.Toml
