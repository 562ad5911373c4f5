import Botik.Library.Dict
import Botik.Library.Text

/-!
# Statements that change a schema

Tables, indexes and views in one name space, as SQLite has them, and the statements with which the
migrations change them. Names are lower-case; triggers, and what a view selects, are left out.

## Main definitions

* `Column`, `Table`, `SchemaObject`, `Objects`
* `Statement` — `CREATE TABLE IF NOT EXISTS`, `CREATE INDEX IF NOT EXISTS`, `ALTER TABLE`
* `Statement.execute` — what SQLite does with one
-/

namespace Botik

/-- A column with its declaration. -/
structure Column where
  name : String
  declaration : String
  deriving DecidableEq, Repr

/-- A constraint of a table. -/
inductive TableConstraint
  | unique (columns : List String)
  | primaryKey (columns : List String)
  deriving DecidableEq, Repr

def TableConstraint.columns : TableConstraint → List String
  | .unique columns | .primaryKey columns => columns

/-- A table; a row has a value for every column, `none` where it is `NULL`. -/
structure Table where
  columns : List Column
  constraints : List TableConstraint
  rows : List (List (String × Option String))
  deriving DecidableEq, Repr

structure IndexedColumn where
  name : String
  descending : Bool
  deriving DecidableEq, Repr

def ascending (names : List String) : List IndexedColumn := names.map fun name => ⟨name, false⟩

inductive SchemaObject
  | table (table : Table)
  | index (table : String) (columns : List IndexedColumn)
  | view
  deriving DecidableEq, Repr

/-- An index over this column of this table. -/
def SchemaObject.indexes (table column : String) : SchemaObject → Bool
  | .index t columns => t = table ∧ column ∈ columns.map IndexedColumn.name
  | .table _ | .view => false

/-- The objects of a schema by their names. -/
abbrev Objects := Dict String SchemaObject

inductive Statement
  /-- `CREATE TABLE IF NOT EXISTS`. -/
  | createTable (name : String) (columns : List Column) (constraints : List TableConstraint)
  /-- `CREATE INDEX IF NOT EXISTS`. -/
  | createIndex (name table : String) (columns : List IndexedColumn)
  /-- `ALTER TABLE … DROP COLUMN`. -/
  | dropColumn (table column : String)
  /-- `ALTER TABLE … ADD COLUMN`. -/
  | addColumn (table : String) (column : Column)
  deriving DecidableEq, Repr

/-- Why a statement is refused. -/
inductive SqlError
  | nameTaken
  | noSuchTable
  | noSuchColumn
  | columnInUse
  | duplicateColumn
  | syntaxError
  deriving DecidableEq, Repr

namespace Table

def columnNames (t : Table) : List String := t.columns.map Column.name

/-- A column that is part of a key or constraint of its table or of an index. -/
def usesColumn (objs : Objects) (name : String) (t : Table) (column : Column) : Bool :=
  Text.contains "PRIMARY KEY" column.declaration || Text.contains "UNIQUE" column.declaration ||
    t.constraints.any (fun c => column.name ∈ c.columns) ||
    objs.entries.any fun e => e.2.indexes name column.name

/-- The table without a column. -/
def withoutColumn (t : Table) (column : String) : Table :=
  { t with
    columns := t.columns.filter fun c => c.name ≠ column
    rows := t.rows.map fun row => row.filter fun cell => cell.1 ≠ column }

/-- The table with a column more, `NULL` in every row. -/
def withColumn (t : Table) (column : Column) : Table :=
  { t with
    columns := t.columns ++ [column]
    rows := t.rows.map fun row => row ++ [(column.name, none)] }

end Table

/-- What SQLite does with a statement; before version 3.35 it could not drop a column. -/
def Statement.execute (dropsColumns : Bool) (objs : Objects) : Statement → Except SqlError Objects
  | .createTable name columns constraints =>
    match objs.get? name with
    | none => .ok (objs.set name (.table ⟨columns, constraints, []⟩))
    | some (.table _) | some .view => .ok objs
    | some (.index _ _) => .error .nameTaken
  | .createIndex name table columns =>
    match objs.get? table with
    | some (.table t) =>
      match objs.get? name with
      | some (.index _ _) => .ok objs
      | some _ => .error .nameTaken
      | none =>
        if ∀ c ∈ columns, c.name ∈ t.columnNames then .ok (objs.set name (.index table columns))
        else .error .noSuchColumn
    | _ => .error .noSuchTable
  | .dropColumn table column =>
    if dropsColumns then
      match objs.get? table with
      | some (.table t) =>
        match t.columns.find? fun c => c.name = column with
        | none => .error .noSuchColumn
        | some c =>
          if t.usesColumn objs table c ∨ t.columns.length ≤ 1 then .error .columnInUse
          else .ok (objs.set table (.table (t.withoutColumn column)))
      | _ => .error .noSuchTable
    else .error .syntaxError
  | .addColumn table column =>
    match objs.get? table with
    | some (.table t) =>
      if column.name ∈ t.columnNames then .error .duplicateColumn
      else .ok (objs.set table (.table (t.withColumn column)))
    | _ => .error .noSuchTable

end Botik
