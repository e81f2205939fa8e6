import PredicateSql.Registry
import PredicateSql.Text.Blank

/-! Registries from database schemas. Each table becomes a mapping named by the table, prefixed
with its schema unless that is `public`, and each column a property of its name. Primary key
columns become keys by their type; a table without one takes its first column ending in `id`. -/
namespace PredicateSql

/-- The settings of a column. -/
structure ColumnSettings where
  primaryKey : Bool := false
  increment : Bool := false
  deriving Inhabited

/-- A column: its name, its type as written, and its settings if it has any. -/
structure SchemaColumn where
  name : String
  typeName : String
  settings : Option ColumnSettings := none
  deriving Inhabited

/-- An index: whether it is the primary key, and its columns; an expression column has no name. -/
structure SchemaIndex where
  primaryKey : Bool
  columns : List (Option String)
  deriving Inhabited

/-- A table; absent columns and indexes are skipped. -/
structure SchemaTable where
  name : String
  schema : String
  columns : List (Option SchemaColumn)
  indexes : List (Option SchemaIndex)
  deriving Inhabited

/-- A schema: its tables, absent ones skipped. -/
structure Schema where
  tables : List (Option SchemaTable)
  deriving Inhabited

namespace SchemaTable

def defaultSchema : String := "public"

/-- The mapping name of a table: bare in the default schema, else `schema.table`. -/
def entityName (t : SchemaTable) : String :=
  if t.schema == "" || t.schema == defaultSchema then t.name else t.schema ++ "." ++ t.name

/-- The names of the primary key columns, each once. -/
def primaryKeys (t : SchemaTable) : List String :=
  let fromColumns := t.columns.filterMap fun c => c.bind fun c =>
    if (c.settings.map (·.primaryKey)).getD false then some c.name else none
  let fromIndexes := t.indexes.flatMap fun i => match i with
    | some i => if i.primaryKey then i.columns.filterMap id else []
    | none => []
  (fromColumns ++ fromIndexes).foldl (fun acc n => if acc.contains n then acc else acc ++ [n]) []

end SchemaTable

/-- The key kind of a column type: integer and serial types are identities, identifier types are
generated identifiers, anything else is assigned. The type is read without blanks around it,
without letter case and without a parenthesised size. -/
def columnKeyType (typeName : String) : KeyType :=
  let t := String.ofList ((typeName.toList.dropWhile Text.isBlank).reverse.dropWhile Text.isBlank).reverse
  let t := String.ofList ((Text.lower t).toList.takeWhile (· != '('))
  if ["int", "integer", "bigint", "smallint", "tinyint", "int2", "int4", "int8", "serial",
      "bigserial", "smallserial"].contains t then .identity
  else if ["uuid", "uniqueidentifier", "guid"].contains t then .guid
  else .assigned

/-- The key kind of a primary key column. -/
def primaryKeyType (c : SchemaColumn) (composite : Bool) : KeyType :=
  if (c.settings.map (·.increment)).getD false then .identity
  else
    let k := columnKeyType c.typeName
    if composite && k == .identity then .assigned else k

/-- The mapper of a table. -/
def SchemaTable.mapper (t : SchemaTable) : Mapper :=
  let m := (Mapper.named t.entityName).setTable t.name
  let m := if t.schema != SchemaTable.defaultSchema then m.setSchema t.schema else m
  let pk := t.primaryKeys
  let step := fun (acc : Mapper × Bool) (c : SchemaColumn) =>
    let (m, keyFound) := acc
    let (m, h) := m.map c.name
    if pk.contains c.name then (m.setKey h (primaryKeyType c (pk.length > 1)), keyFound)
    else if pk.isEmpty && !keyFound && endsInId c.name then
      (m.setKey h (columnKeyType c.typeName), true)
    else (m, keyFound)
  (t.columns.filterMap id |>.foldl step (m, false)).1

/-- A registry with one mapping per table of a schema. -/
def Registry.ofSchema (schema : Option Schema) (autoMap : Bool) : Except Error Registry :=
  match schema with
  | none => .error .missingProject
  | some s =>
    let tables := (s.tables.filterMap id).mergeSort fun a b => a.entityName ≤ b.entityName
    (Registry.empty autoMap).register (tables.map fun t => some t.mapper)

end PredicateSql
