import PredicateSql.Yaml.Decode
import PredicateSql.Registry

/-! Mapping documents: a list of `entities`, each with a `name`, an optional `schema` and `table`,
and `properties` with a `name` and optional `column`, `key` and `ignore`. Unknown keys are refused,
only the first document counts, and all entities are registered together. -/
namespace PredicateSql

/-- A property as a mapping document lists it. -/
structure PropertyEntry where
  name : String := ""
  column : String := ""
  key : String := ""
  ignore : Bool := false
  deriving Inhabited

/-- An entity as a mapping document lists it. -/
structure EntityEntry where
  name : String := ""
  schema : String := ""
  table : String := ""
  properties : List PropertyEntry := []
  deriving Inhabited

namespace EntityEntry

open Yaml in
/-- Decodes the entries of a list; null items are left out. -/
def entries {α : Type} (n : Node) (typeName : String) (one : Node → DecodeM α) :
    DecodeM (List α) := do
  let items ← Decode.items n typeName
  items.filterMapM fun item => Decode.expand item fun item => do
    match item with
    | .scalar "!!null" _ _ => return none
    | _ => return some (← one item)

open Yaml in
/-- Decodes a property entry. -/
def decodeProperty (fuel : Nat) (n : Node) : DecodeM PropertyEntry :=
  Decode.record fuel n "predql.propertyConfig" ["name", "column", "key", "ignore"] true {}
    fun p field v => match field with
      | "name" => return { p with name := ← Decode.text v p.name }
      | "column" => return { p with column := ← Decode.text v p.column }
      | "key" => return { p with key := ← Decode.text v p.key }
      | _ => return { p with ignore := ← Decode.bool v p.ignore }

open Yaml in
/-- Decodes an entity entry. -/
def decode (fuel : Nat) (n : Node) : DecodeM EntityEntry :=
  Decode.record fuel n "predql.entityConfig" ["name", "schema", "table", "properties"] true {}
    fun e field v => match field with
      | "name" => return { e with name := ← Decode.text v e.name }
      | "schema" => return { e with schema := ← Decode.text v e.schema }
      | "table" => return { e with table := ← Decode.text v e.table }
      | _ => do
        let ps ← entries v "[]predql.propertyConfig" (decodeProperty fuel)
        return { e with properties := ps }

/-- Adds one listed property to a mapper: its key kind must be known, and an empty column or
a key kind of none changes nothing. -/
def addProperty (entity : String) (m : Mapper) (p : PropertyEntry) : Except Error Mapper := do
  let k ← (KeyType.parse p.key).mapError (.within (.property entity p.name))
  let (m, h) := m.map p.name
  let m := if p.column == "" then m else m.setColumn h p.column
  let m := if k.isKey then m.setKey h k else m
  return if p.ignore then m.ignore h else m

/-- The mapper of an entity entry: it needs a name, and the first failed step is its error. -/
def mapper (e : EntityEntry) : Except Error Mapper := do
  if e.name == "" then throw .nameRequired
  let m := (Mapper.named e.name).setSchema e.schema
  let m := if e.table == "" then m else m.setTable e.table
  let m ← e.properties.foldlM (addProperty e.name) m
  match m.fault with
  | some err => throw err
  | none => return m

end EntityEntry

open Yaml in
/-- The entity entries of a mapping document. -/
def readMappings (text : String) : Except Error (List EntityEntry) :=
  let reading : Except Yaml.Error (List EntityEntry) := do
    match (parseDocument text).mapError Fault.toError with
    | .error e => throw e
    | .ok none => return []
    | .ok (some root) =>
      let fuel := text.length + 8
      Decode.run (Decode.document root fun root =>
        Decode.record fuel root "predql.mappingFile" ["entities"] true [] fun _ _ v =>
          EntityEntry.entries v "[]predql.entityConfig" (EntityEntry.decode fuel))
  reading.mapError (Error.ofYaml .mappings)

/-- Mappers for entity entries, in order; the first that fails is reported with its place. -/
def mappersOf (entries : List EntityEntry) : Except Error (List Mapper) :=
  (entries.zip (List.range entries.length)).mapM fun (e, i) =>
    e.mapper.mapError (.within (.entry i))

/-- Registers the entities of a mapping document. -/
def Registry.loadMappings (r : Registry) (text : String) : Except Error Registry := do
  let ms ← mappersOf (← readMappings text)
  r.register (ms.map some)

end PredicateSql
