import PredicateSql.Entity
import PredicateSql.KeyType

/-! Resolved mappings. A `TableMap` ties an entity to a table (and an optional schema) and lists
its properties in declaration order, each with its column, key kind and whether it is left out
of selects. A property is looked up by its exact name; if two share a name, the later one wins. -/
namespace PredicateSql

/-- The mapping of one property to a column. -/
structure ColumnMap where
  name : String
  column : String
  key : KeyType := .notAKey
  ignored : Bool := false
  deriving DecidableEq, Repr, Inhabited

/-- The mapping of an entity to a table. -/
structure TableMap where
  entity : Entity
  schema : String
  table : String
  properties : List ColumnMap
  deriving DecidableEq, Repr, Inhabited

namespace TableMap

/-- The property of a name; the last one if several share it. -/
def find? (m : TableMap) (name : String) : Option ColumnMap :=
  m.properties.reverse.find? (·.name == name)

def keys (m : TableMap) : List ColumnMap := m.properties.filter (·.key.isKey)

end TableMap

end PredicateSql
