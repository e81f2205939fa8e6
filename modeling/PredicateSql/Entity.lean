import PredicateSql.Record

/-! Entities: the logical names that predicates and mappings refer to. An entity may stand for
a record type, which allows mapping it automatically; lookups go by the name alone. -/
namespace PredicateSql

/-- A logical entity: its name, and the record type behind it if there is one. -/
structure Entity where
  name : String
  record : Option RecordType := none
  deriving DecidableEq, Repr, Inhabited

namespace Entity

/-- An entity known by name only. -/
def named (name : String) : Entity := ⟨name, none⟩

/-- The entity of a type parameter: pointers are followed, and the name is the type's own. -/
def ofType (t : TypeArg) : Entity := ⟨t.base.name, some t.base⟩

end Entity

end PredicateSql
