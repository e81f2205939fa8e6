import PredicateSql.Entity
import PredicateSql.Value
import PredicateSql.Error

/-! Predicate trees: leaves comparing a property with an operand or with another property, groups
joining children by a junction, and existential nodes over an entity. A tree may also hold
references and predicates of kinds the renderer does not know. -/
namespace PredicateSql

/-- A comparison of an entity's property with an operand. -/
structure FieldTest where
  entity : Entity
  property : String
  operator : String
  operand : Value
  negated : Bool := false
  deriving Inhabited

/-- A comparison of one entity's property with another's. -/
structure ColumnTest where
  entity : Entity
  property : String
  operator : String
  entity2 : Entity
  property2 : String
  negated : Bool := false
  deriving Inhabited

/-- A predicate tree. -/
inductive Predicate where
  /-- No predicate at all. -/
  | absent
  | field (t : FieldTest)
  | compare (t : ColumnTest)
  /-- Children joined by the junction named by the text. -/
  | group (junction : String) (children : List Predicate)
  /-- Some row of the entity satisfies the inner predicate; none does, when negated. -/
  | existential (entity : Entity) (inner : Predicate) (negated : Bool)
  /-- A reference to a node. -/
  | ref (target : Predicate)
  /-- A reference of a node kind that points nowhere. -/
  | nullRef (kind : NodeKind)
  /-- A predicate of a kind the renderer does not know, by its type name. -/
  | foreign (typeName : String)
  deriving Inhabited

namespace Predicate

/-- The printed name of a predicate's type. -/
def typeName : Predicate → String
  | absent => "<nil>"
  | field _ => NodeKind.field.typeName
  | compare _ => NodeKind.property.typeName
  | group .. => NodeKind.group.typeName
  | existential .. => NodeKind.existential.typeName
  | ref t => "*" ++ typeName t
  | nullRef k => "*" ++ k.typeName
  | foreign n => n

/-- Whether a predicate is missing altogether. -/
def isAbsent : Predicate → Bool
  | absent => true
  | _ => false

end Predicate

/-- An ordering term: a property and a direction. -/
structure SortTerm where
  property : String
  ascending : Bool
  deriving DecidableEq, Repr

def SortTerm.direction (s : SortTerm) : String := if s.ascending then "ASC" else "DESC"

end PredicateSql
