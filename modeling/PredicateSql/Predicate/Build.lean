import PredicateSql.Predicate
import PredicateSql.Property
import PredicateSql.Operator

/-! Checked construction of predicates. A leaf checks its property (and its accessor's) before its
operator; a group checks its junction and that it has children, none missing; negation flips a
leaf or an existential node and refuses the rest. -/
namespace PredicateSql

/-- Checks that a stored operator name is one of the six comparisons. -/
def checkComparison (op : String) : Except Error Unit :=
  if Comparison.isValid op then .ok () else .error (.invalidOperator op .unknownComparison)

namespace FieldTest

/-- A leaf comparing a property of a type's entity with an operand. -/
def ofProperty (t : TypeArg) (property op : String) (v : Value) : Except Error FieldTest := do
  (Entity.ofType t).checkProperty property
  checkComparison op
  pure ⟨Entity.ofType t, property, op, v, false⟩

/-- A leaf comparing the property an accessor selects with an operand. -/
def ofAccessor (t : TypeArg) (a : Accessor) (op : String) (v : Value) : Except Error FieldTest := do
  let p ← t.propertyName a
  ofProperty t p op v

end FieldTest

namespace ColumnTest

/-- A leaf comparing a property of one type's entity with a property of another's. -/
def ofProperties (t : TypeArg) (property op : String) (t2 : TypeArg) (property2 : String) :
    Except Error ColumnTest := do
  (Entity.ofType t).checkProperty property
  (Entity.ofType t2).checkProperty property2
  checkComparison op
  pure ⟨Entity.ofType t, property, op, Entity.ofType t2, property2, false⟩

/-- A leaf comparing the properties two accessors select. -/
def ofAccessors (t : TypeArg) (a : Accessor) (op : String) (t2 : TypeArg) (a2 : Accessor) :
    Except Error ColumnTest := do
  let p ← t.propertyName a
  let p2 ← t2.propertyName a2
  ofProperties t p op t2 p2

end ColumnTest

namespace Predicate

/-- The position of the first missing child. -/
def firstAbsent (children : List Predicate) : Option Nat :=
  children.findIdx? (·.isAbsent)

/-- A group of children: the junction must be `AND` or `OR`, and there must be children, none of
them missing. -/
def join (junction : String) (children : List Predicate) : Except Error Predicate :=
  if (Junction.ofKeyword? junction).isNone then .error (.invalidOperator junction .unknownJunction)
  else if children.isEmpty then .error (.invalidPredicate (.noChildren junction))
  else
    match firstAbsent children with
    | some i => .error (.invalidPredicate (.missingChild junction i))
    | none => .ok (group junction children)

/-- Some row of a type's entity satisfies the inner predicate, or none does when negated. -/
def existsOf (t : TypeArg) (inner : Predicate) (negated : Bool) : Predicate :=
  existential (Entity.ofType t) inner negated

/-- The negation of a leaf or an existential node; a group or anything else is refused. -/
def negate : Predicate → Except Error Predicate
  | field t => .ok (field { t with negated := !t.negated })
  | compare t => .ok (compare { t with negated := !t.negated })
  | existential e p n => .ok (existential e p !n)
  | group j _ => .error (.invalidPredicate (.negatedGroup j))
  | p => .error (.invalidPredicate (.notNegatable p.typeName))

end Predicate

namespace SortTerm

/-- An ordering term on a property of a type's entity. -/
def ofProperty (t : TypeArg) (property : String) (ascending : Bool) : Except Error SortTerm :=
  match (Entity.ofType t).checkProperty property with
  | .ok () => .ok ⟨property, ascending⟩
  | .error e => .error (.within .sort e)

/-- An ordering term on the property an accessor selects. -/
def ofAccessor (t : TypeArg) (a : Accessor) (ascending : Bool) : Except Error SortTerm :=
  match t.propertyName a with
  | .ok p => .ok ⟨p, ascending⟩
  | .error e => .error (.within .sort e)

end SortTerm

end PredicateSql
