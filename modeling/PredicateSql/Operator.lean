import PredicateSql.Error

/-! Comparison operators and junctions. A predicate keeps its operator as text and the renderer
decides what it accepts: the six lower-case comparison names and the junctions `AND` and `OR`.
A negated comparison renders as its complement, except LIKE, which gains a NOT. -/
namespace PredicateSql

/-- The six comparisons a leaf can make. -/
inductive Comparison where
  | eq | gt | ge | lt | le | like
  deriving DecidableEq, Repr

namespace Comparison

/-- The canonical name that a predicate stores. -/
def name : Comparison → String
  | eq => "eq"
  | gt => "gt"
  | ge => "ge"
  | lt => "lt"
  | le => "le"
  | like => "like"

/-- The comparison a stored name stands for; only the canonical names stand for one. -/
def ofName? : String → Option Comparison
  | "eq" => some eq
  | "gt" => some gt
  | "ge" => some ge
  | "lt" => some lt
  | "le" => some le
  | "like" => some like
  | _ => none

def isValid (s : String) : Bool := (ofName? s).isSome

/-- Reads a comparison as a user spells it: lower case, capitalised, upper case or a symbol. -/
def parse? : String → Option Comparison
  | "eq" | "Eq" | "EQ" | "=" => some eq
  | "gt" | "Gt" | "GT" | ">" => some gt
  | "ge" | "Ge" | "GE" | ">=" => some ge
  | "lt" | "Lt" | "LT" | "<" => some lt
  | "le" | "Le" | "LE" | "<=" => some le
  | "like" | "Like" | "LIKE" => some like
  | _ => none

/-- Reads a comparison, failing on any other spelling. -/
def parse (s : String) : Except Error Comparison :=
  match parse? s with
  | some c => .ok c
  | none => .error (.unknownOperator s)

/-- The SQL token of a comparison; a negated one renders as its complement, and LIKE as NOT LIKE. -/
def token : Comparison → Bool → String
  | eq, false => "="
  | eq, true => "<>"
  | gt, false => ">"
  | gt, true => "<="
  | ge, false => ">="
  | ge, true => "<"
  | lt, false => "<"
  | lt, true => ">="
  | le, false => "<="
  | le, true => ">"
  | like, false => "LIKE"
  | like, true => "NOT LIKE"

@[simp] theorem ofName?_name (c : Comparison) : ofName? c.name = some c := by
  cases c <;> rfl

@[simp] theorem parse?_name (c : Comparison) : parse? c.name = some c := by
  cases c <;> rfl

end Comparison

/-- The junction that joins the children of a group. -/
inductive Junction where
  | and | or
  deriving DecidableEq, Repr

namespace Junction

/-- The keyword of a junction, which is also the text a group stores. -/
def keyword : Junction → String
  | .and => "AND"
  | .or => "OR"

/-- The junction a stored keyword stands for; only the upper-case keywords stand for one. -/
def ofKeyword? : String → Option Junction
  | "AND" => some .and
  | "OR" => some .or
  | _ => none

/-- Reads a junction in lower case, capitalised or upper case. -/
def parse? : String → Option Junction
  | "and" | "And" | "AND" => some .and
  | "or" | "Or" | "OR" => some .or
  | _ => none

/-- Reads a junction, failing on any other spelling. -/
def parse (s : String) : Except Error Junction :=
  match parse? s with
  | some j => .ok j
  | none => .error (.unknownJunction s)

@[simp] theorem ofKeyword?_keyword (j : Junction) : ofKeyword? j.keyword = some j := by
  cases j <;> rfl

end Junction

example : Comparison.parse? ">=" = some .ge ∧ Comparison.ofName? "EQ" = none := by decide
example : Comparison.eq.token true = "<>" ∧ Comparison.like.token true = "NOT LIKE" := by decide

end PredicateSql
