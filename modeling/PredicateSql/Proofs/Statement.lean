import PredicateSql.Operator
import PredicateSql.Sql.Identifier

/-! Statements as syntax: WHERE conditions and queries over one table, their text and their meaning
in SQL's three truth values. A column `[T].[c]` reads the innermost table in scope named `T`, as
SQL Server resolves it; LIKE is any fixed relation. -/
namespace PredicateSql.Sql

/-- SQL's three truth values. -/
inductive Truth where
  | true | false | unknown
  deriving DecidableEq, Repr

namespace Truth

def ofBool : Bool → Truth
  | .true => .true
  | .false => .false

def not : Truth → Truth
  | .true => .false
  | .false => .true
  | .unknown => .unknown

def and : Truth → Truth → Truth
  | .false, _ => .false
  | _, .false => .false
  | .true, .true => .true
  | _, _ => .unknown

def or : Truth → Truth → Truth
  | .true, _ => .true
  | _, .true => .true
  | .false, .false => .false
  | _, _ => .unknown

/-- The negation when the flag is set. -/
def negateIf (negated : Bool) (t : Truth) : Truth := if negated then t.not else t

/-- The conjunction of truth values, true of none. -/
def all (ts : List Truth) : Truth := ts.foldr Truth.and .true

/-- The disjunction of truth values, false of none. -/
def any (ts : List Truth) : Truth := ts.foldr Truth.or .false

/-- The truth values joined by a junction. -/
def join : Junction → List Truth → Truth
  | .and, ts => all ts
  | .or, ts => any ts

@[simp] theorem not_ofBool (b : Bool) : (ofBool b).not = ofBool !b := by cases b <;> rfl

@[simp] theorem negateIf_false (t : Truth) : negateIf Bool.false t = t := rfl

@[simp] theorem negateIf_true (t : Truth) : negateIf Bool.true t = t.not := rfl

end Truth

/-- The values a database compares: a three-way comparison, and the relation LIKE stands for. -/
structure Domain (D : Type) where
  compare : D → D → Ordering
  like : D → D → Bool

/-- The operators a comparison is written with. -/
inductive Op where
  | eq | ne | lt | le | gt | ge | like | notLike
  deriving DecidableEq, Repr

namespace Op

def text : Op → String
  | eq => "="
  | ne => "<>"
  | lt => "<"
  | le => "<="
  | gt => ">"
  | ge => ">="
  | like => "LIKE"
  | notLike => "NOT LIKE"

/-- Whether an operator holds of two values that are not NULL. -/
def holds {D : Type} (dom : Domain D) (op : Op) (a b : D) : Bool :=
  match op with
  | eq => (dom.compare a b).isEq
  | ne => (dom.compare a b).isNe
  | lt => (dom.compare a b).isLT
  | le => (dom.compare a b).isLE
  | gt => (dom.compare a b).isGT
  | ge => (dom.compare a b).isGE
  | like => dom.like a b
  | notLike => !dom.like a b

end Op

/-- A column qualified by the name of its table: `[table].[column]`. -/
structure ColumnRef where
  table : String
  column : String
  deriving DecidableEq, Repr

/-- A table in a FROM clause: `[schema].[table]`, or `[table]` without a schema. -/
structure TableRef where
  schema : String
  table : String
  deriving DecidableEq, Repr

def ColumnRef.text (c : ColumnRef) : String :=
  Identifier.quote c.table ++ "." ++ Identifier.quote c.column

def TableRef.text (t : TableRef) : String :=
  if t.schema == "" then Identifier.quote t.table
  else Identifier.quote t.schema ++ "." ++ Identifier.quote t.table

/-- The right side of a comparison: a parameter or a column. -/
inductive Term where
  | param (name : String)
  | column (c : ColumnRef)
  deriving DecidableEq, Repr

def Term.text : Term → String
  | param n => n
  | column c => c.text

/-- A condition of a WHERE clause. -/
inductive Cond where
  /-- `c IS NULL`, or `c IS NOT NULL`. -/
  | isNull (c : ColumnRef) (negated : Bool)
  /-- `c IN (@a, @b, ...)`, or `c NOT IN (...)`. -/
  | inList (c : ColumnRef) (negated : Bool) (params : List String)
  | compare (c : ColumnRef) (op : Op) (rhs : Term)
  | junction (j : Junction) (parts : List Cond)
  /-- `EXISTS (SELECT 1 FROM source WHERE body)`, or `NOT EXISTS (...)`. -/
  | subquery (negated : Bool) (source : TableRef) (body : Cond)
  deriving Repr

mutual

/-- The text a condition is written as, in parentheses. -/
def Cond.text : Cond → String
  | .isNull c n => "(" ++ c.text ++ if n then " IS NOT NULL)" else " IS NULL)"
  | .inList c n ps => "(" ++ c.text ++ (if n then " NOT IN (" else " IN (") ++ ", ".intercalate ps ++ "))"
  | .compare c op rhs => "(" ++ c.text ++ " " ++ op.text ++ " " ++ rhs.text ++ ")"
  | .junction j cs => "(" ++ (" " ++ j.keyword ++ " ").intercalate (Cond.texts cs) ++ ")"
  | .subquery n src body =>
    (if n then "(NOT EXISTS (SELECT 1 FROM " else "(EXISTS (SELECT 1 FROM ") ++ src.text ++ " WHERE " ++
      body.text ++ "))"

def Cond.texts : List Cond → List String
  | [] => []
  | c :: cs => c.text :: Cond.texts cs

end

/-- A row of a table: the cell of each column, `none` for NULL. -/
structure Row (D : Type) where
  cell : String → Option D

/-- A database: the rows of each table, as a bag in some order. -/
structure Database (D : Type) where
  rows : TableRef → List (Row D)

section Eval

variable {D : Type} (db : Database D) (dom : Domain D) (arg : String → Option D)

/-- The cell a column reference reads in an environment of the tables in scope, innermost first:
that of the first table of its name. -/
def ColumnRef.cell (env : List (String × Row D)) (c : ColumnRef) : Option D :=
  (env.lookup c.table).bind fun row => row.cell c.column

/-- The value of a term: a parameter's is the value bound to its name. -/
def Term.value (env : List (String × Row D)) : Term → Option D
  | .param n => arg n
  | .column c => c.cell env

/-- An operator applied to two cells: unknown when either is NULL. -/
def compareCells (op : Op) : Option D → Option D → Truth
  | some a, some b => .ofBool (op.holds dom a b)
  | _, _ => .unknown

mutual

/-- The truth value of a condition in an environment of the tables in scope, innermost first. A
sub-query brings its table into scope for its body and holds when some row makes the body true. -/
def Cond.eval (env : List (String × Row D)) : Cond → Truth
  | .isNull c n => Truth.negateIf n (.ofBool (c.cell env).isNone)
  | .inList c n ps => Truth.negateIf n (.any (ps.map fun p => compareCells dom .eq (c.cell env) (arg p)))
  | .compare c op rhs => compareCells dom op (c.cell env) (rhs.value arg env)
  | .junction j cs => Truth.join j (Cond.evals env cs)
  | .subquery n src body =>
    Truth.negateIf n (.ofBool ((db.rows src).any fun row => Cond.eval ((src.table, row) :: env) body == .true))

def Cond.evals (env : List (String × Row D)) : List Cond → List Truth
  | [] => []
  | c :: cs => Cond.eval env c :: Cond.evals env cs

end

end Eval

/-- A query over one table: the select list and any ORDER BY clause as written, which decide
neither which rows it reads nor how many, the table, and the condition of its WHERE clause. -/
structure Query where
  head : String
  source : TableRef
  filter : Option Cond
  tail : String

def Query.text (q : Query) : String :=
  q.head ++ " FROM " ++ q.source.text ++
    (match q.filter with | some c => " WHERE " ++ c.text | none => "") ++ q.tail

/-- The rows a query reads: those of its table on which its condition is true, in table order. -/
def Query.rows {D : Type} (db : Database D) (dom : Domain D) (arg : String → Option D) (q : Query) :
    List (Row D) :=
  (db.rows q.source).filter fun row =>
    match q.filter with
    | some c => c.eval db dom arg [(q.source.table, row)] == .true
    | none => true

end PredicateSql.Sql
