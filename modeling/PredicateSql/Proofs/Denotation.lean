import PredicateSql.Proofs.Statement
import PredicateSql.Predicate
import PredicateSql.Mapping

/-! The meaning of a predicate tree over a database, with each entity in scope bound to a row of its
table. `Predicate.Scoped` says which entities a leaf may refer to, and `Predicate.Unshadowed` that
no existential node between a leaf and its entity ranges over another table of the same name. -/
namespace PredicateSql

open Sql

namespace Comparison

/-- The operator a comparison is written with: a negated one as its complement, LIKE as NOT LIKE. -/
def op : Comparison → Bool → Op
  | eq, false => .eq
  | eq, true => .ne
  | gt, false => .gt
  | gt, true => .le
  | ge, false => .ge
  | ge, true => .lt
  | lt, false => .lt
  | lt, true => .ge
  | le, false => .le
  | le, true => .gt
  | like, false => .like
  | like, true => .notLike

@[simp] theorem text_op (c : Comparison) (negated : Bool) : (c.op negated).text = c.token negated := by
  cases c <;> cases negated <;> rfl

theorem holds_op_true {D : Type} (dom : Domain D) (c : Comparison) (a b : D) :
    (c.op true).holds dom a b = !(c.op false).holds dom a b := by
  cases c <;> simp only [op, Op.holds] <;> cases dom.compare a b <;> rfl

end Comparison

/-- Whether a reference to an entity reaches it in a scope of entities, innermost first, when the
scope tells entities apart by the names of their tables: the innermost entity of the scope whose
table has the name of the entity's table is the entity itself. -/
def reaches (tableName : String → String) (scope : List String) (x : String) : Bool :=
  scope.find? (fun y => tableName y == tableName x) == some x

/-- A reference that reaches its entity finds, among the rows in scope keyed by table name, the row
its entity is bound to. -/
theorem lookup_tableName_of_reaches {β : Type} (f : String → String) {l : List (String × β)}
    {x : String} (h : reaches f (l.map Prod.fst) x) :
    (l.map fun p => (f p.1, p.2)).lookup (f x) = l.lookup x := by
  induction l with
  | nil => simp [reaches] at h
  | cons p l ih =>
    obtain ⟨y,b⟩ := p
    by_cases hy : f y = f x
    · -- the innermost entity with the table's name is the entity itself
      have hyx : y = x := by simpa [reaches, hy] using h
      subst hyx
      simp
    · have hyx : x ≠ y := fun e => hy (e ▸ rfl)
      have ht : f x ≠ f y := fun e => hy e.symm
      have hl : reaches f (l.map Prod.fst) x := by simpa [reaches, hy] using h
      simp only [List.map_cons, List.lookup_cons, beq_false_of_ne ht, beq_false_of_ne hyx]
      exact ih hl

namespace Predicate

section Denote

variable {D : Type} (db : Database D) (dom : Domain D) (conv : Value → Option D)
  (maps : String → Option TableMap)

/-- The cell of an entity's property in the row a scope binds the entity to. -/
def cellOf (ρ : List (String × Row D)) (e : Entity) (property : String) : Option D :=
  match ρ.lookup e.name, maps e.name with
  | some row, some m => (m.find? property).bind fun c => row.cell c.column
  | _, _ => none

/-- The rows of an entity's table. -/
def rowsOf (e : Entity) : List (Row D) :=
  match maps e.name with
  | some m => db.rows ⟨m.schema, m.table⟩
  | none => []

/-- A stored comparison applied to two cells; unknown for an operator that names no comparison. -/
def test (op : String) (a b : Option D) : Truth :=
  match Comparison.ofName? op with
  | some c => compareCells dom (c.op false) a b
  | none => .unknown

mutual

/-- The truth value of a tree in a scope binding entities to rows, innermost first. No tree at all
holds of every row. -/
def denote (ρ : List (String × Row D)) : Predicate → Truth
  | .absent => .true
  | .field t =>
    let v := cellOf maps ρ t.entity t.property
    Truth.negateIf t.negated <| match t.operand.classify with
      | .null => .ofBool v.isNone
      | .sequence items => .any (items.map fun x => compareCells dom .eq v (conv x))
      | .scalar => test dom t.operator v (conv t.operand)
  | .compare t =>
    Truth.negateIf t.negated
      (test dom t.operator (cellOf maps ρ t.entity t.property) (cellOf maps ρ t.entity2 t.property2))
  | .group j cs =>
    match Junction.ofKeyword? j with
    | some j => Truth.join j (denoteAll ρ cs)
    | none => .unknown
  | .existential e inner n =>
    Truth.negateIf n
      (.ofBool ((rowsOf db maps e).any fun row => denote ((e.name, row) :: ρ) inner == .true))
  | .ref t => denote ρ t
  | .nullRef _ | .foreign _ => .unknown

def denoteAll (ρ : List (String × Row D)) : List Predicate → List Truth
  | [] => []
  | c :: cs => denote ρ c :: denoteAll ρ cs

end

end Denote

mutual

/-- Whether every entity a leaf refers to passes a test against the entities in scope at the leaf,
innermost first: those of the enclosing existential nodes, then the given ones. -/
def refsAll (ok : List String → String → Bool) (scope : List String) : Predicate → Bool
  | .field t => ok scope t.entity.name
  | .compare t => ok scope t.entity.name && ok scope t.entity2.name
  | .group _ cs => refsAllChildren ok scope cs
  | .existential e inner _ => refsAll ok (e.name :: scope) inner
  | .ref t => refsAll ok scope t
  | .absent | .nullRef _ | .foreign _ => true

def refsAllChildren (ok : List String → String → Bool) (scope : List String) :
    List Predicate → Bool
  | [] => true
  | c :: cs => refsAll ok scope c && refsAllChildren ok scope cs

end

/-- Every entity a leaf refers to is in scope: an enclosing existential node's or the scope's. -/
def Scoped (scope : List String) (p : Predicate) : Bool := p.refsAll (fun sc x => sc.contains x) scope

/-- Every entity a leaf refers to is, of the entities in scope, the innermost with its table's
name. -/
def Unshadowed (tableName : String → String) (scope : List String) (p : Predicate) : Bool :=
  p.refsAll (reaches tableName) scope

end Predicate

end PredicateSql
