import PredicateSql.Value

/-! The parameter sink: named values in the order they were first bound. Binding a name again
replaces its value and keeps its place, so the names stay distinct and the size counts them. -/
namespace PredicateSql

/-- Named parameter values, in order of first binding. -/
structure Params where
  entries : List (String × Value) := []
  deriving Inhabited

namespace Params

def empty : Params := {}

def size (p : Params) : Nat := p.entries.length

def names (p : Params) : List String := p.entries.map (·.1)

def contains (p : Params) (name : String) : Bool := p.names.contains name

def get? (p : Params) (name : String) : Option Value := p.entries.lookup name

/-- Replaces the value of the first entry of a name. -/
def replace (name : String) (v : Value) : List (String × Value) → List (String × Value)
  | [] => []
  | (n, w) :: rest => if n == name then (n, v) :: rest else (n, w) :: replace name v rest

def set (p : Params) (name : String) (v : Value) : Params :=
  if p.contains name then ⟨replace name v p.entries⟩ else ⟨p.entries ++ [(name, v)]⟩

def namedArgs (p : Params) : List (String × Value) :=
  p.entries.map fun (n, v) => (match n.toList with | '@' :: r => String.ofList r | _ => n, v)

theorem names_replace (name : String) (v : Value) (es : List (String × Value)) :
    (replace name v es).map (·.1) = es.map (·.1) := by
  induction es with
  | nil => rfl
  | cons e rest ih =>
    obtain ⟨n, w⟩ := e
    by_cases h : n == name <;> simp [replace, h, ih]

@[simp] theorem names_set (p : Params) (name : String) (v : Value) :
    (p.set name v).names = if p.contains name then p.names else p.names ++ [name] := by
  unfold set names
  split <;> simp [names_replace]

end Params

end PredicateSql
