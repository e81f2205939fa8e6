import PredicateSql.Mapping.Auto
import PredicateSql.Property
import PredicateSql.Text.Blank

/-! Building a table mapping step by step. The first failed step records its error, every later
step leaves the mapper as it is, and building reports that error. Mapping a property returns a
handle through which its column, key kind and ignoring are set. -/
namespace PredicateSql

/-- A table mapping under construction. -/
structure Mapper where
  entity : Entity
  schema : String := ""
  table : String
  properties : List ColumnMap := []
  autoMap : Bool := false
  /-- The first error of a step, which stops all later steps. -/
  fault : Option Error := none
  deriving Inhabited

namespace Mapper

def ofEntity (e : Entity) : Mapper := { entity := e, table := e.name }

/-- A mapper for an entity known by name; the name must not be empty. -/
def named (name : String) : Mapper :=
  { ofEntity (Entity.named name) with fault := if name == "" then some .unnamedEntity else none }

/-- Records an error, unless one is recorded already. -/
def fail (m : Mapper) (e : Error) : Mapper :=
  match m.fault with
  | some _ => m
  | none => { m with fault := some e }

/-- Sets the schema; an empty one means the default schema. -/
def setSchema (m : Mapper) (s : String) : Mapper :=
  if m.fault.isSome then m else { m with schema := s }

/-- Sets the table, which must not be empty. -/
def setTable (m : Mapper) (t : String) : Mapper :=
  if m.fault.isSome then m
  else if t == "" then m.fail (.emptyTable m.entity.name)
  else { m with table := t }

/-- Maps a property and returns its position; the name must be one the entity has. Neither a
failure nor a recorded error changes the mapper. -/
def tryMap (m : Mapper) (p : String) : Except Error (Mapper × Nat) :=
  if p == "" then .error (.invalidProperty m.entity.name "" .emptyName)
  else
    match m.entity.checkProperty p with
    | .error e => .error e
    | .ok () =>
      match m.properties.findIdx? (·.name == p) with
      | some i => .ok (m, i)
      | none => .ok ({ m with properties := m.properties ++ [⟨p, p, .notAKey, false⟩] },
          m.properties.length)

/-- Maps a property and returns its position; a failure is recorded and gives no position. -/
def map (m : Mapper) (p : String) : Mapper × Option Nat :=
  match m.tryMap p with
  | .ok (m', i) => (m', some i)
  | .error e => (m.fail e, none)

/-- Changes the property at a position. -/
def modify (m : Mapper) (h : Option Nat) (f : ColumnMap → ColumnMap) : Mapper :=
  match h with
  | some i => { m with properties := m.properties.modify i f }
  | none => m

/-- The name of the property at a position. -/
def nameAt (m : Mapper) (h : Option Nat) : String :=
  match h with
  | some i => (m.properties[i]?.map (·.name)).getD ""
  | none => ""

/-- Sets the column of a mapped property; a blank column is an error. -/
def setColumn (m : Mapper) (h : Option Nat) (c : String) : Mapper :=
  if m.fault.isSome then m
  else if Text.isBlankText c then m.fail (.blankColumn m.entity.name (m.nameAt h))
  else m.modify h fun p => { p with column := c }

def setKey (m : Mapper) (h : Option Nat) (k : KeyType) : Mapper :=
  if m.fault.isSome then m else m.modify h fun p => { p with key := k }

def ignore (m : Mapper) (h : Option Nat) : Mapper :=
  if m.fault.isSome then m else m.modify h fun p => { p with ignored := true }

/-- Maps the remaining fields automatically when built; the entity needs a record type. -/
def withAutoMap (m : Mapper) : Mapper :=
  if m.fault.isSome then m
  else if m.entity.record.isNone then m.fail (.untypedAutoMap m.entity.name)
  else { m with autoMap := true }

/-- The table mapping: the recorded error if there is one; else the table must not be empty and
no property may be both a key and ignored; then the remaining fields are mapped if asked. -/
def build (m : Mapper) : Except Error TableMap :=
  match m.fault with
  | some e => .error e
  | none =>
    if m.table == "" then .error (.emptyTable m.entity.name)
    else
      match m.properties.find? (fun p => p.ignored && p.key.isKey) with
      | some p => .error (.ignoredKey m.entity.name p.name)
      | none => do
        let props ← if m.autoMap then autoMapProperties m.entity m.properties else pure m.properties
        pure ⟨m.entity, m.schema, m.table, props⟩

@[simp] theorem fail_of_fault (m : Mapper) (e e' : Error) (h : m.fault = some e') :
    m.fail e = m := by
  simp [fail, h]

end Mapper

end PredicateSql
