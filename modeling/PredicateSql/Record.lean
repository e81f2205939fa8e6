import PredicateSql.Value
import PredicateSql.Text.Case

/-! Record types as mapping sees them: the visible fields in declaration order, each field of an
embedded record right after the embedding field and one level deeper. A field is exported when
its name starts with an upper-case letter of any script. -/
namespace PredicateSql

/-- The type of a field, as far as mapping tells types apart: a pointer to a type, the identifier
types `uuid.UUID` and `uuid.NullUUID`, the big integer type `big.Int`, a type whose kind is a
machine integer, or any other type. The last two are known by their printed names. -/
inductive FieldType where
  | pointer (elem : FieldType)
  | uuid
  | nullUuid
  | bigInt
  | integer (kind : IntKind) (name : String)
  | other (name : String)
  deriving DecidableEq, Repr

/-- A visible field of a record type. -/
structure Field where
  name : String
  type : FieldType
  /-- The database tag; empty when there is none. -/
  tag : String := ""
  /-- Bytes from the start of the record. -/
  offset : Nat
  /-- 0 for a direct field; promoted fields of an embedded record are one deeper. -/
  depth : Nat := 0
  /-- The field embeds a record whose fields are promoted. -/
  embedded : Bool := false
  deriving DecidableEq, Repr

/-- A field is exported when its name starts with an upper-case letter. -/
def Field.exported (f : Field) : Bool :=
  match f.name.toList with
  | c :: _ => Text.isUpperLetter c
  | [] => false

/-- The layout of a type: a record with its visible fields and byte size, or no record at all. -/
inductive Shape where
  | record (fields : List Field) (size : Nat)
  | other
  deriving DecidableEq, Repr

/-- A named type: its bare name, its printed name and its shape. -/
structure RecordType where
  name : String
  qualified : String
  shape : Shape
  deriving DecidableEq, Repr

namespace RecordType

/-- The visible fields; none for a type that is not a record. -/
def fields (t : RecordType) : List Field :=
  match t.shape with
  | .record fs _ => fs
  | .other => []

/-- Whether the type is a record. -/
def isRecord (t : RecordType) : Bool :=
  match t.shape with
  | .record .. => true
  | .other => false

/-- The field a name selects: among the visible fields of that name, the one at the shallowest
depth, provided no other field of that name is as shallow. -/
def fieldByName? (t : RecordType) (name : String) : Option Field :=
  let named := t.fields.filter (·.name == name)
  match named.map (·.depth) |>.min? with
  | none => none
  | some d =>
    match named.filter (·.depth == d) with
    | [f] => some f
    | _ => none

end RecordType

/-- A type given as a parameter: a named type behind some number of pointers. -/
structure TypeArg where
  base : RecordType
  pointers : Nat := 0
  deriving DecidableEq, Repr

/-- The printed name of a type parameter, a `*` for each pointer. -/
def TypeArg.typeName (t : TypeArg) : String :=
  String.ofList (List.replicate t.pointers '*') ++ t.base.qualified

end PredicateSql
