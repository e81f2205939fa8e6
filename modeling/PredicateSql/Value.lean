import PredicateSql.Time

/-! Operand values, sorted by the renderer into three classes: absent values render as a NULL test,
lists as an IN list of their elements, and everything else binds as one parameter. -/
namespace PredicateSql

/-- The integer types a value may carry. -/
inductive IntKind where
  | int | int8 | int16 | int32 | int64 | uint | uint8 | uint16 | uint32 | uint64
  deriving DecidableEq, Repr

/-- The name of an integer type. -/
def IntKind.name : IntKind → String
  | .int => "int"
  | .int8 => "int8"
  | .int16 => "int16"
  | .int32 => "int32"
  | .int64 => "int64"
  | .uint => "uint"
  | .uint8 => "uint8"
  | .uint16 => "uint16"
  | .uint32 => "uint32"
  | .uint64 => "uint64"

/-- Whether an integer type is unsigned. -/
def IntKind.unsigned : IntKind → Bool
  | .uint | .uint8 | .uint16 | .uint32 | .uint64 => true
  | _ => false

/-- The element type and length discipline of a list value. -/
inductive ListShape where
  /-- A list of values of any type. -/
  | dynamic
  /-- A list of values of any type whose length is part of its type. -/
  | fixed
  /-- A list of machine integers. -/
  | ints
  /-- A list of texts. -/
  | texts
  deriving DecidableEq, Repr

/-- An operand or parameter value. -/
inductive Value where
  /-- No value at all. -/
  | null
  | bool (b : Bool)
  | text (s : String)
  | int (kind : IntKind) (n : Int)
  | float (x : Float)
  | float32 (x : Float32)
  /-- A byte string. -/
  | bytes (b : List UInt8)
  /-- An absent byte string. -/
  | nullBytes
  /-- A byte array whose length is part of its type. -/
  | byteArray (b : List UInt8)
  /-- A 16-byte unique identifier. -/
  | uuid (b : List UInt8)
  | time (t : Time.Instant)
  /-- A list of texts that converts itself to one database value. -/
  | textRecord (items : List String)
  | list (shape : ListShape) (items : List Value)
  /-- An absent list of values of any type. -/
  | nullList
  /-- A reference to a value. -/
  | pointer (target : Value)
  /-- An absent reference to an integer. -/
  | nullPointer
  /-- A map from texts to values. -/
  | map (entries : List (String × Value))
  /-- An absent map from texts to values. -/
  | nullMap
  /-- A map whose keys are values of any type. -/
  | anyMap (entries : List (Value × Value))
  deriving Inhabited

/-- How an operand renders: a NULL test, an IN list of the given elements, or one parameter. -/
inductive Operand where
  | null
  | sequence (items : List Value)
  | scalar

namespace Value

/-- The class of an operand: absent values are NULL, lists of values are sequences, and all
else (byte strings, identifiers and self-converting lists included) is one scalar. -/
def classify : Value → Operand
  | null | nullPointer | nullBytes | nullList => .null
  | list _ items => .sequence items
  | _ => .scalar

/-- The printed name of a value's type. -/
def typeName : Value → String
  | null => "<nil>"
  | bool _ => "bool"
  | text _ => "string"
  | int k _ => k.name
  | float _ => "float64"
  | float32 _ => "float32"
  | bytes _ | nullBytes => "[]uint8"
  | byteArray b => "[" ++ toString b.length ++ "]uint8"
  | uuid _ => "uuid.UUID"
  | time _ => "time.Time"
  | textRecord _ => "main.StrList"
  | list .dynamic _ | nullList => "[]interface \x7b\x7d"
  | list .fixed items => "[" ++ toString items.length ++ "]interface \x7b\x7d"
  | list .ints _ => "[]int"
  | list .texts _ => "[]string"
  | pointer v => "*" ++ (match v with | null => "interface \x7b\x7d" | v => typeName v)
  | nullPointer => "*int"
  | map _ | nullMap => "map[string]interface \x7b\x7d"
  | anyMap _ => "map[interface \x7b\x7d]interface \x7b\x7d"

@[simp] theorem classify_list (s : ListShape) (items : List Value) :
    (list s items).classify = .sequence items := rfl

end Value

end PredicateSql
