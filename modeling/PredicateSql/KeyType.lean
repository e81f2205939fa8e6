import PredicateSql.Error

/-! Key kinds of a mapped property, stored as integer codes: 0 is no key, 1 a key the caller
assigns, 2 a key the database generates in sequence and 3 a generated unique identifier. Any
other code is kept as it is and printed with its number. -/
namespace PredicateSql

/-- The key kind of a property, by its code. -/
structure KeyType where
  code : Int
  deriving DecidableEq, Repr

namespace KeyType

/-- A plain column. -/
def notAKey : KeyType := ⟨0⟩
/-- A key the caller supplies. -/
def assigned : KeyType := ⟨1⟩
/-- A key the database generates in sequence. -/
def identity : KeyType := ⟨2⟩
def guid : KeyType := ⟨3⟩

/-- Every code but 0 marks a key. -/
def isKey (k : KeyType) : Bool := k.code != 0

/-- The name of a key kind; codes without a name print as `KeyType(n)`. -/
def name (k : KeyType) : String :=
  match k.code with
  | 0 => "NotAKey"
  | 1 => "Assigned"
  | 2 => "Identity"
  | 3 => "Guid"
  | n => "KeyType(" ++ toString n ++ ")"

/-- Reads a key kind as mapping files spell it; the empty text means no key. -/
def parse? : String → Option KeyType
  | "" | "none" | "notakey" | "NotAKey" => some notAKey
  | "assigned" | "Assigned" => some assigned
  | "identity" | "Identity" => some identity
  | "guid" | "Guid" | "uuid" => some guid
  | _ => none

/-- Reads a key kind, failing on any other spelling. -/
def parse (s : String) : Except Error KeyType :=
  match parse? s with
  | some k => .ok k
  | none => .error (.unknownKeyType s)

@[simp] theorem isKey_notAKey : notAKey.isKey = false := rfl

end KeyType

example : (KeyType.mk 7).name = "KeyType(7)" ∧ (KeyType.mk (-1)).name = "KeyType(-1)" := by decide
example : KeyType.parse? "uuid" = some .guid ∧ KeyType.parse? "GUID" = none := by decide

end PredicateSql
