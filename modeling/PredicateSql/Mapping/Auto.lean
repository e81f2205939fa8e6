import PredicateSql.Mapping
import PredicateSql.Error
import PredicateSql.Sql.Identifier
import PredicateSql.Text.Case

/-! Automatic mapping of a record type. Every exported visible field that does not embed a record
becomes a property of its name, unless one of that name, ignoring case, is already there; its tag
names the column or, as `-`, leaves it out of selects. The first field whose name ends in `id`
becomes the key unless one is mapped. -/
namespace PredicateSql

def sameNameIgnoringCase (a b : String) : Bool := Text.equalFold a b

/-- A name that ends in `id`, ignoring case. -/
def endsInId (name : String) : Bool :=
  match name.toList.reverse with
  | d :: i :: _ => i.toLower == 'i' && d.toLower == 'd'
  | _ => false

/-- The key kind of a field type, read through its pointers: identifiers are generated unique
identifiers, integers are generated in sequence, and anything else is assigned by the caller. -/
def keyTypeOf : FieldType → KeyType
  | .pointer elem => keyTypeOf elem
  | .uuid | .nullUuid => .guid
  | .bigInt | .integer .. => .identity
  | .other _ => .assigned

theorem isKey_keyTypeOf : ∀ t : FieldType, (keyTypeOf t).isKey = true
  | .pointer elem => isKey_keyTypeOf elem
  | .uuid | .nullUuid | .bigInt | .integer .. | .other _ => rfl

example : keyTypeOf (.pointer (.pointer (.integer .int32 "int32"))) = .identity ∧
    keyTypeOf (.pointer .nullUuid) = .guid ∧ keyTypeOf (.other "string") = .assigned := by decide

/-- The property a field maps to, and whether it became the key. -/
def fieldProperty (f : Field) (keyFound : Bool) : ColumnMap × Bool :=
  let ignored := f.tag == "-"
  let column := if f.tag != "" && f.tag != "-" && Identifier.isPlain f.tag then f.tag else f.name
  let isKey := !keyFound && !ignored && endsInId f.name
  (⟨f.name, column, if isKey then keyTypeOf f.type else .notAKey, ignored⟩, isKey)

/-- Adds the properties of the remaining fields to those mapped so far. -/
def addFields : List Field → List ColumnMap → Bool → List ColumnMap
  | [], acc, _ => acc
  | f :: fs, acc, keyFound =>
    if f.embedded || !f.exported || acc.any (sameNameIgnoringCase ·.name f.name) then
      addFields fs acc keyFound
    else
      let (p, isKey) := fieldProperty f keyFound
      addFields fs (acc ++ [p]) (keyFound || isKey)

/-- The properties of an entity after automatic mapping: the given ones, then one per field. -/
def autoMapProperties (e : Entity) (props : List ColumnMap) : Except Error (List ColumnMap) :=
  match e.record with
  | some t =>
    if t.isRecord then .ok (addFields t.fields props (props.any (·.key.isKey)))
    else .error (.invalidProperty e.name "" .autoMapNeedsRecord)
  | none => .error (.invalidProperty e.name "" .autoMapNeedsRecord)

theorem addFields_prefix (fs : List Field) (acc : List ColumnMap) (k : Bool) :
    acc <+: addFields fs acc k := by
  induction fs generalizing acc k with
  | nil => exact List.prefix_refl acc
  | cons f fs ih =>
    unfold addFields
    split
    · exact ih acc k
    · exact (List.prefix_append acc _).trans (ih _ _)

end PredicateSql
