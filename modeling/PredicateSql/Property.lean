import PredicateSql.Entity
import PredicateSql.Error
import PredicateSql.Sql.Identifier

/-! Which property names an entity accepts: plain identifiers without a record type, the names of
exported fields with one. A field accessor selects a property when, called on a zero record, it
hands back the address of an exported direct field that is not embedded. -/
namespace PredicateSql

/-- Checks that an entity has a property of the given name. -/
def Entity.checkProperty (e : Entity) (name : String) : Except Error Unit :=
  match e.record with
  | none =>
    if Identifier.isPlain name then .ok () else .error (.invalidProperty e.name name .notIdentifier)
  | some t =>
    if !t.isRecord then .error (.invalidProperty e.name name .notRecord)
    else
      match t.fieldByName? name with
      | none => .error (.invalidProperty e.name name .noSuchField)
      | some f => if f.exported then .ok () else .error (.invalidProperty e.name name .notExported)

/-- What an accessor hands back when called on a zero record. -/
inductive Target where
  /-- Something that is not a pointer, or nothing at all. -/
  | nothing
  /-- A pointer that points nowhere. -/
  | nullPointer
  /-- An address the given number of bytes from the start of the record, to a value of a type;
  a negative offset lies before the record. -/
  | address (offset : Int) (type : FieldType)
  /-- An address outside the record, to a value of a type. -/
  | elsewhere (type : FieldType)
  deriving DecidableEq, Repr

/-- A field accessor, by what calling it does. -/
inductive Accessor where
  /-- No function at all. -/
  | absent
  /-- The function fails with a message. -/
  | panics (message : String)
  /-- The function hands something back. -/
  | returns (target : Target)
  deriving DecidableEq, Repr

/-- The property an accessor selects on a type parameter. The type must be a record itself (not
a pointer to one), and the accessor must return the address of a direct field inside the record,
found by offset and type, that is neither embedded nor unexported. -/
def TypeArg.propertyName (t : TypeArg) (a : Accessor) : Except Error String :=
  let fail := fun (f : PropertyFault) => Except.error (Error.invalidProperty t.base.name "" f)
  match t.pointers, t.base.shape with
  | 0, .record fields size =>
    match a with
    | .absent => fail .accessorMissing
    | .panics m => fail (.accessorPanicked m)
    | .returns .nothing | .returns .nullPointer => fail .notAnAddress
    | .returns (.elsewhere _) => fail .outsideArgument
    | .returns (.address off ty) =>
      if 0 ≤ off && off < size then
        match fields.find? (fun f => f.depth == 0 && (f.offset : Int) == off && f.type == ty) with
        | none => fail .notDirectField
        | some f =>
          if f.embedded then fail (.embeddedField f.name)
          else if !f.exported then fail (.unexportedField f.name)
          else .ok f.name
      else fail .outsideArgument
  | _, _ => fail (.typeNotRecord t.typeName)

end PredicateSql
