import PredicateSql.Text.Quoted
import PredicateSql.Yaml.Error

/-! Errors as causes. Each constructor names one way an operation fails, and `Error.message`
holds all the wording in one place. A cause can be wrapped in contexts (`within`), which put a
label in front of its message and leave its cause unchanged (`Error.cause`). -/
namespace PredicateSql

open Text

/-- The four node kinds of a predicate tree. -/
inductive NodeKind where
  | field | property | group | existential
  deriving DecidableEq, Repr

namespace NodeKind

/-- The name of the node's type, as type names are printed. -/
def typeName : NodeKind → String
  | field => "types.FieldPredicate"
  | property => "types.PropertyPredicate"
  | group => "types.PredicateGroup"
  | existential => "types.ExistsPredicate"

/-- How a node of this kind that points nowhere is described. -/
def nilText : NodeKind → String
  | field => "nil field predicate"
  | property => "nil property predicate"
  | group => "nil predicate group"
  | existential => "nil exists predicate"

end NodeKind

/-- Why an operator is refused. -/
inductive OperatorFault where
  /-- Not one of the six comparisons. -/
  | unknownComparison
  /-- A sequence operand is compared with something other than equality. -/
  | sequenceNeedsEq
  /-- A group joined by something other than AND or OR. -/
  | unknownJunction
  deriving DecidableEq, Repr

/-- The wording of an operator fault. -/
def OperatorFault.reason : OperatorFault → String
  | .unknownComparison => "unknown comparison operator"
  | .sequenceNeedsEq => "operator must be set to Eq for sequence operands"
  | .unknownJunction => "group operator must be AND or OR"

/-- Why a node of a predicate document is ill-formed. -/
inductive DocumentFault where
  | missing
  | notExactlyOne
  | fieldNames
  | propertyNames
  | existsEntity
  deriving DecidableEq, Repr

/-- The wording of a document fault. -/
def DocumentFault.reason : DocumentFault → String
  | .missing => "missing predicate"
  | .notExactlyOne => "expected exactly one of field, property, and, or, exists"
  | .fieldNames => "entity and property are required"
  | .propertyNames => "entity, property, entity2 and property2 are required"
  | .existsEntity => "entity is required"

/-- Why a predicate tree is malformed. -/
inductive PredicateFault where
  /-- No predicate where one is needed. -/
  | missing
  /-- A node reference of the given kind that points nowhere. -/
  | nilNode (kind : NodeKind)
  /-- A predicate of a type the renderer does not know. -/
  | unknownType (typeName : String)
  /-- A group with no children, met while rendering. -/
  | emptyGroup (junction : String)
  /-- A sequence operand with no elements. -/
  | emptySequence (entity property : String)
  /-- An exists node without an inner predicate. -/
  | noInner (entity : String)
  /-- A group built with no children. -/
  | noChildren (junction : String)
  /-- A group built with a missing child at the given position. -/
  | missingChild (junction : String) (index : Nat)
  /-- An attempt to negate a group. -/
  | negatedGroup (junction : String)
  /-- An attempt to negate something that is not a leaf or an exists node. -/
  | notNegatable (typeName : String)
  /-- An ill-formed node of a predicate document, at the given path. -/
  | document (path : String) (fault : DocumentFault)
  deriving DecidableEq, Repr

/-- The wording of a predicate fault. -/
def PredicateFault.reason : PredicateFault → String
  | .missing => "predicate is nil"
  | .nilNode k => k.nilText
  | .unknownType t => "unknown predicate type " ++ t
  | .emptyGroup j => j ++ " group has no predicates"
  | .emptySequence e p => "sequence operand for " ++ e ++ "." ++ p ++ " is empty"
  | .noInner e => "exists predicate on " ++ e ++ " has no inner predicate"
  | .noChildren j => j ++ " requires at least one predicate"
  | .missingChild j i => j ++ " predicate " ++ toString i ++ " is nil"
  | .negatedGroup j => j ++ " group cannot be negated"
  | .notNegatable t => "cannot negate " ++ t
  | .document p f => p ++ ": " ++ f.reason

/-- Why a property name or field accessor is refused. -/
inductive PropertyFault where
  | emptyName
  | notIdentifier
  | notRecord
  | noSuchField
  | notExported
  | autoMapNeedsRecord
  /-- The type given is not a record type; its printed name. -/
  | typeNotRecord (typeName : String)
  | accessorMissing
  | accessorPanicked (message : String)
  | notAnAddress
  | outsideArgument
  | embeddedField (field : String)
  | unexportedField (field : String)
  | notDirectField
  deriving DecidableEq, Repr

/-- The wording of a property fault. -/
def PropertyFault.reason : PropertyFault → String
  | .emptyName => "property name cannot be empty"
  | .notIdentifier => "property name must be a plain identifier"
  | .notRecord => "entity is not a struct type"
  | .noSuchField => "no such field"
  | .notExported => "field is not exported"
  | .autoMapNeedsRecord => "auto-mapping requires a struct type"
  | .typeNotRecord t => t ++ " is not a struct type"
  | .accessorMissing => "accessor is nil"
  | .accessorPanicked m => "accessor panicked: " ++ m
  | .notAnAddress => "accessor must return the address of a field"
  | .outsideArgument => "accessor must return the address of a field of the argument"
  | .embeddedField f => f ++ " is an embedded struct, not a property"
  | .unexportedField f => f ++ " is not exported"
  | .notDirectField => "accessor does not address a direct field"

/-- The place an error passed through, named in front of its message. -/
inductive Context where
  | register (entity : String)
  | autoMap (entity : String)
  | entry (index : Nat)
  | property (entity property : String)
  | mappings
  | predicate
  | path (path : String)
  | sort
  deriving DecidableEq, Repr

/-- The label a context puts in front of a message. -/
def Context.label : Context → String
  | .register e => "register " ++ e
  | .autoMap e => "auto-map " ++ e
  | .entry i => "entities[" ++ toString i ++ "]"
  | .property e p => e ++ "." ++ p
  | .mappings => "parse mappings"
  | .predicate => "parse predicate"
  | .path p => p
  | .sort => "invalid sort"

/-- The ways an operation of this library fails. -/
inductive Error where
  | mappingNotFound (entity : String)
  | unknownProperty (entity property : String)
  | invalidOperator (operator : String) (fault : OperatorFault)
  | invalidPredicate (fault : PredicateFault)
  /-- A refused property; the expression is empty when the fault is not about a name. -/
  | invalidProperty (entity expression : String) (fault : PropertyFault)
  | duplicateParameter (name : String)
  | alreadyRegistered
  | missingSink
  | missingMapper
  | missingProject
  | unknownOperator (text : String)
  | unknownJunction (text : String)
  | unknownKeyType (text : String)
  | unnamedEntity
  | emptyTable (entity : String)
  | blankColumn (entity property : String)
  | ignoredKey (entity property : String)
  | untypedAutoMap (entity : String)
  | nameRequired
  | yaml (e : Yaml.Error)
  | within (context : Context) (inner : Error)
  deriving DecidableEq, Repr

namespace Error

/-- The message of an error. -/
def message : Error → String
  | mappingNotFound e => "no mapping registered for entity " ++ quoted e
  | unknownProperty e p => "entity " ++ quoted e ++ " has no mapped property " ++ quoted p
  | invalidOperator o f => if o = "" then f.reason else f.reason ++ " (got " ++ o ++ ")"
  | invalidPredicate f => "invalid predicate: " ++ f.reason
  | invalidProperty e x f =>
    if x = "" then "invalid property expression on " ++ e ++ ": " ++ f.reason
    else "invalid property expression " ++ quoted x ++ " on " ++ e ++ ": " ++ f.reason
  | duplicateParameter n => "duplicate parameter: " ++ n
  | alreadyRegistered => "mapping already registered"
  | missingSink => "params cannot be nil"
  | missingMapper => "class mapper cannot be nil"
  | missingProject => "project cannot be nil"
  | unknownOperator s => "unknown operator " ++ quoted s
  | unknownJunction s => "unknown group operator " ++ quoted s
  | unknownKeyType s => "unknown key type " ++ quoted s
  | unnamedEntity => "entity name cannot be empty"
  | emptyTable e => e ++ ": table name cannot be empty"
  | blankColumn e p => e ++ "." ++ p ++ ": column name cannot be empty"
  | ignoredKey e p => e ++ "." ++ p ++ ": a key cannot be ignored"
  | untypedAutoMap e => e ++ ": auto-mapping requires a Go struct type"
  | nameRequired => "entity name is required"
  | yaml e => e.message
  | within c e => c.label ++ ": " ++ message e

/-- A reading failure of a document in a context. A failure that stops the program is not put in
the context, since nothing on the way names it. -/
def ofYaml (c : Context) : Yaml.Error → Error
  | .unhashable t => yaml (.unhashable t)
  | e => within c (yaml e)

/-- The error under all its contexts. -/
def cause : Error → Error
  | within _ e => cause e
  | e => e

/-- Whether an error stops the program instead of being returned. -/
def stopsProgram (e : Error) : Bool :=
  match e.cause with
  | yaml (.unhashable _) => true
  | _ => false

@[simp] theorem cause_within (c : Context) (e : Error) : (within c e).cause = e.cause := rfl

@[simp] theorem message_within (c : Context) (e : Error) :
    (within c e).message = c.label ++ ": " ++ e.message := rfl

end Error

example : (Error.invalidOperator "" .unknownComparison).message = "unknown comparison operator" := by
  decide
example : (Error.within (.register "A") .alreadyRegistered).message =
    "register A: mapping already registered" := by decide

end PredicateSql
