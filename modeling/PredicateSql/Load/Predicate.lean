import PredicateSql.Load.Mappings
import PredicateSql.Predicate.Build

/-! Predicate documents. Each node holds exactly one of `field`, `property`, `and`, `or` and
`exists`; an omitted operator is equality, and errors name the path of their node from `$`. -/
namespace PredicateSql

/-- A `field` node: an entity, a property, an operator, a value and negation. -/
structure FieldEntry where
  value : Value := .null
  entity : String := ""
  property : String := ""
  op : String := ""
  negated : Bool := false
  deriving Inhabited

/-- A `property` node: two entities and properties, an operator and negation. -/
structure ColumnEntry where
  entity : String := ""
  property : String := ""
  op : String := ""
  entity2 : String := ""
  property2 : String := ""
  negated : Bool := false
  deriving Inhabited

/-- A node of a predicate document; each part may be absent. -/
inductive PredicateEntry where
  | node (field : Option FieldEntry) (column : Option ColumnEntry)
      (conj disj : Option (List PredicateEntry))
      (existential : Option (String × Bool × Option PredicateEntry))
  deriving Inhabited

namespace PredicateEntry

def blank : PredicateEntry := .node none none none none none

open Yaml in
/-- Decodes a `field` node. -/
def decodeField (fuel : Nat) (n : Node) : DecodeM FieldEntry :=
  Decode.record fuel n "predql.fieldDoc" ["value", "entity", "property", "op", "not"] false {}
    fun f field v => match field with
      | "value" => return { f with value := ← Decode.value fuel v }
      | "entity" => return { f with entity := ← Decode.text v f.entity }
      | "property" => return { f with property := ← Decode.text v f.property }
      | "op" => return { f with op := ← Decode.text v f.op }
      | _ => return { f with negated := ← Decode.bool v f.negated }

open Yaml in
/-- Decodes a `property` node. -/
def decodeColumn (fuel : Nat) (n : Node) : DecodeM ColumnEntry :=
  Decode.record fuel n "predql.propertyDoc"
    ["entity", "property", "op", "entity2", "property2", "not"] false {}
    fun c field v => match field with
      | "entity" => return { c with entity := ← Decode.text v c.entity }
      | "property" => return { c with property := ← Decode.text v c.property }
      | "op" => return { c with op := ← Decode.text v c.op }
      | "entity2" => return { c with entity2 := ← Decode.text v c.entity2 }
      | "property2" => return { c with property2 := ← Decode.text v c.property2 }
      | _ => return { c with negated := ← Decode.bool v c.negated }

/-- The type of the optional target of a part of a node, as mismatches name it. -/
def optionalType : String → String
  | "field" => "*predql.fieldDoc"
  | "property" => "*predql.propertyDoc"
  | "and" | "or" => "*[]predql.predicateDoc"
  | _ => "*predql.existsDoc"

open Yaml in
/-- Decodes a node; a part given as null is absent. -/
def decode : Nat → Node → DecodeM PredicateEntry
  | 0, _ => Decode.fatal "document nesting exceeds the input"
  | fuel + 1, n =>
    Decode.record fuel n "predql.predicateDoc" ["field", "property", "and", "or", "exists"] false blank
      fun d field v => do
        if Decode.nullCollection v then
          Decode.refuse v (optionalType field)
          return d
        let absent := match v with
          | .scalar "!!null" _ _ => true
          | _ => false
        let .node f c a o e := d
        match field with
        | "field" =>
          if absent then return .node none c a o e
          return .node (some (← decodeField fuel v)) c a o e
        | "property" =>
          if absent then return .node f none a o e
          return .node f (some (← decodeColumn fuel v)) a o e
        | "and" | "or" =>
          let list ← if absent then pure none else do
            let xs ← EntityEntry.entries v "[]predql.predicateDoc" (decode fuel)
            pure (some xs)
          return if field == "and" then .node f c list o e else .node f c a list e
        | _ =>
          if absent then return .node f c a o none
          let x ← Decode.record fuel v "predql.existsDoc" ["where", "entity", "not"] false
            (("", false, none) : String × Bool × Option PredicateEntry)
            fun (entity, negated, inner) field w => do
              match field with
              | "where" =>
                match w with
                | .scalar "!!null" _ _ => return (entity, negated, none)
                | _ =>
                  if Decode.nullCollection w then
                    Decode.refuse w "*predql.predicateDoc"
                    return (entity, negated, inner)
                  return (entity, negated, some (← decode fuel w))
              | "entity" => return (← Decode.text w entity, negated, inner)
              | _ => return (entity, ← Decode.bool w negated, inner)
          return .node f c a o (some x)

/-- The operator of a node: equality when omitted, else one of the comparison spellings. -/
def operator (path op : String) : Except Error String :=
  if op == "" then .ok Comparison.eq.name
  else match Comparison.parse? op with
    | some c => .ok c.name
    | none => .error (.within (.path path) (.invalidOperator op .unknownComparison))

def refuse {α : Type} (path : String) (f : DocumentFault) : Except Error α :=
  .error (.invalidPredicate (.document path f))

/-- The predicate of a leaf node at its path: every one of its names must be given, else the node
is refused with the fault; then its operator is read, and the leaf built with its name. -/
def leafPredicate (names : List String) (fault : DocumentFault) (op : String)
    (leaf : String → Predicate) (path : String) : Except Error Predicate := do
  if names.contains "" then refuse path fault
  let op ← operator path op
  return leaf op

/-- The predicate of a `field` node at its path. -/
def fieldPredicate (f : FieldEntry) (path : String) : Except Error Predicate :=
  leafPredicate [f.entity, f.property] .fieldNames f.op
    (fun op => .field ⟨Entity.named f.entity, f.property, op, f.value, f.negated⟩) path

/-- The predicate of a `property` node at its path. -/
def columnPredicate (c : ColumnEntry) (path : String) : Except Error Predicate :=
  leafPredicate [c.entity, c.property, c.entity2, c.property2] .propertyNames c.op
    (fun op => .compare ⟨Entity.named c.entity, c.property, op, Entity.named c.entity2,
      c.property2, c.negated⟩) path

mutual

/-- The predicate of a node at a path: the node must set exactly one part, taken in the order
`field`, `property`, `and`, `or`, `exists`. -/
def nodePredicate : PredicateEntry → String → Except Error Predicate
  | .node f c a o e, path =>
    if [f.isSome, c.isSome, a.isSome, o.isSome, e.isSome].countP id != 1 then
      refuse path .notExactlyOne
    else match f, c, a, o, e with
      | some f, _, _, _, _ => fieldPredicate f (path ++ ".field")
      | none, some c, _, _, _ => columnPredicate c (path ++ ".property")
      | none, none, some xs, _, _ => do
        let children ← childPredicates (path ++ ".and") 0 xs
        (Predicate.join "AND" children).mapError (.within (.path (path ++ ".and")))
      | none, none, none, some xs, _ => do
        let children ← childPredicates (path ++ ".or") 0 xs
        (Predicate.join "OR" children).mapError (.within (.path (path ++ ".or")))
      | none, none, none, none, some (entity, negated, inner) =>
        if entity == "" then refuse (path ++ ".exists") .existsEntity
        else do
          let body ← toPredicate inner (path ++ ".exists.where")
          return .existential (Entity.named entity) body negated
      | none, none, none, none, none => refuse path .notExactlyOne

/-- The predicate of a node that may be absent, at a path. -/
def toPredicate : Option PredicateEntry → String → Except Error Predicate
  | none, path => refuse path .missing
  | some x, path => nodePredicate x path

/-- The predicates of the nodes of a list, each at its position under the path, from a position
on. -/
def childPredicates (path : String) : Nat → List PredicateEntry → Except Error (List Predicate)
  | _, [] => pure []
  | i, x :: xs => do
    let c ← nodePredicate x (path ++ "[" ++ toString i ++ "]")
    let cs ← childPredicates path (i + 1) xs
    pure (c :: cs)

end

end PredicateEntry

open Yaml in
/-- The predicate of a predicate document; an empty text has no root node. -/
def parsePredicate (text : String) : Except Error Predicate := do
  let fuel := text.length + 8
  let reading : Except Yaml.Error (Option PredicateEntry) := do
    match (parseDocument text).mapError Fault.toError with
    | .error e => throw e
    | .ok none => return none
    | .ok (some root) => some <$> Decode.run (Decode.document root (PredicateEntry.decode fuel))
  let entry ← reading.mapError (Error.ofYaml .predicate)
  PredicateEntry.nodePredicate (entry.getD PredicateEntry.blank) "$"

end PredicateSql
