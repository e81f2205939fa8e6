import PredicateSql.Predicate
import PredicateSql.Params
import PredicateSql.Mapping
import PredicateSql.Operator
import PredicateSql.Sql.Identifier

/-! Rendering predicate trees into SQL. Columns are written `[table].[column]`, operands bind under
`@Property_N` with `N` the size of the sink, nodes are checked in pre-order, and each entity is
resolved at most once a pass through a resolver with a state of its own. -/
namespace PredicateSql

/-- Looks the table mapping of an entity up, with some state it may change. -/
structure Resolver (σ : Type) where
  resolve : Entity → σ → Except Error TableMap × σ

def Resolver.empty : Resolver Unit := ⟨fun e u => (.error (.mappingNotFound e.name), u)⟩

/-- A resolver over fixed mappings, found by entity name; of two with one name the later wins. -/
def Resolver.fixed (maps : List TableMap) : Resolver Unit :=
  ⟨fun e u => match maps.reverse.find? (·.entity.name == e.name) with
    | some m => (.ok m, u)
    | none => (.error (.mappingNotFound e.name), u)⟩

/-- The state of one rendering pass: the resolver's state, the sink, and the mappings resolved so
far in this pass, by entity name. -/
structure Pass (σ : Type) where
  world : σ
  params : Params
  cache : List (String × TableMap) := []

/-- A step of a rendering pass. -/
abbrev RenderM (σ : Type) := EStateM Error (Pass σ)

namespace Render

variable {σ : Type}

/-- The mapping of an entity: from this pass's cache, or from the resolver, then cached. -/
def resolve (r : Resolver σ) (e : Entity) : RenderM σ TableMap := fun s =>
  match s.cache.lookup e.name with
  | some m => .ok m s
  | none =>
    match r.resolve e s.world with
    | (.ok m, w) => .ok m { s with world := w, cache := (e.name, m) :: s.cache }
    | (.error err, w) => .error err { s with world := w }

/-- Binds a value under the next name for a property and returns the name. -/
def bind (property : String) (v : Value) : RenderM σ String := fun s =>
  let name := "@" ++ property ++ "_" ++ toString s.params.size
  if s.params.contains name then .error (.duplicateParameter name) s
  else .ok name { s with params := s.params.set name v }

/-- A column of a mapping, written `[table].[column]`. -/
def columnText (m : TableMap) (column : String) : String :=
  Identifier.quote m.table ++ "." ++ Identifier.quote column

/-- The table of a mapping, written `[schema].[table]`, or `[table]` without a schema. -/
def tableText (m : TableMap) : String :=
  if m.schema == "" then Identifier.quote m.table
  else Identifier.quote m.schema ++ "." ++ Identifier.quote m.table

/-- The column of a property of a mapping. -/
def columnOf (m : TableMap) (property : String) : Except Error String :=
  match m.find? property with
  | some p => .ok p.column
  | none => .error (.unknownProperty m.entity.name property)

/-- The written column of an entity's property: the entity is resolved first. -/
def propertyColumn (r : Resolver σ) (e : Entity) (property : String) : RenderM σ String := do
  let m ← resolve r e
  let c ← liftExcept (columnOf m property)
  pure (columnText m c)
where
  liftExcept {α : Type} : Except Error α → RenderM σ α
    | .ok a => pure a
    | .error e => throw e

/-- The token of a stored operator name, refused when it is not a comparison. -/
def operatorToken (op : String) (negated : Bool) : RenderM σ String :=
  match Comparison.ofName? op with
  | some c => pure (c.token negated)
  | none => throw (.invalidOperator op .unknownComparison)

/-- Renders a leaf that compares a property with an operand. -/
def field (r : Resolver σ) (t : FieldTest) : RenderM σ String := do
  let col ← propertyColumn r t.entity t.property
  match t.operand.classify with
  | .null => pure ("(" ++ col ++ (if t.negated then " IS NOT NULL)" else " IS NULL)"))
  | .sequence items =>
    if t.operator != Comparison.eq.name then throw (.invalidOperator t.operator .sequenceNeedsEq)
    if items.isEmpty then throw (.invalidPredicate (.emptySequence t.entity.name t.property))
    let names ← items.mapM (bind t.property)
    pure ("(" ++ col ++ (if t.negated then " NOT IN (" else " IN (") ++ ", ".intercalate names ++ "))")
  | .scalar =>
    let tok ← operatorToken t.operator t.negated
    let n ← bind t.property t.operand
    pure ("(" ++ col ++ " " ++ tok ++ " " ++ n ++ ")")

/-- Renders a leaf that compares two properties. -/
def compare (r : Resolver σ) (t : ColumnTest) : RenderM σ String := do
  let left ← propertyColumn r t.entity t.property
  let right ← propertyColumn r t.entity2 t.property2
  let tok ← operatorToken t.operator t.negated
  pure ("(" ++ left ++ " " ++ tok ++ " " ++ right ++ ")")

mutual

/-- Renders a predicate tree. -/
def predicate (r : Resolver σ) : Predicate → RenderM σ String
  | .absent => throw (.invalidPredicate .missing)
  | .field t => field r t
  | .compare t => compare r t
  | .group j cs => do
    if (Junction.ofKeyword? j).isNone then throw (.invalidOperator j .unknownJunction)
    if cs.isEmpty then throw (.invalidPredicate (.emptyGroup j))
    let parts ← children r cs
    pure ("(" ++ (" " ++ j ++ " ").intercalate parts ++ ")")
  | .existential e inner n => do
    if inner.isAbsent then throw (.invalidPredicate (.noInner e.name))
    let m ← resolve r e
    let body ← predicate r inner
    pure ((if n then "(NOT EXISTS (SELECT 1 FROM " else "(EXISTS (SELECT 1 FROM ") ++
      tableText m ++ " WHERE " ++ body ++ "))")
  | .ref t =>
    match t with
    | .field t => field r t
    | .compare t => compare r t
    | .group j cs => predicate r (.group j cs)
    | .existential e inner n => predicate r (.existential e inner n)
    | other => throw (.invalidPredicate (.unknownType ("*" ++ other.typeName)))
  | .nullRef k => throw (.invalidPredicate (.nilNode k))
  | .foreign n => throw (.invalidPredicate (.unknownType n))

/-- Renders the children of a group, in order. -/
def children (r : Resolver σ) : List Predicate → RenderM σ (List String)
  | [] => pure []
  | p :: ps => do
    let s ← predicate r p
    let ss ← children r ps
    pure (s :: ss)

end

/-- Renders ordering terms on an entity's columns. -/
def orderBy (r : Resolver σ) (e : Entity) (sorts : List SortTerm) : RenderM σ String := do
  let m ← resolve r e
  let parts ← sorts.mapM fun s => do
    let c ← propertyColumn.liftExcept (columnOf m s.property)
    pure (columnText m c ++ " " ++ s.direction)
  pure (", ".intercalate parts)

/-- The select list of an entity: its columns that are not ignored, or `*` when there are none. -/
def selectList (m : TableMap) : String :=
  match (m.properties.filter (!·.ignored)).map (columnText m ·.column) with
  | [] => "*"
  | cols => ", ".intercalate cols

/-- The `WHERE` part for a predicate, empty when there is no predicate. -/
def whereClause (r : Resolver σ) (p : Predicate) : RenderM σ String :=
  if p.isAbsent then pure "" else do
    let s ← predicate r p
    pure (" WHERE " ++ s)

/-- A query of an entity's rows, filtered by a predicate and ordered by sorting terms. -/
def select (r : Resolver σ) (e : Entity) (p : Predicate) (sorts : List SortTerm) :
    RenderM σ String := do
  let m ← resolve r e
  let w ← whereClause r p
  let o ← if sorts.isEmpty then pure "" else do
    let s ← orderBy r e sorts
    pure (" ORDER BY " ++ s)
  pure ("SELECT " ++ selectList m ++ " FROM " ++ tableText m ++ w ++ o)

/-- A count of an entity's rows, filtered by a predicate. -/
def count (r : Resolver σ) (e : Entity) (p : Predicate) : RenderM σ String := do
  let m ← resolve r e
  let w ← whereClause r p
  pure ("SELECT COUNT(*) AS [Total] FROM " ++ tableText m ++ w)

end Render

/-- The outcome of a rendering pass: the text or the error, the sink and the resolver's state. -/
structure Rendered (σ : Type) where
  result : Except Error String
  params : Params
  world : σ

/-- Runs a rendering step as a pass of its own, with an empty cache. A missing sink is refused
before anything else. -/
def Render.run {σ : Type} (step : RenderM σ String) (sink : Option Params) (world : σ) :
    Rendered σ :=
  match sink with
  | none => ⟨.error .missingSink, {}, world⟩
  | some params =>
    match step.run ⟨world, params, []⟩ with
    | .ok s p => ⟨.ok s, p.params, p.world⟩
    | .error e p => ⟨.error e, p.params, p.world⟩

/-- Renders ordering terms as a pass of its own; no terms render as the empty text, without
resolving the entity. -/
def Render.orderByPass {σ : Type} (r : Resolver σ) (e : Entity) (sorts : List SortTerm)
    (world : σ) : Except Error String × σ :=
  if sorts.isEmpty then (.ok "", world)
  else
    let out := Render.run (Render.orderBy r e sorts) (some {}) world
    (out.result, out.world)

end PredicateSql
