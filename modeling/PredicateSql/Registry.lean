import PredicateSql.Mapping.Builder
import PredicateSql.Sql.Render
import PredicateSql.Text.Case

/-! The registry of table mappings, by entity name. Registering binds a list of mappers all together
or not at all, and resolving an unbound entity maps its record type automatically when automatic
mapping is on. -/
namespace PredicateSql

/-- Table mappings by entity name, and whether entities are mapped automatically on first use. -/
structure Registry where
  autoMap : Bool := true
  maps : List (String × TableMap) := []
  deriving Inhabited

namespace Registry

def empty (autoMap : Bool := true) : Registry := { autoMap := autoMap }

/-- The mapping bound to a name. -/
def find? (r : Registry) (name : String) : Option TableMap := r.maps.lookup name

def entities (r : Registry) : List String := (r.maps.map (·.1)).mergeSort Text.byteLe

/-- Builds mappers in order, refusing a missing one, a failed build and a repeated name. -/
def buildAll : List (Option Mapper) → List TableMap → Except Error (List TableMap)
  | [], acc => .ok acc.reverse
  | none :: _, _ => .error .missingMapper
  | some m :: ms, acc =>
    match m.build with
    | .error e => .error (.within (.register m.entity.name) e)
    | .ok t =>
      if acc.any (·.entity.name == t.entity.name) then
        .error (.within (.register t.entity.name) .alreadyRegistered)
      else buildAll ms (t :: acc)

/-- Binds built mappings, all of them or none: the first whose name is bound already is refused.
This is the part of registering that holds the registry's lock. -/
def store (r : Registry) (built : List TableMap) : Except Error Registry :=
  match built.find? (fun t => (r.find? t.entity.name).isSome) with
  | some t => .error (.within (.register t.entity.name) .alreadyRegistered)
  | none => .ok { r with maps := r.maps ++ built.map fun t => (t.entity.name, t) }

/-- Registers mappers: all of them are bound, or none. -/
def register (r : Registry) (ms : List (Option Mapper)) : Except Error Registry := do
  r.store (← buildAll ms [])

/-- The part of resolving an unbound entity that holds the registry's lock: the name is looked up
again, and only if it is still unbound is the entity mapped automatically and bound. -/
def resolveLocked (r : Registry) (e : Entity) : Except Error TableMap × Registry :=
  match r.find? e.name with
  | some m => (.ok m, r)
  | none =>
    match (Mapper.ofEntity e).withAutoMap.build with
    | .ok m => (.ok m, { r with maps := r.maps ++ [(e.name, m)] })
    | .error err => (.error (.within (.autoMap e.name) err), r)

/-- The mapping of an entity, mapping it automatically and binding it when allowed. -/
def resolve (r : Registry) (e : Entity) : Except Error TableMap × Registry :=
  match r.find? e.name with
  | some m => (.ok m, r)
  | none =>
    if !r.autoMap || e.record.isNone then (.error (.mappingNotFound e.name), r)
    else r.resolveLocked e

def resolver : Resolver Registry := ⟨fun e r => r.resolve e⟩

/-- The column of an entity's property. -/
def columnName (r : Registry) (e : Entity) (property : String) : Except Error String × Registry :=
  match r.resolve e with
  | (.ok m, r') =>
    match m.find? property with
    | some p => (.ok p.column, r')
    | none => (.error (.unknownProperty e.name property), r')
  | (.error err, r') => (.error err, r')

/-- The problems of one mapping: no table; each property whose column, ignoring case, an earlier
property already uses; more than one identity key. -/
def problems (name : String) (m : TableMap) : List String :=
  let noTable := if m.table == "" then [name ++ ": no table name"] else []
  let step := fun (acc : List (String × String) × List String) (p : ColumnMap) =>
    let key := Text.lower p.column
    match acc.1.lookup key with
    | some prev =>
      (acc.1, acc.2 ++ [name ++ ": properties " ++ prev ++ " and " ++ p.name ++ " share column " ++ p.column])
    | none => (acc.1 ++ [(key, p.name)], acc.2)
  let shared := (m.properties.foldl step ([], [])).2
  let identities := (m.properties.filter (·.key == .identity)).length
  let tooMany :=
    if identities > 1 then
      [name ++ ": " ++ toString identities ++ " identity keys, at most one is allowed"]
    else []
  noTable ++ shared ++ tooMany

/-- The problems of all mappings, by ascending entity name. -/
def validate (r : Registry) : List String :=
  r.entities.flatMap fun n => match r.find? n with
    | some m => problems n m
    | none => []

end Registry

end PredicateSql
