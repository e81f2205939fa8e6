import Mathlib
import PredicateSql.Load.Schema
import PredicateSql.Proofs.Fluent
import PredicateSql.Proofs.Sink
import PredicateSql.Proofs.Validation
import PredicateSql.Proofs.WellFormed

/-! Importing a database schema. A schema imports when each table does, under distinct mapping
names, and the registry then binds each table's mapping, described by name: one property per
distinct column name, stored in the column of its name, with the keys its primary key gives. -/
namespace PredicateSql

/-! ### Mapping and setting keys -/

namespace Mapper

theorem fault_setKey (m : Mapper) (h : Option Nat) (k : KeyType) :
    (m.setKey h k).fault = m.fault := by
  unfold setKey modify
  split
  · rfl
  · split <;> rfl

theorem entity_setKey (m : Mapper) (h : Option Nat) (k : KeyType) :
    (m.setKey h k).entity = m.entity := by
  unfold setKey modify
  split
  · rfl
  · split <;> rfl

theorem fault_map_eq_none_iff (m : Mapper) (p : String) :
    (m.map p).1.fault = none ↔ m.fault = none ∧ (m.tryMap p).isOk = true := by
  unfold map
  cases ht : m.tryMap p with
  | ok r =>
    obtain ⟨m', i⟩ := r
    obtain ⟨ps, rfl⟩ := tryMap_eq_ok ht
    simp [Except.isOk, Except.toBool]
  | error e => cases hf : m.fault <;> simp [fail, hf, Except.isOk, Except.toBool]

theorem entity_map (m : Mapper) (p : String) : (m.map p).1.entity = m.entity := by
  unfold map
  cases ht : m.tryMap p with
  | ok r =>
    obtain ⟨m', i⟩ := r
    obtain ⟨ps, rfl⟩ := tryMap_eq_ok ht
    rfl
  | error e => cases hf : m.fault <;> simp [fail, hf]

theorem setKey_idxOf {m : Mapper} (hf : m.fault = none) {names : List String} (hd : names.Nodup)
    {n : String} (hn : n ∈ names) (f : String → ColumnMap) (k : KeyType) :
    ({ m with properties := names.map f }).setKey (some (names.idxOf n)) k =
      { m with properties := names.map fun x => if x = n then { f x with key := k } else f x } := by
  simp [setKey, hf, modify, modify_map_idxOf hd hn]

end Mapper

theorem Entity.mapsName_of_record_none {e : Entity} (he : e.record = none) (p : String) :
    e.mapsName p = Identifier.isPlain p := by
  unfold Entity.mapsName Entity.checkProperty
  rw [he]
  by_cases hp : p = ""
  · subst hp
    rfl
  · cases Identifier.isPlain p <;> simp [hp, Except.isOk, Except.toBool]

namespace SchemaTable

/-- The columns a table has, absent ones skipped. -/
def presentColumns (t : SchemaTable) : List SchemaColumn := t.columns.filterMap id

/-! ### The mapping of a table, by name -/

/-- The key kind the import gives the property of name `n`, for primary key names `pk` and columns
`cs`: a primary key name takes it from the last column of that name; without a primary key, the
name of the first column ending in `id` takes it from that column's type; any other name is no
key. -/
def importedKey (pk : List String) (cs : List SchemaColumn) (n : String) : KeyType :=
  if n ∈ pk then
    match cs.reverse.find? (·.name == n) with
    | some c => primaryKeyType c (pk.length > 1)
    | none => .notAKey
  else if pk = [] then
    match cs.find? (endsInId ·.name) with
    | some c => if c.name = n then columnKeyType c.typeName else .notAKey
    | none => .notAKey
  else .notAKey

/-- The property of a name after the import: stored in the column of its name, with its imported
key, shown. -/
def importedProperty (pk : List String) (cs : List SchemaColumn) (n : String) : ColumnMap :=
  ⟨n, n, importedKey pk cs n, false⟩

/-- The properties after the import: one per distinct column name, in first-occurrence order. -/
def importedProperties (pk : List String) (cs : List SchemaColumn) : List ColumnMap :=
  (cs.map (·.name)).eraseDups.map (importedProperty pk cs)

/-- The schema a table's mapping renders with: none for the default schema. -/
def mappedSchema (t : SchemaTable) : String := if t.schema = defaultSchema then "" else t.schema

/-- The mapping a table imports to. -/
def imported (t : SchemaTable) : TableMap :=
  ⟨.named t.entityName, t.mappedSchema, t.name, importedProperties t.primaryKeys t.presentColumns⟩

/-- A table imports when it and its mapping name are named and every column name is a plain
identifier. -/
def Imports (t : SchemaTable) : Prop :=
  t.entityName ≠ "" ∧ t.name ≠ "" ∧ ∀ c ∈ t.presentColumns, Identifier.isPlain c.name = true

instance (t : SchemaTable) : Decidable t.Imports := inferInstanceAs (Decidable (_ ∧ _ ∧ _))

section Keys

theorem isKey_columnKeyType (typeName : String) : (columnKeyType typeName).isKey = true := by
  unfold columnKeyType
  dsimp only
  split_ifs <;> rfl

theorem isKey_primaryKeyType (c : SchemaColumn) (composite : Bool) :
    (primaryKeyType c composite).isKey = true := by
  unfold primaryKeyType
  dsimp only
  split_ifs
  · rfl
  · rfl
  · exact isKey_columnKeyType _

variable {pk : List String} {cs : List SchemaColumn} {c : SchemaColumn} {n : String}

theorem importedKey_of_notMem (h : n ∉ cs.map (·.name)) : importedKey pk cs n = .notAKey := by
  have hr : cs.reverse.find? (·.name == n) = none := by
    rw [List.find?_eq_none]
    intro x hx he
    exact h (List.mem_map.2 ⟨x, List.mem_reverse.1 hx, beq_iff_eq.1 he⟩)
  unfold importedKey
  split_ifs
  · rw [hr]
  · cases hf : cs.find? (endsInId ·.name) with
    | none => rfl
    | some c' =>
      have hc' := List.mem_of_find?_eq_some hf
      have hne : c'.name ≠ n := fun he => h (List.mem_map.2 ⟨c', hc', he⟩)
      simp [hne]
  · rfl

theorem importedKey_append_of_ne (h : n ≠ c.name) :
    importedKey pk (cs ++ [c]) n = importedKey pk cs n := by
  have hc : (c.name == n) = false := beq_false_of_ne (Ne.symm h)
  unfold importedKey
  simp only [List.reverse_append, List.reverse_singleton, List.singleton_append, List.find?_cons,
    hc, List.find?_append]
  cases hf : cs.find? (endsInId ·.name) with
  | some c' => simp
  | none => by_cases hid : endsInId c.name = true <;> simp [hid, Ne.symm h]

theorem importedKey_append_of_mem (h : c.name ∈ pk) :
    importedKey pk (cs ++ [c]) c.name = primaryKeyType c (pk.length > 1) := by
  simp [importedKey, h]

theorem importedKey_append_first_id (hpk : pk = [])
    (hf : cs.find? (endsInId ·.name) = none) (hc : endsInId c.name = true) :
    importedKey pk (cs ++ [c]) c.name = columnKeyType c.typeName := by
  subst hpk
  simp [importedKey, List.find?_append, hf, hc]

theorem importedKey_append_self (hpk : c.name ∉ pk)
    (hid : ¬ (pk = [] ∧ cs.find? (endsInId ·.name) = none ∧
      endsInId c.name = true)) :
    importedKey pk (cs ++ [c]) c.name = importedKey pk cs c.name := by
  unfold importedKey
  simp only [hpk, if_false, List.find?_append]
  split_ifs with he
  · cases hf : cs.find? (endsInId ·.name) with
    | some c' => rfl
    | none =>
      have hc : endsInId c.name = false := by simpa [he, hf] using hid
      simp [hc]
  · rfl

/-- With a primary key, exactly the column names among the primary key names are keys. -/
theorem importedKey_isKey_iff (hpk : pk ≠ []) (hn : n ∈ cs.map (·.name)) :
    (importedKey pk cs n).isKey = true ↔ n ∈ pk := by
  by_cases hmem : n ∈ pk
  · -- the last column of the name gives it a key kind, and every such kind is a key
    obtain ⟨c, hc, rfl⟩ := List.mem_map.1 hn
    obtain ⟨c', hf⟩ : ∃ c', cs.reverse.find? (·.name == c.name) = some c' :=
      Option.isSome_iff_exists.1 (List.find?_isSome.2 ⟨c, List.mem_reverse.2 hc, by simp⟩)
    simp [importedKey, hmem, hf, isKey_primaryKeyType]
  · simp [importedKey, hmem, hpk]

end Keys

/-! ### The mapper of a table follows the description -/

/-- One column of the import: map its name, then make it a key when it is a primary key column,
or, without a primary key, the first column ending in `id`; the flag tells whether that column has
been met. -/
def importColumn (pk : List String) (acc : Mapper × Bool) (c : SchemaColumn) : Mapper × Bool :=
  let r := acc.1.map c.name
  if pk.contains c.name then (r.1.setKey r.2 (primaryKeyType c (pk.length > 1)), acc.2)
  else if pk.isEmpty && !acc.2 && endsInId c.name then
    (r.1.setKey r.2 (columnKeyType c.typeName), true)
  else (r.1, acc.2)

/-- The mapper of a table before its columns. -/
def startMapper (t : SchemaTable) : Mapper :=
  let m := (Mapper.named t.entityName).setTable t.name
  if t.schema != defaultSchema then m.setSchema t.schema else m

theorem mapper_eq (t : SchemaTable) :
    t.mapper = (t.presentColumns.foldl (importColumn t.primaryKeys) (t.startMapper, false)).1 :=
  rfl

theorem startMapper_entity_fault (t : SchemaTable) :
    t.startMapper.entity = .named t.entityName ∧
      (t.startMapper.fault = none ↔ t.entityName ≠ "" ∧ t.name ≠ "") := by
  unfold startMapper
  by_cases hn : t.entityName = "" <;> by_cases ht : t.name = "" <;> split_ifs <;>
    simp [Mapper.named, Mapper.setTable, Mapper.setSchema, Mapper.ofEntity, Mapper.fail, hn, ht]

theorem startMapper_eq {t : SchemaTable} (hn : t.entityName ≠ "") (ht : t.name ≠ "") :
    t.startMapper =
      { entity := .named t.entityName, schema := t.mappedSchema, table := t.name } := by
  unfold startMapper mappedSchema
  split_ifs <;> simp_all [Mapper.named, Mapper.setTable, Mapper.setSchema, Mapper.ofEntity]

/-- The state of the import after columns `cs`, from a mapper `m` without properties: the imported
properties, and whether a table without a primary key has met a column ending in `id`. -/
def importedState (m : Mapper) (pk : List String) (cs : List SchemaColumn) : Mapper × Bool :=
  ({ m with properties := importedProperties pk cs },
    pk.isEmpty && (cs.find? (endsInId ·.name)).isSome)

section Columns

variable {pk : List String} {cs : List SchemaColumn} {c : SchemaColumn} {m : Mapper}

theorem map_importedProperties (he : m.entity.record = none)
    (hc : Identifier.isPlain c.name = true) :
    ({ m with properties := importedProperties pk cs }).map c.name =
      ({ m with properties := ((cs ++ [c]).map (·.name)).eraseDups.map (importedProperty pk cs) },
        some (((cs ++ [c]).map (·.name)).eraseDups.idxOf c.name)) := by
  have ht := @Mapper.tryMap_of_properties { m with properties := importedProperties pk cs }
    (cs.map (·.name)).eraseDups (importedProperty pk cs) (fun _ => rfl) rfl c.name
    (by rw [Entity.mapsName_of_record_none he]; exact hc)
  unfold Mapper.map
  rw [ht, List.map_append, List.map_singleton, eraseDups_concat]
  by_cases hmem : c.name ∈ cs.map (·.name)
  · have hN : c.name ∈ (cs.map (·.name)).eraseDups := List.mem_eraseDups.2 hmem
    simp [hN, hmem, importedProperties]
  · have hN : c.name ∉ (cs.map (·.name)).eraseDups := fun h => hmem (List.mem_eraseDups.1 h)
    simp [hN, hmem, importedProperties, List.idxOf_append_of_notMem hN, importedProperty,
      Plan.fresh, importedKey_of_notMem hmem]

theorem importedProperties_append_setKey {k : KeyType}
    (hk : importedKey pk (cs ++ [c]) c.name = k) :
    importedProperties pk (cs ++ [c]) = ((cs ++ [c]).map (·.name)).eraseDups.map fun x =>
      if x = c.name then { importedProperty pk cs x with key := k }
      else importedProperty pk cs x := by
  unfold importedProperties
  refine List.map_congr_left fun x _ => ?_
  by_cases hx : x = c.name
  · subst hx
    simp [importedProperty, hk]
  · simp [hx, importedProperty, importedKey_append_of_ne hx]

theorem importedProperties_append_keep
    (hk : importedKey pk (cs ++ [c]) c.name = importedKey pk cs c.name) :
    importedProperties pk (cs ++ [c]) =
      ((cs ++ [c]).map (·.name)).eraseDups.map (importedProperty pk cs) := by
  unfold importedProperties
  refine List.map_congr_left fun x _ => ?_
  by_cases hx : x = c.name
  · subst hx
    simp [importedProperty, hk]
  · simp [importedProperty, importedKey_append_of_ne hx]

theorem importColumn_importedState (hf : m.fault = none) (he : m.entity.record = none)
    (hc : Identifier.isPlain c.name = true) :
    importColumn pk (importedState m pk cs) c = importedState m pk (cs ++ [c]) := by
  have hd := nodup_eraseDups ((cs ++ [c]).map (·.name))
  have hn : c.name ∈ ((cs ++ [c]).map (·.name)).eraseDups := List.mem_eraseDups.2 (by simp)
  unfold importColumn importedState
  simp only [map_importedProperties he hc]
  by_cases hpk : c.name ∈ pk
  · -- a primary key column sets the key of its name; the flag stays down
    have hcon : pk.contains c.name = true := List.contains_iff_mem.2 hpk
    have hne : pk.isEmpty = false := List.isEmpty_eq_false_iff.2 (List.ne_nil_of_mem hpk)
    simp only [hcon, if_true, hne, Bool.false_and]
    rw [Mapper.setKey_idxOf hf hd hn,
      importedProperties_append_setKey (importedKey_append_of_mem hpk)]
  · have hcon : pk.contains c.name = false := by simpa using hpk
    by_cases hid : pk = [] ∧ cs.find? (endsInId ·.name) = none ∧
        endsInId c.name = true
    · -- the first column ending in id, in a table without a primary key
      obtain ⟨rfl, hf', hc'⟩ := hid
      simp only [hcon, Bool.false_eq_true, if_false, List.isEmpty_nil, hf', Option.isSome_none,
        Bool.and_false, Bool.not_false, hc', Bool.and_self, if_true, Bool.true_and]
      rw [Mapper.setKey_idxOf hf hd hn,
        importedProperties_append_setKey (importedKey_append_first_id rfl hf' hc'),
        List.find?_append, hf', Option.none_or]
      simp [hc']
    · -- no key is set, and the flag is the same before and after
      have hflag : (pk.isEmpty &&
            !(pk.isEmpty && (cs.find? (endsInId ·.name)).isSome) &&
            endsInId c.name) = false ∧
          (pk.isEmpty && (cs.find? (endsInId ·.name)).isSome) =
            (pk.isEmpty && ((cs ++ [c]).find? (endsInId ·.name)).isSome) := by
        by_cases hp : pk = [] <;> cases hf' : cs.find? (endsInId ·.name) <;>
          cases hc' : endsInId c.name <;> simp_all [List.find?_append]
      simp only [hcon, Bool.false_eq_true, if_false, hflag.1]
      rw [importedProperties_append_keep (importedKey_append_self hpk hid), hflag.2]

/-- The import of columns with plain names, from a mapper without an error, properties or record
type, reaches the state after them. The induction adds one column at a time at the end, as the
fold takes them. -/
theorem foldl_importColumn (hf : m.fault = none) (he : m.entity.record = none)
    (hp : m.properties = []) :
    ∀ cs : List SchemaColumn, (∀ c ∈ cs, Identifier.isPlain c.name = true) →
      cs.foldl (importColumn pk) (m, false) = importedState m pk cs := by
  intro cs
  induction cs using List.reverseRecOn with
  | nil =>
    intro _
    simp only [List.foldl_nil, importedState, importedProperties, List.map_nil, List.eraseDups_nil,
      List.find?_nil, Option.isSome_none, Bool.and_false, ← hp]
  | append_singleton cs c ih =>
    intro hc
    rw [List.foldl_append, List.foldl_cons, List.foldl_nil,
      ih fun c' h => hc c' (List.mem_append_left _ h),
      importColumn_importedState hf he (hc c (List.mem_append_right _ List.mem_cons_self))]

theorem entity_importColumn (acc : Mapper × Bool) :
    (importColumn pk acc c).1.entity = acc.1.entity := by
  unfold importColumn
  dsimp only
  split_ifs <;> simp [Mapper.entity_setKey, Mapper.entity_map]

theorem fault_importColumn {acc : Mapper × Bool} (he : acc.1.entity.record = none) :
    (importColumn pk acc c).1.fault = none ↔
      acc.1.fault = none ∧ Identifier.isPlain c.name = true := by
  have h := acc.1.fault_map_eq_none_iff c.name
  rw [Mapper.tryMap_isOk, Entity.mapsName_of_record_none he] at h
  unfold importColumn
  dsimp only
  split_ifs <;> simp only [Mapper.fault_setKey, h]

theorem fault_foldl_importColumn :
    ∀ (cs : List SchemaColumn) (acc : Mapper × Bool), acc.1.entity.record = none →
      ((cs.foldl (importColumn pk) acc).1.fault = none ↔
        acc.1.fault = none ∧ ∀ c ∈ cs, Identifier.isPlain c.name = true)
  | [], acc, _ => by simp
  | c :: cs, acc, he => by
    have he' : (importColumn pk acc c).1.entity.record = none := by
      rw [entity_importColumn]
      exact he
    rw [List.foldl_cons, fault_foldl_importColumn cs _ he', fault_importColumn he]
    simp [and_assoc]

end Columns

/-- The mapper of a table builds exactly when the table imports, and then gives its mapping. -/
theorem build_mapper (t : SchemaTable) (tm : TableMap) :
    t.mapper.build = .ok tm ↔ t.Imports ∧ tm = t.imported := by
  have he : (t.startMapper, false).1.entity.record = none := by
    rw [(startMapper_entity_fault t).1]
    rfl
  rw [mapper_eq]
  by_cases hi : t.Imports
  · obtain ⟨hn, ht, hc⟩ := hi
    have hs := startMapper_eq hn ht
    rw [foldl_importColumn ((startMapper_entity_fault t).2.2 ⟨hn, ht⟩) he (by rw [hs]) _ hc, hs]
    -- no imported property is left out, so none is both left out and a key
    have hshown : (importedProperties t.primaryKeys t.presentColumns).find?
        (fun p => p.ignored && p.key.isKey) = none := by
      simp [importedProperties, importedProperty]
    have hb : ({ ({ entity := .named t.entityName, schema := t.mappedSchema, table := t.name } :
        Mapper) with properties := importedProperties t.primaryKeys t.presentColumns }).build =
          .ok t.imported := by
      simp [Mapper.build, ht, hshown, imported, pure, Except.pure, bind, Except.bind]
    simp only [importedState, hb, Except.ok.injEq]
    exact ⟨fun h => ⟨⟨hn, ht, hc⟩, h.symm⟩, fun h => h.2.symm⟩
  · -- an error was recorded, at the start or at a column
    obtain ⟨err, herr⟩ : ∃ err,
        (t.presentColumns.foldl (importColumn t.primaryKeys) (t.startMapper, false)).1.fault =
          some err := by
      cases h :
          (t.presentColumns.foldl (importColumn t.primaryKeys) (t.startMapper, false)).1.fault with
      | none =>
        obtain ⟨hs, hc⟩ := (fault_foldl_importColumn _ _ he).1 h
        obtain ⟨hn, ht⟩ := (startMapper_entity_fault t).2.1 hs
        exact absurd ⟨hn, ht, hc⟩ hi
      | some err => exact ⟨err, rfl⟩
    rw [Mapper.build_of_fault herr]
    simp [hi]

end SchemaTable

namespace Schema

/-- The tables of a schema, absent ones skipped. -/
def present (s : Schema) : List SchemaTable := s.tables.filterMap id

/-- The tables in the order they are registered: ascending mapping names. -/
def sortedTables (s : Schema) : List SchemaTable :=
  s.present.mergeSort fun a b => a.entityName ≤ b.entityName

/-- A schema imports when each of its tables does, under distinct mapping names. -/
def Imports (s : Schema) : Prop :=
  (∀ t ∈ s.present, t.Imports) ∧ (s.present.map SchemaTable.entityName).Nodup

theorem sortedTables_perm (s : Schema) : s.sortedTables.Perm s.present :=
  List.mergeSort_perm _ _

end Schema

namespace Registry

theorem ofSchema_some (s : Schema) (autoMap : Bool) :
    Registry.ofSchema (some s) autoMap =
      (Registry.empty autoMap).register (s.sortedTables.map fun t => some t.mapper) :=
  rfl

theorem forall₂_builds_mapper : ∀ (l : List SchemaTable) (ts : List TableMap),
    List.Forall₂ Builds (l.map fun t => some t.mapper) ts ↔
      (∀ t ∈ l, t.Imports) ∧ ts = l.map SchemaTable.imported
  | [], ts => by simp
  | t :: l, [] => by simp
  | t :: l, tm :: ts => by
    simp only [List.map_cons, List.forall₂_cons, builds_some, SchemaTable.build_mapper,
      forall₂_builds_mapper l ts, List.mem_cons, forall_eq_or_imp, List.cons.injEq]
    tauto

theorem maps_extend_imported (autoMap : Bool) (ts : List SchemaTable) :
    ((Registry.empty autoMap).extend (ts.map SchemaTable.imported)).maps =
      ts.map fun t => (t.entityName, t.imported) := by
  simp [extend, Registry.empty, Function.comp_def, SchemaTable.imported, Entity.named]

/-- A schema imports exactly when its registry is made, and the registry then binds each table's
mapping name to its mapping, in ascending order of mapping names. -/
theorem ofSchema_eq_ok (s : Schema) (autoMap : Bool) (r : Registry) :
    Registry.ofSchema (some s) autoMap = .ok r ↔
      s.Imports ∧
        r = (Registry.empty autoMap).extend (s.sortedTables.map SchemaTable.imported) := by
  have hperm := s.sortedTables_perm
  have hnames : (s.sortedTables.map SchemaTable.imported).map (·.entity.name) =
      s.sortedTables.map SchemaTable.entityName := by
    simp [Function.comp_def, SchemaTable.imported, Entity.named]
  rw [ofSchema_some, register_eq_ok]
  constructor
  · rintro ⟨ts, hb, hnd, -, rfl⟩
    obtain ⟨hi, rfl⟩ := (forall₂_builds_mapper _ _).1 hb
    rw [hnames] at hnd
    exact ⟨⟨fun t ht => hi t (hperm.mem_iff.2 ht), (hperm.map _).nodup_iff.1 hnd⟩, rfl⟩
  · rintro ⟨⟨hi, hnd⟩, rfl⟩
    refine ⟨_, (forall₂_builds_mapper _ _).2 ⟨fun t ht => hi t (hperm.mem_iff.1 ht), rfl⟩, ?_,
      fun _ _ => rfl, rfl⟩
    rw [hnames]
    exact (hperm.map _).nodup_iff.2 hnd

/-- The registry of a schema binds exactly the mapping names of its tables, each to the mapping
of its table. -/
theorem find?_ofSchema {s : Schema} {autoMap : Bool} {r : Registry}
    (h : Registry.ofSchema (some s) autoMap = .ok r) (n : String) (m : TableMap) :
    r.find? n = some m ↔ ∃ t ∈ s.present, t.entityName = n ∧ m = t.imported := by
  obtain ⟨⟨-, hnd⟩, rfl⟩ := (ofSchema_eq_ok s autoMap r).1 h
  have hperm := s.sortedTables_perm
  unfold find?
  rw [maps_extend_imported]
  constructor
  · intro hl
    obtain ⟨l₁, l₂, hsplit, -⟩ := List.lookup_eq_some_iff.1 hl
    obtain ⟨t, ht, he⟩ := List.mem_map.1 (hsplit ▸ List.mem_append_right l₁ List.mem_cons_self)
    obtain ⟨rfl, rfl⟩ := Prod.mk.inj he
    exact ⟨t, hperm.mem_iff.1 ht, rfl, rfl⟩
  · rintro ⟨t, ht, rfl, rfl⟩
    have hkeys : ((s.sortedTables.map fun t => (t.entityName, t.imported)).map (·.1)).Nodup := by
      simpa [Function.comp_def] using (hperm.map SchemaTable.entityName).nodup_iff.2 hnd
    exact lookup_of_mem hkeys (List.mem_map.2 ⟨t, hperm.mem_iff.2 ht, rfl⟩)

end Registry

namespace SchemaTable

theorem eq_imported_iff (t : SchemaTable) (m : TableMap) :
    m = t.imported ↔ m.entity = .named t.entityName ∧
      m.schema = (if t.schema = "public" then "" else t.schema) ∧ m.table = t.name ∧
      m.properties = (t.presentColumns.map (·.name)).eraseDups.map fun p =>
        ⟨p, p, importedKey t.primaryKeys t.presentColumns p, false⟩ := by
  constructor
  · rintro rfl
    exact ⟨rfl, rfl, rfl, rfl⟩
  · rintro ⟨he, hs, ht, hps⟩
    obtain ⟨e, sch, tab, ps⟩ := m
    dsimp only at he hs ht hps
    subst he hs ht hps
    rfl

end SchemaTable

/-- Importing a database schema. It succeeds exactly when every table present has a mapping name
and a table name that are not empty and only plain identifiers as column names, under pairwise
distinct mapping names. The registry made then keeps its choice of automatic mapping and binds
exactly the tables' mapping names, each to the mapping of its table: the named entity, the
table's schema unless it is the default one, the table's name, and one property per distinct
column name in first-occurrence order, stored in the column of its name, shown, and with the key
kind `importedKey` gives it. For a table with a primary key, the keys are exactly its columns
named in the key. -/
theorem schema_import_maps_each_table (s : Schema) (autoMap : Bool) :
    ((∃ r, Registry.ofSchema (some s) autoMap = .ok r) ↔
      (∀ t ∈ s.present, t.entityName ≠ "" ∧ t.name ≠ "" ∧
        ∀ c ∈ t.presentColumns, Identifier.isPlain c.name = true) ∧
      (s.present.map SchemaTable.entityName).Nodup) ∧
    ∀ r, Registry.ofSchema (some s) autoMap = .ok r →
      r.autoMap = autoMap ∧ (r.maps.map (·.1)).Perm (s.present.map SchemaTable.entityName) ∧
      (∀ n m, r.find? n = some m ↔ ∃ t ∈ s.present, t.entityName = n ∧
        m.entity = .named n ∧ m.schema = (if t.schema = "public" then "" else t.schema) ∧
        m.table = t.name ∧
        m.properties = (t.presentColumns.map (·.name)).eraseDups.map fun p =>
          ⟨p, p, SchemaTable.importedKey t.primaryKeys t.presentColumns p, false⟩) ∧
      ∀ t ∈ s.present, t.primaryKeys ≠ [] → ∀ p ∈ t.presentColumns.map (·.name),
        ((SchemaTable.importedKey t.primaryKeys t.presentColumns p).isKey = true ↔
          p ∈ t.primaryKeys) := by
  refine ⟨⟨fun ⟨r, h⟩ => ((Registry.ofSchema_eq_ok s autoMap r).1 h).1,
    fun hi => ⟨_, (Registry.ofSchema_eq_ok s autoMap _).2 ⟨hi, rfl⟩⟩⟩, fun r h => ?_⟩
  obtain ⟨-, rfl⟩ := (Registry.ofSchema_eq_ok s autoMap r).1 h
  refine ⟨rfl, ?_, fun n m => ?_, fun t _ hpk p hp => SchemaTable.importedKey_isKey_iff hpk hp⟩
  · rw [Registry.maps_extend_imported, List.map_map]
    exact s.sortedTables_perm.map _
  · rw [Registry.find?_ofSchema h]
    refine exists_congr fun t => and_congr_right fun _ => ?_
    constructor
    · rintro ⟨rfl, hm⟩
      exact ⟨rfl, (t.eq_imported_iff m).1 hm⟩
    · rintro ⟨rfl, hm⟩
      exact ⟨rfl, (t.eq_imported_iff m).2 hm⟩

/-- Two tables, one in the default schema with a primary key column and one in another schema
whose primary key comes from an index, import under the names `users` and `sales.orders`. -/
theorem schema_import_of_users_and_orders :
    let s : Schema := ⟨[some ⟨"users", "public", [some ⟨"id", "int", some ⟨true, false⟩⟩,
        some ⟨"email", "varchar(255)", none⟩], []⟩, none,
      some ⟨"orders", "sales", [some ⟨"order_id", "uuid", none⟩, some ⟨"user_id", "bigint", none⟩],
        [some ⟨true, [some "order_id"]⟩]⟩]⟩
    ∃ r, Registry.ofSchema (some s) true = .ok r ∧ r.autoMap = true ∧
      (r.maps.map (·.1)).Perm ["users", "sales.orders"] := by
  intro s
  obtain ⟨r, hr⟩ := (schema_import_maps_each_table s true).1.2 ⟨by decide, by decide⟩
  obtain ⟨ha, hp, -⟩ := (schema_import_maps_each_table s true).2 r hr
  have hn : s.present.map SchemaTable.entityName = ["users", "sales.orders"] := by decide
  exact ⟨r, hr, ha, hn ▸ hp⟩

end PredicateSql
