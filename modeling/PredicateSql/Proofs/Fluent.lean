import Mathlib
import PredicateSql.Mapping.Builder

/-! The fluent mapping interface keeps its first error. The first call that fails on a mapper without
an error records it, and later calls other than mapping leave the mapper alone. Without an error,
the built mapping follows the calls made: the names mapped in first-call order, each with what was
last set through its handle, then what automatic mapping adds. -/
namespace PredicateSql

/-! ### Calls and their runs -/

/-- A call of the fluent mapping interface. A property call acts through a handle that an earlier
mapping call handed back, named by its number among the mapping calls. -/
inductive FluentCall where
  | schema (s : String)
  | table (t : String)
  | map (p : String)
  | tryMap (p : String)
  | autoMap
  | logger
  | column (handle : Nat) (c : String)
  | key (handle : Nat) (k : KeyType)
  | ignore (handle : Nat)
  deriving DecidableEq, Repr

/-- A mapper under calls, with the handles its mapping calls handed back, in call order: the
position of the property a handle points to, or none after a failed mapping call. -/
structure FluentState where
  mapper : Mapper
  handles : List (Option Nat) := []

namespace FluentCall

/-- Whether a call maps a property; every other call sets something. -/
def isMapping : FluentCall → Bool
  | .map _ | .tryMap _ => true
  | _ => false

/-- A property call through handle `j`: on the property it points to, and no call at all for a
handle a failed mapping call handed back (a detached handle, whose owner has recorded the failure,
or none at all) or that no mapping call handed back. -/
def onHandle (s : FluentState) (j : Nat) (f : Option Nat → Mapper) : Mapper :=
  match s.handles[j]? with
  | some (some i) => f (some i)
  | _ => s.mapper

/-- The state after a call. The logger only changes where messages go. -/
def step (s : FluentState) : FluentCall → FluentState
  | .schema x => { s with mapper := s.mapper.setSchema x }
  | .table t => { s with mapper := s.mapper.setTable t }
  | .map p => ⟨(s.mapper.map p).1, s.handles ++ [(s.mapper.map p).2]⟩
  | .tryMap p =>
    match s.mapper.tryMap p with
    | .ok (m, i) => ⟨m, s.handles ++ [some i]⟩
    | .error _ => { s with handles := s.handles ++ [none] }
  | .autoMap => { s with mapper := s.mapper.withAutoMap }
  | .logger => s
  | .column j c => { s with mapper := onHandle s j fun h => s.mapper.setColumn h c }
  | .key j k => { s with mapper := onHandle s j fun h => s.mapper.setKey h k }
  | .ignore j => { s with mapper := onHandle s j fun h => s.mapper.ignore h }

/-- The state after calls in order. -/
def run (s : FluentState) (cs : List FluentCall) : FluentState := cs.foldl step s

@[simp] theorem run_nil (s : FluentState) : run s [] = s := rfl

theorem run_cons (s : FluentState) (c : FluentCall) (cs : List FluentCall) :
    run s (c :: cs) = run (step s c) cs := rfl

theorem run_append (s : FluentState) (cs cs' : List FluentCall) :
    run s (cs ++ cs') = run (run s cs) cs' :=
  List.foldl_append

/-- The error a call records on a mapper that has none: an empty table; a mapped name the entity
refuses, with the error mapping it returns; a blank column through a handle to a property, naming
that property; automatic mapping for an entity without a record type. -/
inductive Records : FluentState → FluentCall → Error → Prop
  | table (s : FluentState) : Records s (.table "") (.emptyTable s.mapper.entity.name)
  | map (s : FluentState) (p : String) (err : Error) :
      s.mapper.tryMap p = .error err → Records s (.map p) err
  | column (s : FluentState) (j i : Nat) (c : String) :
      s.handles[j]? = some (some i) → Text.isBlankText c = true →
      Records s (.column j c) (.blankColumn s.mapper.entity.name (s.mapper.nameAt (some i)))
  | autoMap (s : FluentState) :
      s.mapper.entity.record = none → Records s .autoMap (.untypedAutoMap s.mapper.entity.name)

end FluentCall

/-! ### A mapper with an error -/

namespace Mapper

variable {m : Mapper} {err : Error}

theorem build_of_fault (h : m.fault = some err) : m.build = .error err := by
  simp [build, h]

theorem setSchema_of_fault (h : m.fault = some err) (x : String) : m.setSchema x = m := by
  simp [setSchema, h]

theorem setTable_of_fault (h : m.fault = some err) (t : String) : m.setTable t = m := by
  simp [setTable, h]

theorem withAutoMap_of_fault (h : m.fault = some err) : m.withAutoMap = m := by
  simp [withAutoMap, h]

theorem setColumn_of_fault (h : m.fault = some err) (hd : Option Nat) (c : String) :
    m.setColumn hd c = m := by
  simp [setColumn, h]

theorem setKey_of_fault (h : m.fault = some err) (hd : Option Nat) (k : KeyType) :
    m.setKey hd k = m := by
  simp [setKey, h]

theorem ignore_of_fault (h : m.fault = some err) (hd : Option Nat) : m.ignore hd = m := by
  simp [ignore, h]

theorem tryMap_eq_ok {p : String} {m' : Mapper} {i : Nat} (h : m.tryMap p = .ok (m', i)) :
    ∃ ps, m' = { m with properties := ps } := by
  unfold tryMap at h
  split at h
  · cases h
  · split at h
    · cases h
    · split at h <;> cases h <;> exact ⟨_, rfl⟩

/-! What each operation does to the recorded error of a mapper without one. -/

section Faults

variable (h : m.fault = none)
include h

theorem setSchema_fault (x : String) : (m.setSchema x).fault = none := by
  simp [setSchema, h]

theorem setTable_fault (t : String) :
    (m.setTable t).fault = if t = "" then some (.emptyTable m.entity.name) else none := by
  by_cases ht : t = "" <;> simp [setTable, fail, h, ht]

theorem map_fault_of_ok {p : String} {r : Mapper × Nat} (ht : m.tryMap p = .ok r) :
    (m.map p).1.fault = none := by
  obtain ⟨ps, hps⟩ := tryMap_eq_ok ht
  simp [map, ht, hps, h]

theorem map_fault_of_error {p : String} {e : Error} (ht : m.tryMap p = .error e) :
    (m.map p).1.fault = some e := by
  simp [map, ht, fail, h]

theorem withAutoMap_fault :
    m.withAutoMap.fault = if m.entity.record = none then some (.untypedAutoMap m.entity.name)
      else none := by
  cases hr : m.entity.record <;> simp [withAutoMap, fail, h, hr]

theorem setColumn_fault (hd : Option Nat) (c : String) :
    (m.setColumn hd c).fault =
      if Text.isBlankText c then some (.blankColumn m.entity.name (m.nameAt hd)) else none := by
  by_cases hc : Text.isBlankText c = true
  · simp [setColumn, fail, h, hc]
  · simp only [setColumn, h, Option.isSome_none, Bool.false_eq_true, if_false, hc]
    cases hd <;> simp [modify, h]

theorem setKey_fault (hd : Option Nat) (k : KeyType) : (m.setKey hd k).fault = none := by
  simp only [setKey, h, Option.isSome_none, Bool.false_eq_true, if_false]
  cases hd <;> simp [modify, h]

theorem ignore_fault (hd : Option Nat) : (m.ignore hd).fault = none := by
  simp only [ignore, h, Option.isSome_none, Bool.false_eq_true, if_false]
  cases hd <;> simp [modify, h]

theorem setColumn_eq_modify {c : String} (hc : Text.isBlankText c = false) (hd : Option Nat) :
    m.setColumn hd c = m.modify hd fun p => { p with column := c } := by
  simp [setColumn, h, hc]

theorem setKey_eq_modify (hd : Option Nat) (k : KeyType) :
    m.setKey hd k = m.modify hd fun p => { p with key := k } := by
  simp [setKey, h]

theorem ignore_eq_modify (hd : Option Nat) :
    m.ignore hd = m.modify hd fun p => { p with ignored := true } := by
  simp [ignore, h]

end Faults

end Mapper

namespace FluentCall

variable {s : FluentState} {err : Error}

theorem step_mapper_of_fault (h : s.mapper.fault = some err) {c : FluentCall}
    (hc : c.isMapping = false) : (step s c).mapper = s.mapper := by
  cases c with
  | map p => cases hc
  | tryMap p => cases hc
  | schema x => exact Mapper.setSchema_of_fault h x
  | table t => exact Mapper.setTable_of_fault h t
  | autoMap => exact Mapper.withAutoMap_of_fault h
  | logger => rfl
  | column j c =>
    simp only [step, onHandle]
    split
    · exact Mapper.setColumn_of_fault h _ c
    · rfl
  | key j k =>
    simp only [step, onHandle]
    split
    · exact Mapper.setKey_of_fault h _ k
    · rfl
  | ignore j =>
    simp only [step, onHandle]
    split
    · exact Mapper.ignore_of_fault h _
    · rfl

theorem step_fault_of_fault (h : s.mapper.fault = some err) (c : FluentCall) :
    (step s c).mapper.fault = some err := by
  cases hc : c.isMapping with
  | false => rw [step_mapper_of_fault h hc, h]
  | true =>
    -- a mapping call may add a property but keeps the error
    cases c with
    | map p =>
      simp only [step, Mapper.map]
      split
      · next m' i ht =>
        obtain ⟨ps, rfl⟩ := Mapper.tryMap_eq_ok ht
        exact h
      · rw [Mapper.fail_of_fault _ _ _ h, h]
    | tryMap p =>
      simp only [step]
      split
      · next m' i ht =>
        obtain ⟨ps, rfl⟩ := Mapper.tryMap_eq_ok ht
        exact h
      · exact h
    | _ => cases hc

theorem run_fault_of_fault (h : s.mapper.fault = some err) (cs : List FluentCall) :
    (run s cs).mapper.fault = some err := by
  induction cs generalizing s with
  | nil => exact h
  | cons c cs ih => exact ih (step_fault_of_fault h c)

theorem step_tryMap_of_error {p : String} (h : s.mapper.tryMap p = .error err) :
    (step s (.tryMap p)).mapper = s.mapper := by
  simp [step, h]

/-- On a mapper without an error, a call records an error exactly in the cases `Records` lists. -/
theorem step_fault_iff (h : s.mapper.fault = none) (c : FluentCall) :
    (step s c).mapper.fault = some err ↔ Records s c err := by
  cases c with
  | schema x =>
    simp only [step, Mapper.setSchema_fault h, reduceCtorEq, false_iff]
    nofun
  | table t =>
    simp only [step, Mapper.setTable_fault h]
    constructor
    · intro ht
      split at ht
      · next he => subst he; cases ht; exact .table s
      · cases ht
    · intro hr
      cases hr
      simp
  | map p =>
    simp only [step]
    cases ht : s.mapper.tryMap p with
    | ok r =>
      rw [Mapper.map_fault_of_ok h ht]
      simp only [reduceCtorEq, false_iff]
      intro hr
      cases hr with
      | map _ _ he => rw [ht] at he; cases he
    | error e =>
      rw [Mapper.map_fault_of_error h ht]
      constructor
      · intro he
        cases he
        exact .map s p _ ht
      · intro hr
        cases hr with
        | map _ _ he => rw [ht] at he; cases he; rfl
  | tryMap p =>
    simp only [step]
    cases ht : s.mapper.tryMap p with
    | ok r =>
      obtain ⟨ps, hps⟩ := Mapper.tryMap_eq_ok ht
      simp only [hps, h, reduceCtorEq, false_iff]
      nofun
    | error e =>
      simp only [h, reduceCtorEq, false_iff]
      nofun
  | autoMap =>
    simp only [step, Mapper.withAutoMap_fault h]
    constructor
    · intro ha
      split at ha
      · next hr => cases ha; exact .autoMap s hr
      · cases ha
    · intro hr
      cases hr with
      | autoMap hr => simp [hr]
  | logger =>
    simp only [step, h, reduceCtorEq, false_iff]
    nofun
  | column j c =>
    simp only [step, onHandle]
    constructor
    · intro hc
      cases hj : s.handles[j]? with
      | some hd =>
        cases hd with
        | some i =>
          rw [hj] at hc
          simp only [Mapper.setColumn_fault h] at hc
          split at hc
          · next hb => cases hc; exact .column s j i c hj hb
          · cases hc
        | none => rw [hj] at hc; simp [h] at hc
      | none => rw [hj] at hc; simp [h] at hc
    · intro hr
      cases hr with
      | column _ i _ hj hb => simp [hj, Mapper.setColumn_fault h, hb]
  | key j k =>
    simp only [step, onHandle]
    constructor
    · intro hk
      split at hk
      · rw [Mapper.setKey_fault h] at hk; cases hk
      · rw [h] at hk; cases hk
    · nofun
  | ignore j =>
    simp only [step, onHandle]
    constructor
    · intro hi
      split at hi
      · rw [Mapper.ignore_fault h] at hi; cases hi
      · rw [h] at hi; cases hi
    · nofun

end FluentCall

/-! ### What the calls ask for, by property name -/

/-- Whether mapping a name succeeds: it is not empty and the entity has a property of that name. -/
def Entity.mapsName (e : Entity) (p : String) : Bool := p != "" && (e.checkProperty p).isOk

/-- What calls ask of a mapping, with properties kept by name rather than by position: the schema
and table last set, the names mapped in first-call order, each name's property with the column and
key last set on it and left out when asked, whether automatic mapping was asked for, and the name
of the property each handle was handed back for (none after a failed mapping call). -/
structure Plan where
  schema : String
  table : String
  names : List String
  property : String → ColumnMap
  autoMap : Bool
  handles : List (Option String)

namespace Plan

/-- A property as mapping first makes it: stored in the column of its name, no key, shown. -/
def fresh (n : String) : ColumnMap := ⟨n, n, .notAKey, false⟩

/-- Nothing asked yet: the table is the entity's name. -/
def start (e : Entity) : Plan := ⟨"", e.name, [], fresh, false, []⟩

/-- The properties asked for, in first-call order. -/
def properties (pl : Plan) : List ColumnMap := pl.names.map pl.property

/-- The name of the property handle `j` was handed back for. -/
def target (pl : Plan) (j : Nat) : Option String := pl.handles[j]?.join

/-- A change to the property handle `j` was handed back for. -/
def touch (pl : Plan) (j : Nat) (g : ColumnMap → ColumnMap) : Plan :=
  match pl.target j with
  | some n => { pl with property := Function.update pl.property n (g (pl.property n)) }
  | none => pl

/-- What a call adds to the plan. -/
def step (e : Entity) (pl : Plan) : FluentCall → Plan
  | .schema x => { pl with schema := x }
  | .table t => { pl with table := t }
  | .map p | .tryMap p =>
    if e.mapsName p then
      { pl with names := if p ∈ pl.names then pl.names else pl.names ++ [p],
                handles := pl.handles ++ [some p] }
    else { pl with handles := pl.handles ++ [none] }
  | .autoMap => { pl with autoMap := true }
  | .logger => pl
  | .column j c => pl.touch j fun p => { p with column := c }
  | .key j k => pl.touch j fun p => { p with key := k }
  | .ignore j => pl.touch j fun p => { p with ignored := true }

/-- What calls in order ask for. -/
def run (e : Entity) (pl : Plan) (cs : List FluentCall) : Plan := cs.foldl (step e) pl

end Plan

/-! ### Positions and names -/

theorem modify_map_idxOf {β : Type} {f : String → β} {g : β → β} :
    ∀ {names : List String}, names.Nodup → ∀ {n : String}, n ∈ names →
      (names.map f).modify (names.idxOf n) g = names.map fun x => if x = n then g (f x) else f x
  | [], _, _, hn => by cases hn
  | x :: xs, hd, n, hn => by
    rw [List.nodup_cons] at hd
    by_cases hx : x = n
    · subst hx
      have hrest : xs.map f = xs.map fun y => if y = x then g (f y) else f y :=
        List.map_congr_left fun y hy => by rw [if_neg (by rintro rfl; exact hd.1 hy)]
      simp [List.idxOf_cons_self, hrest]
    · have hn' : n ∈ xs := (List.mem_cons.1 hn).resolve_left (Ne.symm hx)
      rw [List.idxOf_cons_ne _ hx, List.map_cons, Nat.succ_eq_add_one, List.modify_succ_cons,
        modify_map_idxOf hd.2 hn']
      simp [hx]

theorem findIdx?_name_map {f : String → ColumnMap} (hf : ∀ n, (f n).name = n) (p : String) :
    ∀ names : List String, (names.map f).findIdx? (·.name == p) =
      if p ∈ names then some (names.idxOf p) else none
  | [] => by simp
  | x :: xs => by
    rw [List.map_cons, List.findIdx?_cons, findIdx?_name_map hf p xs, hf]
    by_cases hx : x = p
    · subst hx
      simp
    · simp [hx, Ne.symm hx, List.idxOf_cons_ne _ hx]

theorem Mapper.tryMap_of_properties {m : Mapper} {names : List String} {f : String → ColumnMap}
    (hf : ∀ n, (f n).name = n) (hm : m.properties = names.map f) {p : String}
    (hp : m.entity.mapsName p = true) :
    m.tryMap p = .ok (if p ∈ names then (m, names.idxOf p)
      else ({ m with properties := m.properties ++ [Plan.fresh p] }, names.length)) := by
  simp only [Entity.mapsName, Bool.and_eq_true, bne_iff_ne, ne_eq] at hp
  obtain ⟨hp, hok⟩ := hp
  have hc : m.entity.checkProperty p = .ok () := by
    cases hc : m.entity.checkProperty p with
    | error err => rw [hc] at hok; cases hok
    | ok u => rfl
  unfold Mapper.tryMap
  simp only [beq_iff_eq, hp, if_false, hc, hm, findIdx?_name_map hf]
  by_cases hmem : p ∈ names <;> simp [hmem, Plan.fresh]

theorem Mapper.tryMap_isOk (m : Mapper) (p : String) :
    (m.tryMap p).isOk = m.entity.mapsName p := by
  unfold tryMap Entity.mapsName
  by_cases hp : p = ""
  · simp [hp, Except.isOk, Except.toBool]
  · have hne : (p != "") = true := by simpa using hp
    simp only [beq_iff_eq, hp, if_false, hne, Bool.true_and]
    cases m.entity.checkProperty p with
    | error e => rfl
    | ok u => simp only; split <;> rfl

/-- Automatic mapping fails exactly for an entity without a record type or whose type is no
record. -/
theorem autoMapProperties_fails_iff {e : Entity} {props : List ColumnMap} :
    (∃ err, autoMapProperties e props = .error err) ↔
      ∀ t, e.record = some t → t.isRecord = false := by
  obtain ⟨name, _ | t⟩ := e
  · simp [autoMapProperties]
  · cases hr : t.isRecord <;> simp [autoMapProperties, hr]

/-! ### The mapper follows the plan -/

/-- A mapper under calls agrees with a plan for entity `e`: the same entity, schema, table and
choice of automatic mapping, the plan's properties in the plan's order, each handle pointing to the
position of the name it was handed back for, and every name not asked for still fresh. -/
structure Tracks (e : Entity) (s : FluentState) (pl : Plan) : Prop where
  entity : s.mapper.entity = e
  schema : s.mapper.schema = pl.schema
  table : s.mapper.table = pl.table
  autoMap : s.mapper.autoMap = pl.autoMap
  nodup : pl.names.Nodup
  properties : s.mapper.properties = pl.properties
  handles : s.handles = pl.handles.map (Option.map pl.names.idxOf)
  targets : ∀ n, some n ∈ pl.handles → n ∈ pl.names
  named : ∀ n, (pl.property n).name = n
  fresh : ∀ n, n ∉ pl.names → pl.property n = Plan.fresh n

namespace Tracks

variable {e : Entity} {s : FluentState} {pl : Plan}

theorem start (e : Entity) : Tracks e ⟨Mapper.ofEntity e, []⟩ (Plan.start e) :=
  ⟨rfl, rfl, rfl, rfl, List.nodup_nil, rfl, rfl, by simp [Plan.start], fun _ => rfl,
    fun _ _ => rfl⟩

/-- A handle points to the position of the name it was handed back for, and to nothing when it was
handed back for none. -/
theorem handle_eq (ht : Tracks e s pl) (j : Nat) :
    s.handles[j]? = (pl.handles[j]?).map (Option.map pl.names.idxOf) := by
  rw [ht.handles, List.getElem?_map]

theorem mapNew (ht : Tracks e s pl) {p : String} (hp : p ∉ pl.names) :
    Tracks e ⟨{ s.mapper with properties := s.mapper.properties ++ [Plan.fresh p] },
        s.handles ++ [some pl.names.length]⟩
      { pl with names := pl.names ++ [p], handles := pl.handles ++ [some p] } := by
  have hidx : ∀ n ∈ pl.names, (pl.names ++ [p]).idxOf n = pl.names.idxOf n :=
    fun n hn => List.idxOf_append_of_mem hn
  refine ⟨ht.entity, ht.schema, ht.table, ht.autoMap, ?_, ?_, ?_, ?_, ht.named, ?_⟩
  · exact List.nodup_append.2 ⟨ht.nodup, List.nodup_singleton p, by
      rintro a ha b hb rfl
      exact hp ((List.mem_singleton.1 hb) ▸ ha)⟩
  · simp [Plan.properties, ht.properties, ht.fresh p hp]
  · -- the old handles keep their positions
    simp only [ht.handles, List.map_append, List.map_cons, List.map_nil, Option.map_some]
    congr 1
    · refine List.map_congr_left fun h hh => ?_
      cases h with
      | none => rfl
      | some n => simp [hidx n (ht.targets n hh)]
    · simp [List.idxOf_append_of_notMem hp]
  · intro n hn
    rcases List.mem_append.1 hn with hn | hn
    · exact List.mem_append_left _ (ht.targets n hn)
    · simp at hn
      simp [hn]
  · intro n hn
    exact ht.fresh n fun h => hn (List.mem_append_left _ h)

theorem mapAgain (ht : Tracks e s pl) {p : String} (hp : p ∈ pl.names) :
    Tracks e ⟨s.mapper, s.handles ++ [some (pl.names.idxOf p)]⟩
      { pl with handles := pl.handles ++ [some p] } := by
  refine ⟨ht.entity, ht.schema, ht.table, ht.autoMap, ht.nodup, ht.properties, ?_, ?_, ht.named,
    ht.fresh⟩
  · simp [ht.handles]
  · intro n hn
    rcases List.mem_append.1 hn with hn | hn
    · exact ht.targets n hn
    · simp at hn
      exact hn ▸ hp

theorem mapFailed (ht : Tracks e s pl) :
    Tracks e ⟨s.mapper, s.handles ++ [none]⟩ { pl with handles := pl.handles ++ [none] } := by
  refine ⟨ht.entity, ht.schema, ht.table, ht.autoMap, ht.nodup, ht.properties, ?_, ?_, ht.named,
    ht.fresh⟩
  · simp [ht.handles]
  · intro n hn
    rcases List.mem_append.1 hn with hn | hn
    · exact ht.targets n hn
    · simp at hn

theorem touch (ht : Tracks e s pl) {j : Nat} {g : ColumnMap → ColumnMap}
    (hg : ∀ q, (g q).name = q.name) :
    Tracks e { s with mapper := FluentCall.onHandle s j fun h => s.mapper.modify h g }
      (pl.touch j g) := by
  unfold FluentCall.onHandle Plan.touch
  cases htj : pl.target j with
  | none =>
    have hj : ∀ i, s.handles[j]? ≠ some (some i) := by
      intro i hi
      rw [ht.handle_eq] at hi
      simp only [Plan.target] at htj
      cases hh : pl.handles[j]? with
      | none => rw [hh] at hi; cases hi
      | some o => cases o <;> simp_all
    split
    · next i hi => exact absurd hi (hj i)
    · exact ht
  | some n =>
    have hn : some n ∈ pl.handles := by
      simp only [Plan.target, Option.join_eq_some_iff] at htj
      exact List.mem_of_getElem? htj
    have hmem := ht.targets n hn
    have hi : s.handles[j]? = some (some (pl.names.idxOf n)) := by
      rw [ht.handle_eq]
      simp only [Plan.target, Option.join_eq_some_iff] at htj
      simp [htj]
    rw [hi]
    refine ⟨ht.entity, ht.schema, ht.table, ht.autoMap, ht.nodup, ?_, ht.handles, ht.targets, ?_,
      ?_⟩
    · simp only [Mapper.modify, ht.properties, Plan.properties]
      rw [modify_map_idxOf ht.nodup hmem]
      refine List.map_congr_left fun x _ => ?_
      by_cases hx : x = n
      · subst hx
        simp
      · simp [hx]
    · intro x
      by_cases hx : x = n
      · subst hx
        simp [hg, ht.named]
      · simp [hx, ht.named]
    · intro x hx
      have hxn : x ≠ n := fun he => hx (he ▸ hmem)
      simp [hxn, ht.fresh x hx]

theorem tryMap_eq (ht : Tracks e s pl) {p : String} (hm : e.mapsName p = true) :
    s.mapper.tryMap p = .ok (if p ∈ pl.names then (s.mapper, pl.names.idxOf p)
      else ({ s.mapper with properties := s.mapper.properties ++ [Plan.fresh p] },
        pl.names.length)) :=
  Mapper.tryMap_of_properties ht.named ht.properties (ht.entity ▸ hm)

theorem onHandle_congr {j : Nat} {f g : Option Nat → Mapper}
    (hfg : ∀ i, s.handles[j]? = some (some i) → f (some i) = g (some i)) :
    FluentCall.onHandle s j f = FluentCall.onHandle s j g := by
  unfold FluentCall.onHandle
  split
  · next i hi => exact hfg i hi
  · rfl

/-- A call that records no error keeps the mapper following the plan. -/
theorem step (ht : Tracks e s pl) (hs : s.mapper.fault = none) (c : FluentCall)
    (hs' : (FluentCall.step s c).mapper.fault = none) :
    Tracks e (FluentCall.step s c) (pl.step e c) := by
  cases c with
  | schema x =>
    simp only [FluentCall.step, Mapper.setSchema, hs, Option.isSome_none, Bool.false_eq_true,
      if_false, Plan.step]
    exact ⟨ht.entity, rfl, ht.table, ht.autoMap, ht.nodup, ht.properties, ht.handles,
      ht.targets, ht.named, ht.fresh⟩
  | table t =>
    have hne : t ≠ "" := by
      rintro rfl
      simp [FluentCall.step, Mapper.setTable_fault hs] at hs'
    simp only [FluentCall.step, Mapper.setTable, hs, Option.isSome_none, Bool.false_eq_true,
      if_false, beq_iff_eq, hne, Plan.step]
    exact ⟨ht.entity, ht.schema, rfl, ht.autoMap, ht.nodup, ht.properties, ht.handles,
      ht.targets, ht.named, ht.fresh⟩
  | map p =>
    cases hm : e.mapsName p with
    | false =>
      have herr : (s.mapper.tryMap p).isOk = false := by rw [Mapper.tryMap_isOk, ht.entity, hm]
      cases htm : s.mapper.tryMap p with
      | ok r => rw [htm] at herr; cases herr
      | error err =>
        simp [FluentCall.step, Mapper.map_fault_of_error hs htm] at hs'
    | true =>
      simp only [FluentCall.step, Mapper.map, tryMap_eq ht hm, Plan.step, hm, if_true]
      by_cases hmem : p ∈ pl.names
      · simp only [hmem, if_true]
        exact ht.mapAgain hmem
      · simp only [hmem, if_false]
        exact ht.mapNew hmem
  | tryMap p =>
    cases hm : e.mapsName p with
    | false =>
      have herr : (s.mapper.tryMap p).isOk = false := by rw [Mapper.tryMap_isOk, ht.entity, hm]
      cases htm : s.mapper.tryMap p with
      | ok r => rw [htm] at herr; cases herr
      | error err =>
        simp only [FluentCall.step, htm, Plan.step, hm, Bool.false_eq_true, if_false]
        exact ht.mapFailed
    | true =>
      simp only [FluentCall.step, tryMap_eq ht hm, Plan.step, hm, if_true]
      by_cases hmem : p ∈ pl.names
      · simp only [hmem, if_true]
        exact ht.mapAgain hmem
      · simp only [hmem, if_false]
        exact ht.mapNew hmem
  | autoMap =>
    have hr : s.mapper.entity.record.isNone = false := by
      cases hx : s.mapper.entity.record with
      | none => simp [FluentCall.step, Mapper.withAutoMap_fault hs, hx] at hs'
      | some t => rfl
    simp only [FluentCall.step, Mapper.withAutoMap, hs, Option.isSome_none, Bool.false_eq_true,
      if_false, hr, Plan.step]
    exact ⟨ht.entity, ht.schema, ht.table, rfl, ht.nodup, ht.properties, ht.handles,
      ht.targets, ht.named, ht.fresh⟩
  | logger => exact ht
  | column j c =>
    have hsame : FluentCall.onHandle s j (fun h => s.mapper.setColumn h c) =
        FluentCall.onHandle s j (fun h => s.mapper.modify h fun p => { p with column := c }) := by
      refine onHandle_congr fun i hi => ?_
      have hc : Text.isBlankText c = false := by
        by_contra hb
        have := (FluentCall.step_fault_iff hs (.column j c)).2
          (.column s j i c hi (by simpa using hb))
        rw [hs'] at this
        cases this
      exact Mapper.setColumn_eq_modify hs hc _
    simp only [FluentCall.step, Plan.step, hsame]
    exact ht.touch fun _ => rfl
  | key j k =>
    simp only [FluentCall.step, Plan.step, Mapper.setKey_eq_modify hs]
    exact ht.touch fun _ => rfl
  | ignore j =>
    simp only [FluentCall.step, Plan.step, Mapper.ignore_eq_modify hs]
    exact ht.touch fun _ => rfl

/-- Calls that end without a recorded error keep the mapper following the plan. -/
theorem run (ht : Tracks e s pl) (cs : List FluentCall)
    (hf : (FluentCall.run s cs).mapper.fault = none) :
    Tracks e (FluentCall.run s cs) (pl.run e cs) := by
  induction cs generalizing s pl with
  | nil => exact ht
  | cons c cs ih =>
    -- an error recorded on the way would have stayed
    have h1 : (FluentCall.step s c).mapper.fault = none := by
      cases hx : (FluentCall.step s c).mapper.fault with
      | none => rfl
      | some err => rw [FluentCall.run_cons, FluentCall.run_fault_of_fault hx] at hf; cases hf
    have h0 : s.mapper.fault = none := by
      cases hx : s.mapper.fault with
      | none => rfl
      | some err => rw [FluentCall.step_fault_of_fault hx] at h1; cases h1
    exact ih (ht.step h0 c h1) hf

/-- Building a mapper that follows a plan and has no recorded error: it fails exactly when the table
is empty, a property is both left out and a key, or automatic mapping was asked for and the entity
has no record type to map; otherwise it gives the planned schema, table and properties, followed by
those automatic mapping adds when asked. -/
theorem build (ht : Tracks e s pl) (hf : s.mapper.fault = none) :
    ((∃ err, s.mapper.build = .error err) ↔ pl.table = "" ∨
        (∃ q ∈ pl.properties, q.ignored = true ∧ q.key.isKey = true) ∨
        (pl.autoMap = true ∧ ∀ t, e.record = some t → t.isRecord = false)) ∧
    ∀ t, s.mapper.build = .ok t → t.entity = e ∧ t.schema = pl.schema ∧ t.table = pl.table ∧
      (pl.autoMap = false ∧ t.properties = pl.properties ∨
        pl.autoMap = true ∧ autoMapProperties e pl.properties = .ok t.properties) := by
  simp only [Mapper.build, hf, ht.table, ht.properties, ht.autoMap, ht.entity, ht.schema,
    beq_iff_eq]
  by_cases htab : pl.table = ""
  · simp [htab]
  simp only [htab, if_false, false_or]
  cases hk : pl.properties.find? (fun p => p.ignored && p.key.isKey) with
  | some q =>
    have hq := List.find?_some hk
    simp only [Bool.and_eq_true] at hq
    refine ⟨⟨fun _ => .inl ⟨q, List.mem_of_find?_eq_some hk, hq⟩, fun _ => ⟨_, rfl⟩⟩, ?_⟩
    intro t h
    cases h
  | none =>
    have hno : ¬ ∃ q ∈ pl.properties, q.ignored = true ∧ q.key.isKey = true := by
      rintro ⟨q, hq, hi, hkey⟩
      have := List.find?_eq_none.1 hk q hq
      simp [hi, hkey] at this
    simp only [hno, false_or]
    cases ha : pl.autoMap with
    | false =>
      simp only [Bool.false_eq_true, if_false, false_and, iff_false, or_false, true_and]
      refine ⟨?_, fun t h => ?_⟩
      · rintro ⟨err, h⟩
        cases h
      · cases h
        exact ⟨rfl, rfl, rfl, rfl⟩
    | true =>
      simp only [if_true, true_and]
      rw [← autoMapProperties_fails_iff]
      cases hm : autoMapProperties e pl.properties with
      | error err =>
        refine ⟨⟨fun _ => ⟨err, rfl⟩, fun _ => ⟨err, rfl⟩⟩, fun t h => ?_⟩
        cases h
      | ok props =>
        refine ⟨⟨fun ⟨err, h⟩ => (by cases h), fun ⟨err, h⟩ => (by cases h)⟩, fun t h => ?_⟩
        cases h
        exact ⟨rfl, rfl, rfl, .inr rfl⟩

end Tracks

/-! ### The first error is kept -/

namespace FluentCall

/-- Once a call records an error on a mapper without one, no later call replaces it, and building
reports it. -/
theorem build_run_of_records {s : FluentState} {pre post : List FluentCall} {c : FluentCall}
    {err : Error} (hc : (step (run s pre) c).mapper.fault = some err) :
    (run s (pre ++ c :: post)).mapper.build = .error err := by
  rw [run_append, run_cons]
  exact Mapper.build_of_fault (run_fault_of_fault hc post)

end FluentCall

theorem Mapper.named_of_ne {n : String} (h : n ≠ "") :
    Mapper.named n = Mapper.ofEntity (.named n) := by
  simp [Mapper.named, h]
  rfl

/-- The fluent mapping interface keeps its first error. For a mapper started for any entity, and
any calls: once a call records an error on a mapper without one, building reports that error; a
call records one exactly in the cases `Records` lists; on a mapper with an error, every call but
mapping leaves it as it is; a failed `tryMap` records nothing. A mapper for the empty name starts
with an error, and one for any other name is the mapper of that named entity. When the calls end
without an error, building fails exactly when the planned table is empty, a planned property is
both left out and a key, or automatic mapping was asked for an entity without a record type to
map; otherwise it gives the planned schema and table (the last set) and the planned properties
(the names mapped, in first-call order, each with the column and key last set through a handle
to it and left out exactly when asked), followed by those automatic mapping adds when asked. -/
theorem fluent_mapper_keeps_first_error (e : Entity) (calls : List FluentCall) :
    (∀ pre c post err, calls = pre ++ c :: post →
      (FluentCall.run ⟨Mapper.ofEntity e, []⟩ pre).mapper.fault = none →
      (FluentCall.step (FluentCall.run ⟨Mapper.ofEntity e, []⟩ pre) c).mapper.fault = some err →
      (FluentCall.run ⟨Mapper.ofEntity e, []⟩ calls).mapper.build = .error err) ∧
    (∀ (s : FluentState) c err, s.mapper.fault = none →
      ((FluentCall.step s c).mapper.fault = some err ↔ FluentCall.Records s c err)) ∧
    (∀ (s : FluentState) c err, s.mapper.fault = some err → c.isMapping = false →
      (FluentCall.step s c).mapper = s.mapper) ∧
    (∀ (s : FluentState) p err, s.mapper.tryMap p = .error err →
      (FluentCall.step s (.tryMap p)).mapper = s.mapper) ∧
    (FluentCall.run ⟨Mapper.named "", []⟩ calls).mapper.build = .error .unnamedEntity ∧
    (∀ n, n ≠ "" → Mapper.named n = Mapper.ofEntity (.named n)) ∧
    ((FluentCall.run ⟨Mapper.ofEntity e, []⟩ calls).mapper.fault = none →
      ((∃ err, (FluentCall.run ⟨Mapper.ofEntity e, []⟩ calls).mapper.build = .error err) ↔
        ((Plan.start e).run e calls).table = "" ∨
        (∃ q ∈ ((Plan.start e).run e calls).properties, q.ignored = true ∧ q.key.isKey = true) ∨
        (((Plan.start e).run e calls).autoMap = true ∧
          ∀ t, e.record = some t → t.isRecord = false)) ∧
      ∀ t, (FluentCall.run ⟨Mapper.ofEntity e, []⟩ calls).mapper.build = .ok t →
        t.entity = e ∧ t.schema = ((Plan.start e).run e calls).schema ∧
        t.table = ((Plan.start e).run e calls).table ∧
        (((Plan.start e).run e calls).autoMap = false ∧
            t.properties = ((Plan.start e).run e calls).properties ∨
          ((Plan.start e).run e calls).autoMap = true ∧
            autoMapProperties e ((Plan.start e).run e calls).properties = .ok t.properties)) := by
  refine ⟨?_, fun s c _ h => FluentCall.step_fault_iff h c,
    fun _ _ _ h hc => FluentCall.step_mapper_of_fault h hc,
    fun _ _ _ h => FluentCall.step_tryMap_of_error h, ?_, fun _ h => Mapper.named_of_ne h, ?_⟩
  · rintro pre c post err rfl - hc
    exact FluentCall.build_run_of_records hc
  · -- the empty name is recorded before any call
    exact Mapper.build_of_fault (FluentCall.run_fault_of_fault (by simp [Mapper.named]) calls)
  · intro hf
    exact ((Tracks.start e).run calls hf).build hf

/-- Automatic mapping asked for a type that is not a record: no call records an error, the table is
set and no property is both left out and a key, yet building fails. -/
theorem automapped_list_type_fails_to_build :
    let names : TypeArg := ⟨⟨"Names", "main.Names", .other⟩, 0⟩
    let m := (FluentCall.run ⟨Mapper.ofEntity (Entity.ofType names), []⟩ [.autoMap]).mapper
    m.fault = none ∧ m.table = "Names" ∧ m.properties = [] ∧ ∃ err, m.build = .error err :=
  ⟨rfl, rfl, rfl, _, rfl⟩

end PredicateSql
