import Mathlib
import PredicateSql.Proofs.AutoMapRules
import PredicateSql.Proofs.WriteOnce
import PredicateSql.Load.Schema

/-! Stored mappings are well formed: a table, distinct property names each accepted by the entity,
non-blank columns, and no property both ignored and a key. Every way a program builds a registry
keeps this, provided the record types are what reflection reports. -/
namespace PredicateSql

/-! ### Record types and the names entities accept -/

namespace RecordType

/-- The visible fields of a record type as reflection reports them: no two share a name, since
two fields of a name at one depth hide each other and a shallower one hides a deeper one. -/
def Visible (t : RecordType) : Prop := (t.fields.map (·.name)).Nodup

theorem filter_name_of_nodup {fs : List Field} (hv : (fs.map (·.name)).Nodup) {f : Field}
    (hf : f ∈ fs) : fs.filter (·.name == f.name) = [f] := by
  induction fs with
  | nil => cases hf
  | cons g fs ih =>
    rw [List.map_cons, List.nodup_cons] at hv
    rcases List.mem_cons.1 hf with rfl | hf
    · -- no later field has the name of the first
      have hnone : fs.filter (·.name == f.name) = [] :=
        List.filter_eq_nil_iff.2 fun g hg hname =>
          hv.1 ((beq_iff_eq.1 hname) ▸ List.mem_map_of_mem hg)
      simp [hnone]
    · have hne : (g.name == f.name) = false := by
        rw [beq_eq_false_iff_ne]
        rintro hname
        exact hv.1 (hname ▸ List.mem_map_of_mem hf)
      simp [hne, ih hv.2 hf]

theorem fieldByName?_of_mem {t : RecordType} (hv : t.Visible) {f : Field} (hf : f ∈ t.fields) :
    t.fieldByName? f.name = some f := by
  simp [fieldByName?, filter_name_of_nodup hv hf]

end RecordType

/-- An entity whose record type, if it has one, is as reflection reports it. -/
def Entity.Visible (e : Entity) : Prop := ∀ t, e.record = some t → t.Visible

theorem Entity.visible_named (n : String) : (Entity.named n).Visible := by
  intro t h
  cases h

/-- The property names an entity accepts: plain identifiers for an entity known by name, and for a
record type the names that select an exported field. -/
def Entity.Accepts (e : Entity) (p : String) : Prop :=
  match e.record with
  | none => Identifier.isPlain p = true
  | some t => ∃ f, t.fieldByName? p = some f ∧ f.exported = true

theorem Entity.checkProperty_eq_ok_iff {e : Entity} {p : String} :
    e.checkProperty p = .ok () ↔ e.Accepts p := by
  unfold Entity.checkProperty Entity.Accepts
  cases e.record with
  | none => by_cases h : Identifier.isPlain p = true <;> simp [h]
  | some t =>
    cases hs : t.shape with
    | record fs size =>
      have hrec : t.isRecord = true := by simp [RecordType.isRecord, hs]
      simp only [hrec, Bool.not_true, Bool.false_eq_true, if_false]
      cases t.fieldByName? p with
      | none => simp
      | some f => by_cases hx : f.exported = true <;> simp [hx]
    | other =>
      have hnone : t.fieldByName? p = none := by
        simp [RecordType.fieldByName?, RecordType.fields, hs]
      simp [RecordType.isRecord, hs, hnone]

section Blank

theorem Text.isBlank_of_printable {c : Char} (h : 33 ≤ c.toNat ∧ c.toNat ≤ 126) :
    Text.isBlank c = false := by
  unfold Text.isBlank
  split
  all_goals first
    | omega
    | simp only [Bool.and_eq_false_iff, decide_eq_false_iff_not]; omega

theorem Text.isBlankText_of_head {s : String} {c : Char} {r : List Char} (hs : s.toList = c :: r)
    (hc : Text.isBlank c = false) : Text.isBlankText s = false := by
  simp [Text.isBlankText, hs, hc]

theorem Char.printable_of_isUpper {c : Char} (h : c.isUpper = true) :
    33 ≤ c.toNat ∧ c.toNat ≤ 126 := by
  simp only [Char.isUpper, decide_eq_true_eq, ge_iff_le, UInt32.le_iff_toNat_le] at h
  have hc : c.toNat = c.val.toNat := rfl
  have hA : 'A'.val.toNat = 65 := rfl
  have hZ : 'Z'.val.toNat = 90 := rfl
  omega

theorem Identifier.printable_of_isStart {c : Char} (h : Identifier.isStart c = true) :
    33 ≤ c.toNat ∧ c.toNat ≤ 126 := by
  simp only [Identifier.isStart, Bool.or_eq_true, Char.isAlpha] at h
  rcases h with (h | h) | h
  · exact Char.printable_of_isUpper h
  · simp only [Char.isLower, Bool.and_eq_true, decide_eq_true_eq, ge_iff_le,
      UInt32.le_iff_toNat_le] at h
    have hc : c.toNat = c.val.toNat := rfl
    have ha : 'a'.val.toNat = 97 := rfl
    have hz : 'z'.val.toNat = 122 := rfl
    omega
  · rw [decide_eq_true_eq] at h
    subst h
    decide

theorem Identifier.not_blank_of_isPlain {s : String} (h : Identifier.isPlain s = true) :
    Text.isBlankText s = false := by
  unfold Identifier.isPlain at h
  cases hs : s.toList with
  | nil => simp [hs] at h
  | cons c r =>
    simp only [hs, Bool.and_eq_true] at h
    exact Text.isBlankText_of_head hs (Text.isBlank_of_printable (Identifier.printable_of_isStart h.1))

/-- The code points of white space. -/
def Text.blankCodes : List Nat :=
  [0x09, 0x0A, 0x0B, 0x0C, 0x0D, 0x20, 0x85, 0xA0, 0x1680, 0x2028, 0x2029, 0x202F, 0x205F,
    0x3000] ++ List.range' 0x2000 11

theorem Text.mem_blankCodes {c : Char} (h : Text.isBlank c = true) : c.toNat ∈ blankCodes := by
  unfold Text.isBlank at h
  split at h <;> simp_all [blankCodes, List.mem_range'_1]
  omega

/-- No upper-case letter is white space. -/
theorem Text.upperRuns_avoid_blankCodes :
    (blankCodes.all fun n => !upperRuns.any (·.holds n)) = true := by
  decide +kernel

theorem Text.isBlank_of_isUpperLetter {c : Char} (h : Text.isUpperLetter c = true) :
    Text.isBlank c = false := by
  cases hb : Text.isBlank c
  · rfl
  · have hout := List.all_eq_true.1 upperRuns_avoid_blankCodes _ (mem_blankCodes hb)
    simp only [Text.isUpperLetter] at h
    simp [h] at hout

theorem Field.not_blank_of_exported {f : Field} (h : f.exported = true) :
    Text.isBlankText f.name = false := by
  unfold Field.exported at h
  cases hs : f.name.toList with
  | nil => simp [hs] at h
  | cons c r =>
    simp only [hs] at h
    exact Text.isBlankText_of_head hs (Text.isBlank_of_isUpperLetter h)

theorem Entity.Accepts.not_blank {e : Entity} {p : String} (h : e.Accepts p) :
    Text.isBlankText p = false := by
  unfold Entity.Accepts at h
  split at h
  · exact Identifier.not_blank_of_isPlain h
  · obtain ⟨f, hf, hexp⟩ := h
    obtain ⟨-, rfl⟩ := RecordType.fieldByName?_mem hf
    exact Field.not_blank_of_exported hexp

end Blank

/-! ### Well-formed mappings -/

/-- A mapping as a registry may store it: it names a table; its properties have distinct names,
each one its entity accepts and each stored in a non-blank column; and no property left out of
selects is a key. -/
structure TableMap.WellFormed (m : TableMap) : Prop where
  table : m.table ≠ ""
  nodup : (m.properties.map (·.name)).Nodup
  accepted : ∀ p ∈ m.properties, m.entity.Accepts p.name
  column : ∀ p ∈ m.properties, Text.isBlankText p.column = false
  shown : ∀ p ∈ m.properties, p.ignored = true → p.key.isKey = false

/-- What the mapping interface keeps true of a mapper: its entity is visible, and its properties
have distinct names, each one its entity accepts and each stored in a non-blank column. -/
structure Mapper.Sound (m : Mapper) : Prop where
  visible : m.entity.Visible
  nodup : (m.properties.map (·.name)).Nodup
  accepted : ∀ p ∈ m.properties, m.entity.Accepts p.name
  column : ∀ p ∈ m.properties, Text.isBlankText p.column = false

namespace Mapper

variable {m m' : Mapper}

theorem Sound.of_eq (h : m.Sound) (he : m'.entity = m.entity) (hp : m'.properties = m.properties) :
    m'.Sound :=
  ⟨he ▸ h.visible, hp ▸ h.nodup, he ▸ hp ▸ h.accepted, hp ▸ h.column⟩

theorem sound_ofEntity {e : Entity} (hv : e.Visible) : (ofEntity e).Sound :=
  ⟨hv, by simp [ofEntity], by simp [ofEntity], by simp [ofEntity]⟩

theorem sound_named (n : String) : (named n).Sound :=
  ⟨Entity.visible_named n, by simp [named, ofEntity], by simp [named, ofEntity],
    by simp [named, ofEntity]⟩

theorem Sound.fail (h : m.Sound) (e : Error) : (m.fail e).Sound := by
  unfold Mapper.fail
  split
  · exact h
  · exact h.of_eq rfl rfl

theorem Sound.setSchema (h : m.Sound) (s : String) : (m.setSchema s).Sound := by
  unfold Mapper.setSchema
  split
  · exact h
  · exact h.of_eq rfl rfl

theorem Sound.setTable (h : m.Sound) (t : String) : (m.setTable t).Sound := by
  unfold Mapper.setTable
  split
  · exact h
  · split
    · exact h.fail _
    · exact h.of_eq rfl rfl

theorem Sound.withAutoMap (h : m.Sound) : m.withAutoMap.Sound := by
  unfold Mapper.withAutoMap
  split
  · exact h
  · split
    · exact h.fail _
    · exact h.of_eq rfl rfl

theorem Sound.tryMap (h : m.Sound) {p : String} {i : Nat} (ht : m.tryMap p = .ok (m', i)) :
    m'.Sound := by
  unfold Mapper.tryMap at ht
  split at ht
  · cases ht
  · cases hc : m.entity.checkProperty p with
    | error e =>
      rw [hc] at ht
      cases ht
    | ok u =>
      rw [hc] at ht
      have hacc : m.entity.Accepts p := Entity.checkProperty_eq_ok_iff.1 hc
      cases hi : m.properties.findIdx? (·.name == p) with
      | some j =>
        rw [hi] at ht
        cases ht
        exact h
      | none =>
        rw [hi] at ht
        cases ht
        have hfree : p ∉ m.properties.map (·.name) := by
          intro hp
          obtain ⟨q, hq, rfl⟩ := List.mem_map.1 hp
          rw [List.findIdx?_eq_none_iff] at hi
          simpa using hi q hq
        refine ⟨h.visible, ?_, ?_, ?_⟩
        · rw [List.map_append, List.nodup_append]
          refine ⟨h.nodup, List.nodup_singleton _, fun a ha b hb => ?_⟩
          rw [List.mem_singleton.1 hb]
          rintro rfl
          exact hfree ha
        · intro q hq
          rcases List.mem_append.1 hq with hq | hq
          · exact h.accepted q hq
          · rw [List.mem_singleton.1 hq]
            exact hacc
        · intro q hq
          rcases List.mem_append.1 hq with hq | hq
          · exact h.column q hq
          · rw [List.mem_singleton.1 hq]
            exact hacc.not_blank

theorem Sound.map (h : m.Sound) (p : String) : (m.map p).1.Sound := by
  unfold Mapper.map
  split
  · next m' i ht => exact h.tryMap ht
  · exact h.fail _

theorem map_modify_of {α β : Type} {g : α → β} {f : α → α} (hf : ∀ a, g (f a) = g a) :
    ∀ (l : List α) (i : Nat), (l.modify i f).map g = l.map g
  | [], _ => by simp
  | a :: l, 0 => by simp [hf]
  | a :: l, i + 1 => by simp [map_modify_of hf l i]

theorem mem_modify {α : Type} {f : α → α} {q : α} :
    ∀ {l : List α} {i : Nat}, q ∈ l.modify i f → q ∈ l ∨ ∃ a ∈ l, q = f a
  | [], _, h => by simp at h
  | a :: l, 0, h => by
    simp only [List.modify_zero_cons, List.mem_cons] at h
    rcases h with rfl | h
    · exact .inr ⟨a, List.mem_cons_self, rfl⟩
    · exact .inl (List.mem_cons_of_mem a h)
  | a :: l, i + 1, h => by
    simp only [List.modify_succ_cons, List.mem_cons] at h
    rcases h with rfl | h
    · exact .inl List.mem_cons_self
    · rcases mem_modify h with h | ⟨b, hb, rfl⟩
      · exact .inl (List.mem_cons_of_mem a h)
      · exact .inr ⟨b, List.mem_cons_of_mem a hb, rfl⟩

theorem Sound.modify (h : m.Sound) (hd : Option Nat) {f : ColumnMap → ColumnMap}
    (hn : ∀ q, (f q).name = q.name)
    (hc : ∀ q, Text.isBlankText q.column = false → Text.isBlankText (f q).column = false) :
    (m.modify hd f).Sound := by
  unfold Mapper.modify
  split
  · next i =>
    have hnames := map_modify_of (g := (·.name)) hn m.properties i
    refine ⟨h.visible, by simpa [hnames] using h.nodup, ?_, ?_⟩
    · intro q hq
      rcases mem_modify hq with hq | ⟨a, ha, rfl⟩
      · exact h.accepted q hq
      · rw [hn]
        exact h.accepted a ha
    · intro q hq
      rcases mem_modify hq with hq | ⟨a, ha, rfl⟩
      · exact h.column q hq
      · exact hc a (h.column a ha)
  · exact h

theorem Sound.setColumn (h : m.Sound) (hd : Option Nat) (c : String) : (m.setColumn hd c).Sound := by
  unfold Mapper.setColumn
  split
  · exact h
  · split
    · exact h.fail _
    · next hblank => exact h.modify hd (fun _ => rfl) fun _ _ => by simpa using hblank

theorem Sound.setKey (h : m.Sound) (hd : Option Nat) (k : KeyType) : (m.setKey hd k).Sound := by
  unfold Mapper.setKey
  split
  · exact h
  · exact h.modify hd (fun _ => rfl) fun _ hq => hq

theorem Sound.ignore (h : m.Sound) (hd : Option Nat) : (m.ignore hd).Sound := by
  unfold Mapper.ignore
  split
  · exact h
  · exact h.modify hd (fun _ => rfl) fun _ hq => hq

end Mapper

/-- A call of the mapping interface on a mapper: set the schema or the table, map a property
(recording a failure, or leaving the mapper as it is on one), set the column or the key kind of a
mapped property or leave it out of selects, or map the remaining fields automatically. A property
call names the property by the position that mapping it handed back, or by none after a failure. -/
inductive MapperCall where
  | schema (s : String)
  | table (t : String)
  | map (p : String)
  | tryMap (p : String)
  | column (handle : Option Nat) (c : String)
  | key (handle : Option Nat) (k : KeyType)
  | ignore (handle : Option Nat)
  | autoMap

namespace MapperCall

/-- The mapper after a call. -/
def apply : MapperCall → Mapper → Mapper
  | .schema s, m => m.setSchema s
  | .table t, m => m.setTable t
  | .map p, m => (m.map p).1
  | .tryMap p, m => match m.tryMap p with
    | .ok (m', _) => m'
    | .error _ => m
  | .column h c, m => m.setColumn h c
  | .key h k, m => m.setKey h k
  | .ignore h, m => m.ignore h
  | .autoMap, m => m.withAutoMap

end MapperCall

/-- A mapper built with the mapping interface: started for a type parameter whose record type is
as reflection reports it, or for a name, then changed by calls. -/
inductive Mapper.Built : Mapper → Prop
  | ofType (t : TypeArg) : t.base.Visible → Built (Mapper.ofEntity (Entity.ofType t))
  | named (n : String) : Built (Mapper.named n)
  | call {m : Mapper} (c : MapperCall) : Built m → Built (c.apply m)

/-- A successful build: no recorded fault, a table, no property both left out and a key, and the
mapping of the entity with the mapper's schema and table and its properties, followed by those
automatic mapping adds when asked. -/
theorem Mapper.build_eq_ok {m : Mapper} {t : TableMap} (h : m.build = .ok t) :
    m.table ≠ "" ∧ (∀ p ∈ m.properties, p.ignored = true → p.key.isKey = false) ∧
      ∃ props, t = ⟨m.entity, m.schema, m.table, props⟩ ∧
        (props = m.properties ∨ autoMapProperties m.entity m.properties = .ok props) := by
  unfold Mapper.build at h
  cases hf : m.fault with
  | some e =>
    rw [hf] at h
    cases h
  | none =>
    rw [hf] at h
    by_cases ht : (m.table == "") = true
    · rw [if_pos ht] at h
      cases h
    rw [if_neg ht] at h
    cases hk : m.properties.find? (fun p => p.ignored && p.key.isKey) with
    | some p =>
      rw [hk] at h
      cases h
    | none =>
      rw [hk] at h
      have hshown : ∀ p ∈ m.properties, p.ignored = true → p.key.isKey = false := by
        intro p hp hi
        simpa [hi] using List.find?_eq_none.1 hk p hp
      refine ⟨by simpa using ht, hshown, ?_⟩
      cases ha : m.autoMap
      · simp only [ha, Bool.false_eq_true, if_false] at h
        cases h
        exact ⟨_, rfl, .inl rfl⟩
      · simp only [ha, if_true] at h
        cases hp : autoMapProperties m.entity m.properties with
        | error e =>
          rw [hp] at h
          cases h
        | ok props =>
          rw [hp] at h
          cases h
          exact ⟨_, rfl, .inr rfl⟩

/-- The properties automatic mapping adds to a sound mapper's keep it well formed: their names are
new and distinct, each selects its exported field, their columns are not blank, and the key among
them, if any, is not left out of selects. -/
theorem Mapper.Sound.autoMap_wellFormed {m : Mapper} (h : m.Sound) {props : List ColumnMap}
    (ha : autoMapProperties m.entity m.properties = .ok props) :
    (props.map (·.name)).Nodup ∧ (∀ p ∈ props, m.entity.Accepts p.name) ∧
      (∀ p ∈ props, Text.isBlankText p.column = false) ∧
      ∀ p ∈ props, p ∉ m.properties → p.ignored = true → p.key.isKey = false := by
  cases hr : m.entity.record with
  | none => simp [autoMapProperties, hr] at ha
  | some rt =>
    rw [autoMapProperties_of_record hr] at ha
    split at ha
    · cases ha
      have hv : rt.Visible := h.visible rt hr
      set taken := takenFields m.properties [] rt.fields
      have htaken : ∀ f ∈ taken, f ∈ rt.fields ∧ f.exported = true ∧
          ∀ p ∈ m.properties, sameNameIgnoringCase p.name f.name = false := by
        intro f hf
        obtain ⟨pre, post, hsplit, ht⟩ := mem_takenFields hf
        have he := eligible_of_takes ht
        simp only [Field.eligible, Bool.and_eq_true, Bool.not_eq_true'] at he
        exact ⟨by rw [hsplit]; simp, he.2, takes_props ht⟩
      have hne : ∀ {a b : String}, sameNameIgnoringCase a b = false → a ≠ b := by
        rintro a b hab rfl
        simp at hab
      refine ⟨?_, ?_, ?_, ?_⟩
      · rw [List.map_append, names_keyedProperties, List.nodup_append]
        refine ⟨h.nodup, ?_, ?_⟩
        · exact List.Pairwise.map _ (fun _ _ hab => hne hab) (pairwise_takenFields _ _ _)
        · intro a ha b hb
          obtain ⟨p, hp, rfl⟩ := List.mem_map.1 ha
          obtain ⟨f, hf, rfl⟩ := List.mem_map.1 hb
          exact hne ((htaken f hf).2.2 p hp)
      · intro q hq
        rcases List.mem_append.1 hq with hq | hq
        · exact h.accepted q hq
        · obtain ⟨f, hf, hqf⟩ := mem_keyedProperties hq
          have hname : q.name = f.name := by
            rcases hqf with rfl | ⟨rfl, -⟩ <;> rfl
          obtain ⟨hmem, hexp, -⟩ := htaken f hf
          simp only [Entity.Accepts, hr, hname]
          exact ⟨f, RecordType.fieldByName?_of_mem hv hmem, hexp⟩
      · intro q hq
        rcases List.mem_append.1 hq with hq | hq
        · exact h.column q hq
        · obtain ⟨f, hf, hqf⟩ := mem_keyedProperties hq
          have hcol : q.column = if Identifier.isPlain f.tag then f.tag else f.name := by
            rcases hqf with rfl | ⟨rfl, -⟩ <;> rfl
          rw [hcol]
          split
          · next hp => exact Identifier.not_blank_of_isPlain hp
          · exact Field.not_blank_of_exported (htaken f hf).2.1
      · intro q hq hnot hi
        rcases List.mem_append.1 hq with hq | hq
        · exact absurd hq hnot
        · obtain ⟨f, -, hqf⟩ := mem_keyedProperties hq
          rcases hqf with rfl | ⟨rfl, hk⟩
          · rfl
          · -- the key is not left out: its tag is not `-`
            simp only [Field.keyNamed, Bool.and_eq_true, bne_iff_ne, ne_eq] at hk
            simp [Field.keyProperty, Field.plainProperty, hk.1] at hi
    · cases ha

/-- Building a sound mapper gives a well-formed mapping. -/
theorem Mapper.Sound.build {m : Mapper} (h : m.Sound) {t : TableMap} (hb : m.build = .ok t) :
    t.WellFormed := by
  obtain ⟨htable, hshown, props, rfl, hprops⟩ := Mapper.build_eq_ok hb
  rcases hprops with rfl | ha
  · exact ⟨htable, h.nodup, h.accepted, h.column, hshown⟩
  · obtain ⟨hnd, hacc, hcol, hkey⟩ := h.autoMap_wellFormed ha
    refine ⟨htable, hnd, hacc, hcol, fun p hp hi => ?_⟩
    by_cases hold : p ∈ m.properties
    · exact hshown p hold hi
    · exact hkey p hp hold hi

/-! ### Mappers of mapping documents and schemas -/

theorem EntityEntry.sound_addProperty {entity : String} {m m' : Mapper} {p : PropertyEntry}
    (h : m.Sound) (ha : EntityEntry.addProperty entity m p = .ok m') : m'.Sound := by
  unfold EntityEntry.addProperty at ha
  cases hk : KeyType.parse p.key with
  | error e => simp [hk, Except.mapError, bind, Except.bind] at ha
  | ok k =>
    simp only [hk, Except.mapError, bind, Except.bind, pure, Except.pure, Except.ok.injEq] at ha
    subst ha
    have hmap := h.map p.name
    have hcol : (if p.column == "" then (m.map p.name).1
        else (m.map p.name).1.setColumn (m.map p.name).2 p.column).Sound := by
      split
      · exact hmap
      · exact hmap.setColumn _ _
    have hkey := hcol.setKey (m.map p.name).2 k
    split <;> split
    all_goals first
      | exact hcol | exact hkey | exact hcol.ignore _ | exact hkey.ignore _

theorem EntityEntry.sound_foldlM {entity : String} :
    ∀ {ps : List PropertyEntry} {m m' : Mapper}, m.Sound →
      ps.foldlM (EntityEntry.addProperty entity) m = .ok m' → m'.Sound
  | [], m, m', h, hf => by
    cases hf
    exact h
  | p :: ps, m, m', h, hf => by
    rw [List.foldlM_cons] at hf
    cases ha : EntityEntry.addProperty entity m p with
    | error e =>
      rw [ha] at hf
      cases hf
    | ok m1 =>
      rw [ha] at hf
      exact sound_foldlM (sound_addProperty h ha) hf

theorem EntityEntry.sound_mapper {e : EntityEntry} {m : Mapper} (h : e.mapper = .ok m) :
    m.Sound := by
  have hstart : (if e.table == "" then (Mapper.named e.name).setSchema e.schema
      else ((Mapper.named e.name).setSchema e.schema).setTable e.table).Sound := by
    split
    · exact (Mapper.sound_named _).setSchema _
    · exact ((Mapper.sound_named _).setSchema _).setTable _
  unfold EntityEntry.mapper at h
  by_cases hn : (e.name == "") = true
  · simp [hn, throw, throwThe, MonadExceptOf.throw, bind, Except.bind] at h
  · simp only [hn, Bool.false_eq_true, if_false, bind, Except.bind, pure, Except.pure] at h
    cases hf : e.properties.foldlM (EntityEntry.addProperty e.name)
        (if e.table == "" then (Mapper.named e.name).setSchema e.schema
          else ((Mapper.named e.name).setSchema e.schema).setTable e.table) with
    | error err =>
      rw [hf] at h
      cases h
    | ok m1 =>
      rw [hf] at h
      have hm1 := EntityEntry.sound_foldlM hstart hf
      cases hm : m1.fault with
      | some err => simp [hm, throw, throwThe, MonadExceptOf.throw] at h
      | none =>
        simp only [hm, Except.ok.injEq] at h
        exact h ▸ hm1

theorem SchemaTable.sound_mapper (t : SchemaTable) : t.mapper.Sound := by
  unfold SchemaTable.mapper
  dsimp only
  refine List.foldlRecOn (motive := fun acc : Mapper × Bool => acc.1.Sound) _ _ ?_ ?_
  · dsimp only
    split
    · exact ((Mapper.sound_named _).setTable _).setSchema _
    · exact (Mapper.sound_named _).setTable _
  · rintro ⟨m, keyFound⟩ hm c -
    have hmap := hm.map c.name
    dsimp only
    split
    · exact hmap.setKey _ _
    · split
      · exact hmap.setKey _ _
      · exact hmap

/-! ### Registries a program reaches -/

theorem exists_of_forall₂_mem {α β : Type} {R : α → β → Prop} {l₁ : List α} {l₂ : List β}
    (h : List.Forall₂ R l₁ l₂) {b : β} (hb : b ∈ l₂) : ∃ a ∈ l₁, R a b := by
  induction h with
  | nil => cases hb
  | cons hab _ ih =>
    rcases List.mem_cons.1 hb with rfl | hb
    · exact ⟨_, List.mem_cons_self, hab⟩
    · obtain ⟨a, ha, hr⟩ := ih hb
      exact ⟨a, List.mem_cons_of_mem _ ha, hr⟩

namespace Registry

/-- Every mapping a registry stores is well formed. -/
def WellFormed (r : Registry) : Prop := ∀ b ∈ r.maps, b.2.WellFormed

variable {r r' : Registry}

theorem WellFormed.find? (h : r.WellFormed) {n : String} {m : TableMap} (hm : r.find? n = some m) :
    m.WellFormed := by
  obtain ⟨l₁, l₂, hsplit, -⟩ := List.lookup_eq_some_iff.1 hm
  exact h _ (hsplit ▸ List.mem_append_right l₁ List.mem_cons_self)

theorem WellFormed.extend (h : r.WellFormed) {ts : List TableMap} (hts : ∀ t ∈ ts, t.WellFormed) :
    (r.extend ts).WellFormed := by
  intro b hb
  simp only [Registry.extend, List.mem_append, List.mem_map] at hb
  rcases hb with hb | ⟨t, ht, rfl⟩
  · exact h b hb
  · exact hts t ht

/-- Registering sound mappers keeps a registry well formed. -/
theorem WellFormed.register (h : r.WellFormed) {ms : List (Option Mapper)}
    (hms : ∀ m, some m ∈ ms → m.Sound) (hr : r.register ms = .ok r') : r'.WellFormed := by
  obtain ⟨ts, hf, -, -, rfl⟩ := register_eq_ok.1 hr
  refine h.extend fun t ht => ?_
  obtain ⟨o, ho, m, rfl, hb⟩ := exists_of_forall₂_mem hf ht
  exact (hms m ho).build hb

/-- Loading a mapping document keeps a registry well formed. -/
theorem WellFormed.loadMappings (h : r.WellFormed) {text : String}
    (hl : r.loadMappings text = .ok r') : r'.WellFormed := by
  obtain ⟨es, ms, ts, -, hes, hms, -, -, rfl⟩ := loadMappings_eq_ok.1 hl
  refine h.extend fun t ht => ?_
  obtain ⟨m, hm, hb⟩ := exists_of_forall₂_mem hms ht
  obtain ⟨e, -, he⟩ := exists_of_forall₂_mem hes hm
  exact (EntityEntry.sound_mapper he).build hb

/-- Resolving an entity whose record type is as reflection reports it keeps a registry well
formed: the mapping it may add is built automatically from a sound mapper. -/
theorem WellFormed.resolve (h : r.WellFormed) {e : Entity} (hv : e.Visible) :
    (r.resolve e).2.WellFormed := by
  unfold Registry.resolve
  split
  · exact h
  · split
    · exact h
    · unfold Registry.resolveLocked
      split
      · exact h
      · split
        · next m hb =>
          have hwf := ((Mapper.sound_ofEntity hv).withAutoMap).build hb
          intro b hb'
          rcases List.mem_append.1 hb' with hb' | hb'
          · exact h b hb'
          · rw [List.mem_singleton.1 hb']
            exact hwf
        · exact h

/-- The registries a program reaches: a new one, with automatic mapping on or off, or one made from
a schema; and from one reached, the one that registering mappers built with the mapping interface
or loading a mapping document leaves, or that resolving an entity leaves whose record type, if it
has one, is as reflection reports it. A failed registration or load leaves the registry reached. -/
inductive Reachable : Registry → Prop
  | new (autoMap : Bool) : Reachable (Registry.empty autoMap)
  | schema {r : Registry} (s : Option Schema) (autoMap : Bool) :
      Registry.ofSchema s autoMap = .ok r → Reachable r
  | register {r r' : Registry} {ms : List (Option Mapper)} :
      Reachable r → (∀ m, some m ∈ ms → m.Built) → r.register ms = .ok r' → Reachable r'
  | load {r r' : Registry} (text : String) :
      Reachable r → r.loadMappings text = .ok r' → Reachable r'
  | resolve {r : Registry} {e : Entity} : Reachable r → e.Visible → Reachable (r.resolve e).2

end Registry

end PredicateSql
