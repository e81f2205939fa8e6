import Mathlib
import PredicateSql.Proofs.AutoMapping

/-! The rules of automatic mapping, field by field: which fields it takes (exported, not embedding,
of a name new ignoring case), the property it makes of each, and the one key it picks. Each field
is judged against the fields before it, which agrees with the implementation because names equal
ignoring case form classes. -/
namespace PredicateSql

section IgnoringCase

theorem sameNameIgnoringCase_iff {a b : String} :
    sameNameIgnoringCase a b = true ↔
      (Text.scrub a).toList.map Text.foldChar = (Text.scrub b).toList.map Text.foldChar := by
  simp [sameNameIgnoringCase, Text.equalFold]

@[simp] theorem sameNameIgnoringCase_self (a : String) : sameNameIgnoringCase a a = true :=
  sameNameIgnoringCase_iff.2 rfl

theorem sameNameIgnoringCase_trans {a b c : String} (hab : sameNameIgnoringCase a b = true)
    (hbc : sameNameIgnoringCase b c = true) : sameNameIgnoringCase a c = true :=
  sameNameIgnoringCase_iff.2
    ((sameNameIgnoringCase_iff.1 hab).trans (sameNameIgnoringCase_iff.1 hbc))

end IgnoringCase

namespace Field

/-- A field automatic mapping may take: exported, and not embedding a record. -/
def eligible (f : Field) : Bool := !f.embedded && f.exported

/-- The property automatic mapping makes of a field that is not the key: the field's name, its tag
as the column when the tag is a plain identifier and its name otherwise, and left out of selects
for a `-` tag. -/
def plainProperty (f : Field) : ColumnMap :=
  ⟨f.name, if Identifier.isPlain f.tag then f.tag else f.name, .notAKey, f.tag == "-"⟩

/-- A field that may become the key: not left out, and with a name ending in `id`. -/
def keyNamed (f : Field) : Bool := f.tag != "-" && endsInId f.name

/-- The property of a field that becomes the key. -/
def keyProperty (f : Field) : ColumnMap := { f.plainProperty with key := keyTypeOf f.type }

@[simp] theorem plainProperty_name (f : Field) : f.plainProperty.name = f.name := rfl

@[simp] theorem keyProperty_name (f : Field) : f.keyProperty.name = f.name := rfl

end Field

theorem Identifier.isPlain_ne {s : String} (h : Identifier.isPlain s = true) :
    s ≠ "" ∧ s ≠ "-" := by
  constructor <;> rintro rfl <;> revert h <;> decide

theorem fieldProperty_eq (f : Field) (k : Bool) :
    fieldProperty f k =
      if !k && f.keyNamed then (f.keyProperty, true) else (f.plainProperty, false) := by
  -- a tag that is a plain identifier is neither empty nor `-`
  have hcol : (if f.tag != "" && f.tag != "-" && Identifier.isPlain f.tag then f.tag else f.name) =
      if Identifier.isPlain f.tag then f.tag else f.name := by
    by_cases hp : Identifier.isPlain f.tag = true
    · obtain ⟨h1, h2⟩ := Identifier.isPlain_ne hp
      simp [hp, h1, h2]
    · simp [hp]
  have hkey : (!k && !(f.tag == "-") && endsInId f.name) = (!k && f.keyNamed) := by
    simp [Field.keyNamed, bne, Bool.and_assoc]
  unfold fieldProperty
  simp only [hcol, hkey]
  cases (!k && f.keyNamed) <;> rfl

/-- The properties of the fields automatic mapping takes. Unless a key was found before, the first
field that may become the key does; every other property is plain. -/
def keyedProperties (keyFound : Bool) (fs : List Field) : List ColumnMap :=
  let key := if keyFound then none else fs.findIdx? Field.keyNamed
  fs.mapIdx fun i f => if key = some i then f.keyProperty else f.plainProperty

@[simp] theorem keyedProperties_nil (k : Bool) : keyedProperties k [] = [] := rfl

theorem keyedProperties_true (fs : List Field) :
    keyedProperties true fs = fs.map Field.plainProperty := by
  induction fs with
  | nil => rfl
  | cons f fs ih =>
    simp only [keyedProperties, if_true, List.mapIdx_cons, List.map_cons] at ih ⊢
    simpa using ih

theorem keyedProperties_cons (k : Bool) (f : Field) (fs : List Field) :
    keyedProperties k (f :: fs) =
      (fieldProperty f k).1 :: keyedProperties (k || (fieldProperty f k).2) fs := by
  rw [fieldProperty_eq]
  cases k with
  | true => simp [keyedProperties_true]
  | false =>
    by_cases hk : f.keyNamed = true
    · -- the first field is the key, and no later one is
      simp only [keyedProperties, hk, List.findIdx?_cons, if_true, List.mapIdx_cons,
        Bool.not_false, Bool.and_self, Bool.or_true, Bool.false_eq_true, if_false]
      simp
    · simp only [keyedProperties, hk, List.findIdx?_cons, List.mapIdx_cons, Bool.false_eq_true,
        if_false, Bool.not_false, Bool.true_and, Bool.or_false]
      simp

theorem keys_keyedProperties (k : Bool) (fs : List Field) :
    ((keyedProperties k fs).filter (·.key.isKey)).length =
      if !k && fs.any Field.keyNamed then 1 else 0 := by
  induction fs generalizing k with
  | nil => simp
  | cons f fs ih =>
    rw [keyedProperties_cons, fieldProperty_eq]
    have hkey := isKey_keyTypeOf f.type
    cases k with
    | true => simp [keyedProperties_true, Field.plainProperty]
    | false =>
      by_cases hk : f.keyNamed = true
      · simp [hk, keyedProperties_true, Field.keyProperty, Field.plainProperty, hkey]
      · simpa [hk, Field.plainProperty] using ih false

/-- Whether automatic mapping takes a field, after the properties mapped before and the fields
before it: it may take the field, and neither a property mapped before nor a field before it that
it may take has the field's name, ignoring case. -/
def takes (props : List ColumnMap) (before : List Field) (f : Field) : Bool :=
  f.eligible && !props.any (sameNameIgnoringCase ·.name f.name) &&
    !before.any fun g => g.eligible && sameNameIgnoringCase g.name f.name

/-- The fields automatic mapping takes, in order, each judged against the fields before it. -/
def takenFields (props : List ColumnMap) : List Field → List Field → List Field
  | _, [] => []
  | before, f :: fs =>
    (if takes props before f then [f] else []) ++ takenFields props (before ++ [f]) fs

theorem mem_takenFields {props : List ColumnMap} {g : Field} :
    ∀ {fs before : List Field}, g ∈ takenFields props before fs →
      ∃ pre post, fs = pre ++ g :: post ∧ takes props (before ++ pre) g = true
  | [], _, h => by simp [takenFields] at h
  | f :: fs, before, h => by
    rw [takenFields, List.mem_append] at h
    rcases h with h | h
    · by_cases ht : takes props before f = true
      · rw [if_pos ht, List.mem_singleton] at h
        subst h
        exact ⟨[], fs, rfl, by simpa using ht⟩
      · rw [if_neg ht] at h
        cases h
    · obtain ⟨pre, post, rfl, ht⟩ := mem_takenFields h
      exact ⟨f :: pre, post, rfl, by simpa using ht⟩

theorem eligible_of_takes {props : List ColumnMap} {before : List Field} {f : Field}
    (h : takes props before f = true) : f.eligible = true := by
  simp only [takes, Bool.and_eq_true] at h
  exact h.1.1

theorem takes_props {props : List ColumnMap} {before : List Field} {f : Field}
    (h : takes props before f = true) : ∀ p ∈ props, sameNameIgnoringCase p.name f.name = false := by
  simp only [takes, Bool.and_eq_true, Bool.not_eq_true', List.any_eq_false] at h
  intro p hp
  simpa using h.1.2 p hp

theorem pairwise_takenFields (props : List ColumnMap) :
    ∀ (fs before : List Field),
      (takenFields props before fs).Pairwise fun f g => sameNameIgnoringCase f.name g.name = false
  | [], _ => List.Pairwise.nil
  | f :: fs, before => by
    rw [takenFields, List.pairwise_append]
    refine ⟨by split <;> simp, pairwise_takenFields props fs (before ++ [f]), ?_⟩
    intro a ha g hg
    have haf : a = f ∧ takes props before f = true := by
      split at ha <;> simp_all
    obtain ⟨rfl, hta⟩ := haf
    obtain ⟨pre, post, -, htg⟩ := mem_takenFields hg
    simp only [takes, Bool.and_eq_true, Bool.not_eq_true', List.any_eq_false] at htg
    simpa [eligible_of_takes hta] using htg.2 a (by simp)

theorem names_keyedProperties (k : Bool) (fs : List Field) :
    (keyedProperties k fs).map (·.name) = fs.map (·.name) := by
  induction fs generalizing k with
  | nil => rfl
  | cons f fs ih => simp [keyedProperties_cons, ih]

theorem mem_keyedProperties {q : ColumnMap} :
    ∀ {k : Bool} {fs : List Field}, q ∈ keyedProperties k fs →
      ∃ f ∈ fs, q = f.plainProperty ∨ (q = f.keyProperty ∧ f.keyNamed = true)
  | _, [], h => by simp at h
  | k, f :: fs, h => by
    rw [keyedProperties_cons, fieldProperty_eq, List.mem_cons] at h
    rcases h with h | h
    · refine ⟨f, List.mem_cons_self, ?_⟩
      by_cases hk : (!k && f.keyNamed) = true
      · simp only [hk, if_true] at h
        exact .inr ⟨h, (by simpa using hk : k = false ∧ f.keyNamed = true).2⟩
      · simp only [hk, Bool.false_eq_true, if_false] at h
        exact .inl h
    · obtain ⟨g, hg, hq⟩ := mem_keyedProperties h
      exact ⟨g, List.mem_cons_of_mem f hg, hq⟩

section Walk

variable {props acc : List ColumnMap} {before : List Field} {f : Field}

/-- The properties gathered so far have a name, ignoring case, exactly when a property mapped
before or a field passed that automatic mapping may take has it: the invariant of its walk. -/
def Covers (props acc : List ColumnMap) (before : List Field) : Prop :=
  ∀ x, acc.any (sameNameIgnoringCase ·.name x) =
    (props.any (sameNameIgnoringCase ·.name x) ||
      before.any fun g => g.eligible && sameNameIgnoringCase g.name x)

theorem covers_start (props : List ColumnMap) : Covers props props [] := by
  intro x
  simp

/-- Automatic mapping skips exactly the fields the rules do not take. -/
theorem Covers.takes_eq (h : Covers props acc before) :
    takes props before f =
      !(f.embedded || !f.exported || acc.any (sameNameIgnoringCase ·.name f.name)) := by
  rw [h f.name, takes, Field.eligible]
  cases f.embedded <;> cases f.exported <;> simp

/-- A skipped field leaves the invariant: either it may not be taken, or a property gathered
already has its name and so every name equal to it ignoring case. -/
theorem Covers.skip (h : Covers props acc before)
    (hs : (f.embedded || !f.exported || acc.any (sameNameIgnoringCase ·.name f.name)) = true) :
    Covers props acc (before ++ [f]) := by
  intro x
  rw [List.any_append, ← Bool.or_assoc, ← h x]
  by_cases hx : (f.eligible && sameNameIgnoringCase f.name x) = true
  · -- a property with the field's name has every name equal to it ignoring case
    obtain ⟨he, hfx⟩ := Bool.and_eq_true_iff.1 hx
    simp only [Field.eligible, Bool.and_eq_true, Bool.not_eq_true'] at he
    have hacc : acc.any (sameNameIgnoringCase ·.name f.name) = true := by
      simpa [he.1, he.2] using hs
    obtain ⟨a, ha, haf⟩ := List.any_eq_true.1 hacc
    have hax : acc.any (sameNameIgnoringCase ·.name x) = true :=
      List.any_eq_true.2 ⟨a, ha, sameNameIgnoringCase_trans haf hfx⟩
    simp [hax]
  · simp_all

theorem Covers.take (h : Covers props acc before) (he : f.eligible = true) {q : ColumnMap}
    (hq : q.name = f.name) : Covers props (acc ++ [q]) (before ++ [f]) := by
  intro x
  rw [List.any_append, List.any_append, h x]
  simp [hq, he, Bool.or_assoc]

/-- Automatic mapping appends the properties of the fields the rules take, keyed by the rules. -/
theorem addFields_eq_keyed :
    ∀ {fs : List Field} {before : List Field} {acc : List ColumnMap} (k : Bool),
      Covers props acc before →
        addFields fs acc k = acc ++ keyedProperties k (takenFields props before fs)
  | [], _, _, _, _ => by simp [addFields, takenFields]
  | f :: fs, before, acc, k, h => by
    by_cases hs : (f.embedded || !f.exported || acc.any (sameNameIgnoringCase ·.name f.name)) = true
    · have hnot : takes props before f = false := by simp [h.takes_eq, hs]
      rw [addFields_cons_of_skipped f fs acc k hs, takenFields, hnot]
      exact addFields_eq_keyed k (h.skip hs)
    · have hkept : (f.embedded || !f.exported || acc.any (sameNameIgnoringCase ·.name f.name)) =
          false := by simpa using hs
      have htakes : takes props before f = true := by simp [h.takes_eq, hkept]
      have he : f.eligible = true := by
        simp only [takes, Bool.and_eq_true] at htakes
        exact htakes.1.1
      rw [addFields_cons_of_kept f fs acc k hkept, takenFields, htakes, if_pos rfl,
        List.singleton_append, keyedProperties_cons,
        addFields_eq_keyed _ (h.take he (fieldProperty_name f k)), List.append_assoc,
        List.singleton_append]

end Walk

theorem autoMapProperties_of_record {e : Entity} {t : RecordType} (he : e.record = some t)
    (props : List ColumnMap) :
    autoMapProperties e props =
      if t.isRecord then
        .ok (props ++ keyedProperties (props.any (·.key.isKey)) (takenFields props [] t.fields))
      else .error (.invalidProperty e.name "" .autoMapNeedsRecord) := by
  simp only [autoMapProperties, he]
  rw [addFields_eq_keyed _ (covers_start props)]

/-- Automatic mapping follows its rules. For a type parameter, automatic mapping keeps the
properties mapped before, unchanged and in front, then adds the property of each visible field
the rules take, in field order. At most one added property is a key: one exactly when no property
mapped before is a key and some taken field may become one. A type that is not a record is
refused. -/
theorem auto_mapping_follows_rules (t : TypeArg) (props : List ColumnMap) :
    autoMapProperties (Entity.ofType t) props =
      (if t.base.isRecord then
        .ok (props ++ keyedProperties (props.any (·.key.isKey)) (takenFields props [] t.base.fields))
      else .error (.invalidProperty t.base.name "" .autoMapNeedsRecord)) ∧
    ((keyedProperties (props.any (·.key.isKey)) (takenFields props [] t.base.fields)).filter
        (·.key.isKey)).length =
      if !props.any (·.key.isKey) && (takenFields props [] t.base.fields).any Field.keyNamed then 1
      else 0 :=
  ⟨autoMapProperties_of_record rfl props, keys_keyedProperties _ _⟩

end PredicateSql
