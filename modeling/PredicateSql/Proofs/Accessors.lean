import Mathlib
import PredicateSql.Property

/-! Which field an accessor selects. An accessor is judged by the pointer it hands back for a zero
record. Where the direct fields are laid out as a struct's are, a pointer into a direct field
selects that field's name when the field is exported and not embedded, and nothing otherwise. -/
namespace PredicateSql

/-! ### Direct fields -/

/-- The direct fields of a record in declaration order: those it does not promote from an embedded
record. -/
def directFields (fields : List Field) : List Field := fields.filter (·.depth == 0)

/-- The first direct field that begins at an offset and has a type. -/
def firstDirectAt (fields : List Field) (off : Int) (ty : FieldType) : Option Field :=
  (directFields fields).find? fun f => (f.offset : Int) == off && f.type == ty

theorem firstDirectAt_eq_find? (fields : List Field) (off : Int) (ty : FieldType) :
    firstDirectAt fields off ty =
      fields.find? (fun f => f.depth == 0 && (f.offset : Int) == off && f.type == ty) := by
  simp only [firstDirectAt, directFields, List.find?_filter, Bool.and_assoc]
  congr 1
  funext f
  simp only [Bool.decide_and, Bool.decide_eq_true]

theorem firstDirectAt_mem {fields : List Field} {off : Int} {ty : FieldType} {f : Field}
    (h : firstDirectAt fields off ty = some f) :
    f ∈ directFields fields ∧ (f.offset : Int) = off ∧ f.type = ty := by
  have hp := List.find?_some h
  simp only [Bool.and_eq_true, beq_iff_eq] at hp
  exact ⟨List.mem_of_find?_eq_some h, hp⟩

theorem firstDirectAt_isSome {fields : List Field} {f : Field} (hf : f ∈ directFields fields) :
    (firstDirectAt fields f.offset f.type).isSome := by
  rw [firstDirectAt, List.find?_isSome]
  exact ⟨f, hf, by simp⟩

/-! ### Resolving an accessor -/

section Resolve

variable {t : RecordType} {fields : List Field} {size : Nat}

/-- An accessor on a record type selects a property exactly when it hands back a pointer inside
the record whose first direct field at that place and of that type is exported and not embedded;
the property is that field's name. -/
theorem propertyName_eq_ok_iff (ht : t.shape = .record fields size) {a : Accessor} {n : String} :
    TypeArg.propertyName ⟨t, 0⟩ a = .ok n ↔
      ∃ off ty f, a = .returns (.address off ty) ∧ 0 ≤ off ∧ off < size ∧
        firstDirectAt fields off ty = some f ∧ f.exported = true ∧ f.embedded = false ∧
        f.name = n := by
  cases a with
  | absent => simp [TypeArg.propertyName, ht]
  | panics m => simp [TypeArg.propertyName, ht]
  | returns target =>
    cases target with
    | nothing => simp [TypeArg.propertyName, ht]
    | nullPointer => simp [TypeArg.propertyName, ht]
    | elsewhere ty => simp [TypeArg.propertyName, ht]
    | address off ty =>
      simp only [TypeArg.propertyName, ht, ← firstDirectAt_eq_find?]
      by_cases hr : 0 ≤ off ∧ off < size
      · have hr' : (decide (0 ≤ off) && decide (off < (size : Int))) = true := by simpa using hr
        rw [if_pos hr']
        cases hf : firstDirectAt fields off ty with
        | none => simp [hf]
        | some f =>
          by_cases he : f.embedded = true
          · simp [hf, he]
          · by_cases hx : f.exported = true
            · simp [hf, he, hx, hr]
            · simp [hf, he, hx]
      · have hr' : ¬(decide (0 ≤ off) && decide (off < (size : Int))) = true := by
          simpa using hr
        rw [if_neg hr']
        simp only [reduceCtorEq, false_iff, not_exists, not_and, Accessor.returns.injEq,
          Target.address.injEq]
        rintro _ _ _ ⟨rfl, rfl⟩ h0 hs
        exact absurd ⟨h0, hs⟩ hr

theorem propertyName_eq_error {t : TypeArg} {a : Accessor} {e : Error}
    (h : t.propertyName a = .error e) : ∃ fault, e = .invalidProperty t.base.name "" fault := by
  dsimp only [TypeArg.propertyName] at h
  (repeat' split at h) <;> cases h <;> exact ⟨_, rfl⟩

theorem propertyName_elsewhere (ht : t.shape = .record fields size) (ty : FieldType) (n : String) :
    TypeArg.propertyName ⟨t, 0⟩ (.returns (.elsewhere ty)) ≠ .ok n := by
  simp [propertyName_eq_ok_iff ht]

theorem propertyName_outside (ht : t.shape = .record fields size) {off : Int} (ty : FieldType)
    (hout : off < 0 ∨ size ≤ off) (n : String) :
    TypeArg.propertyName ⟨t, 0⟩ (.returns (.address off ty)) ≠ .ok n := by
  rw [Ne, propertyName_eq_ok_iff ht]
  rintro ⟨_, _, _, ⟨⟩, h0, hs, -⟩
  omega

end Resolve

/-! ### Laid out as a struct -/

/-- Two fields share no byte, for a size of each type. -/
def Field.Apart (width : FieldType → Nat) (f g : Field) : Prop :=
  f.offset + width f.type ≤ g.offset ∨ g.offset + width g.type ≤ f.offset

instance (width : FieldType → Nat) : Std.Symm (Field.Apart width) :=
  ⟨fun _ _ h => h.symm⟩

/-- A value of a type at an offset lies inside a field, for a size of each type. -/
def Field.Encloses (width : FieldType → Nat) (f : Field) (off : Int) (ty : FieldType) : Prop :=
  (f.offset : Int) ≤ off ∧ off + width ty ≤ f.offset + width f.type

/-- A record laid out as a struct is, for a size of each type: its direct fields lie inside it and
apart from each other. -/
structure LaidOut (width : FieldType → Nat) (fields : List Field) (size : Nat) : Prop where
  apart : (directFields fields).Pairwise (Field.Apart width)
  within : ∀ f ∈ directFields fields, f.offset + width f.type ≤ size

section Layout

variable {width : FieldType → Nat} {fields : List Field} {size : Nat}

theorem LaidOut.firstDirectAt_eq (hl : LaidOut width fields size) {f g : Field}
    (hf : f ∈ directFields fields) {off : Int} {ty : FieldType} (hin : f.Encloses width off ty)
    (hw : width ty ≠ 0) (hg : firstDirectAt fields off ty = some g) : g = f := by
  obtain ⟨hmem, hoff, hty⟩ := firstDirectAt_mem hg
  by_contra hne
  -- two distinct direct fields share the bytes of the value
  have hapart := hl.apart.forall hmem hf hne
  subst hty
  unfold Field.Apart at hapart
  unfold Field.Encloses at hin
  omega

/-- In a laid-out record, the address of an exported, non-embedded direct field of non-zero size
selects that field's name. -/
theorem LaidOut.propertyName_field (hl : LaidOut width fields size) {t : RecordType}
    (ht : t.shape = .record fields size) {f : Field} (hf : f ∈ directFields fields)
    (hx : f.exported = true) (he : f.embedded = false) (hw : width f.type ≠ 0) :
    TypeArg.propertyName ⟨t, 0⟩ (.returns (.address f.offset f.type)) = .ok f.name := by
  obtain ⟨g, hg⟩ := Option.isSome_iff_exists.1 (firstDirectAt_isSome hf)
  have hgf : g = f := hl.firstDirectAt_eq hf ⟨le_refl _, le_refl _⟩ hw hg
  subst hgf
  have hsize := hl.within g hf
  refine (propertyName_eq_ok_iff ht).2 ⟨_, _, g, rfl, by omega, by omega, hg, hx, he, rfl⟩

theorem LaidOut.propertyName_inside (hl : LaidOut width fields size) {t : RecordType}
    (ht : t.shape = .record fields size) {f : Field} (hf : f ∈ directFields fields) {off : Int}
    {ty : FieldType} (hin : f.Encloses width off ty) (hw : width ty ≠ 0)
    (hfault : f.embedded = true ∨ ty ≠ f.type) (n : String) :
    TypeArg.propertyName ⟨t, 0⟩ (.returns (.address off ty)) ≠ .ok n := by
  rw [Ne, propertyName_eq_ok_iff ht]
  rintro ⟨_, _, g, ⟨⟩, -, -, hg, -, he, -⟩
  have hgf : g = f := hl.firstDirectAt_eq hf hin hw hg
  subst hgf
  rcases hfault with hemb | hty
  · simp [hemb] at he
  · exact hty (firstDirectAt_mem hg).2.2.symm

end Layout

/-! ### Selection by accessors -/

/-- What a record laid out as a struct decides about accessors to its fields, for a size of each
type: the address of an exported, non-embedded direct field of non-zero size selects the field's
name, and a pointer to a value of non-zero size inside a direct field selects nothing when that
field is embedded (the value is a field it promotes, or part of one) or has another type. -/
structure LayoutSelection (width : FieldType → Nat) (t : RecordType) (fields : List Field) :
    Prop where
  field_selected : ∀ f ∈ directFields fields, f.exported = true → f.embedded = false →
    width f.type ≠ 0 →
      TypeArg.propertyName ⟨t, 0⟩ (.returns (.address f.offset f.type)) = .ok f.name
  inside_unselected : ∀ f ∈ directFields fields, ∀ off ty, f.Encloses width off ty →
    width ty ≠ 0 → (f.embedded = true ∨ ty ≠ f.type) →
      ∀ n, TypeArg.propertyName ⟨t, 0⟩ (.returns (.address off ty)) ≠ .ok n

/-- Accessors on a record type select by place and type. An accessor selects a property exactly
when, called on a zero record, it hands back a pointer inside the record whose first direct field
at that offset and of that type is exported and not embedded, and the property is that field's
name; every other accessor, a failing one too, is refused as an invalid property expression of the
type's entity, and a pointer outside the record never selects anything. Laid out as a struct, the
record's exported, non-embedded fields of non-zero size are selected by their addresses, while
pointers into embedded fields or to parts of other types select nothing. -/
theorem accessor_selects_first_direct_field {t : RecordType} {fields : List Field} {size : Nat}
    (ht : t.shape = .record fields size) (width : FieldType → Nat) :
    (∀ a n, TypeArg.propertyName ⟨t, 0⟩ a = .ok n ↔
      ∃ off ty f, a = .returns (.address off ty) ∧ 0 ≤ off ∧ off < size ∧
        firstDirectAt fields off ty = some f ∧ f.exported = true ∧ f.embedded = false ∧
        f.name = n) ∧
    (∀ a e, TypeArg.propertyName ⟨t, 0⟩ a = .error e →
      ∃ fault, e = .invalidProperty t.name "" fault) ∧
    (∀ ty n, TypeArg.propertyName ⟨t, 0⟩ (.returns (.elsewhere ty)) ≠ .ok n) ∧
    (∀ (off : Int) ty n, off < 0 ∨ size ≤ off →
      TypeArg.propertyName ⟨t, 0⟩ (.returns (.address off ty)) ≠ .ok n) ∧
    (LaidOut width fields size → LayoutSelection width t fields) :=
  ⟨fun _ _ => propertyName_eq_ok_iff ht, fun _ _ => propertyName_eq_error,
    propertyName_elsewhere ht, fun _ ty n hout => propertyName_outside ht ty hout n,
    fun hl => ⟨fun _ hf hx he hw => hl.propertyName_field ht hf hx he hw,
      fun _ hf _ _ hin hw hfault n => hl.propertyName_inside ht hf hin hw hfault n⟩⟩

/-- A record that embeds another at its start, with a title after it, laid out with eight-byte
words and sixteen-byte texts. -/
theorem embedding_record_selection :
    LaidOut (fun ty => if ty = .other "string" then 16 else 8)
      [{ name := "Audited", type := .other "main.Audited", offset := 0, embedded := true },
        { name := "Version", type := .integer .int "int", offset := 0, depth := 1 },
        { name := "Title", type := .other "string", offset := 8 }] 24 ∧
    LayoutSelection (fun ty => if ty = .other "string" then 16 else 8)
      ⟨"Document", "main.Document", .record
        [{ name := "Audited", type := .other "main.Audited", offset := 0, embedded := true },
          { name := "Version", type := .integer .int "int", offset := 0, depth := 1 },
          { name := "Title", type := .other "string", offset := 8 }] 24⟩
      [{ name := "Audited", type := .other "main.Audited", offset := 0, embedded := true },
        { name := "Version", type := .integer .int "int", offset := 0, depth := 1 },
        { name := "Title", type := .other "string", offset := 8 }] := by
  have hl : LaidOut (fun ty => if ty = .other "string" then 16 else 8)
      [{ name := "Audited", type := .other "main.Audited", offset := 0, embedded := true },
        { name := "Version", type := .integer .int "int", offset := 0, depth := 1 },
        { name := "Title", type := .other "string", offset := 8 }] 24 :=
    ⟨by simp [directFields, Field.Apart], by simp [directFields]⟩
  exact ⟨hl, (accessor_selects_first_direct_field rfl _).2.2.2.2 hl⟩

end PredicateSql
