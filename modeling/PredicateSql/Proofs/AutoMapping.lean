import Mathlib
import PredicateSql.Registry
import PredicateSql.Predicate.Build
import PredicateSql.Proofs.Walk

/-! Which accepted properties automatic mapping keeps: a name a leaf accepts is mapped when its
field does not embed a record and no earlier field has the name ignoring case. An embedding field
is accepted and not mapped. -/
namespace PredicateSql

@[simp] theorem fieldProperty_name (f : Field) (k : Bool) : (fieldProperty f k).1.name = f.name :=
  rfl

section AddFields

variable (g : Field) (fs : List Field) (acc : List ColumnMap) (k : Bool)

theorem addFields_cons_of_skipped
    (h : (g.embedded || !g.exported || acc.any (sameNameIgnoringCase ·.name g.name)) = true) :
    addFields (g :: fs) acc k = addFields fs acc k := by
  conv_lhs => unfold addFields
  rw [if_pos h]

theorem addFields_cons_of_kept
    (h : (g.embedded || !g.exported || acc.any (sameNameIgnoringCase ·.name g.name)) = false) :
    addFields (g :: fs) acc k =
      addFields fs (acc ++ [(fieldProperty g k).1]) (k || (fieldProperty g k).2) := by
  conv_lhs => unfold addFields
  rw [if_neg (by simp [h])]

end AddFields

/-- A field is mapped when it is exported, does not embed a record, and no field before it and no
property mapped before has its name ignoring case. -/
theorem mem_addFields {f : Field} (hemb : f.embedded = false) (hexp : f.exported = true) :
    ∀ {pre : List Field} (post : List Field) {acc : List ColumnMap} (k : Bool),
      (∀ a ∈ acc, sameNameIgnoringCase a.name f.name = false) →
      (∀ g ∈ pre, sameNameIgnoringCase g.name f.name = false) →
      ∃ q ∈ addFields (pre ++ f :: post) acc k, q.name = f.name
  | [], post, acc, k, hacc, _ => by
    have hkept : (f.embedded || !f.exported || acc.any (sameNameIgnoringCase ·.name f.name)) =
        false := by
      simpa [hemb, hexp] using hacc
    rw [List.nil_append, addFields_cons_of_kept f post acc k hkept]
    have hkeeps := addFields_prefix post (acc ++ [(fieldProperty f k).1]) (k || (fieldProperty f k).2)
    exact ⟨_, hkeeps.subset (List.mem_append_right acc (List.mem_singleton_self _)),
      fieldProperty_name f k⟩
  | g :: pre, post, acc, k, hacc, hpre => by
    have hpre' : ∀ g' ∈ pre, sameNameIgnoringCase g'.name f.name = false :=
      fun g' hg' => hpre g' (List.mem_cons_of_mem g hg')
    rw [List.cons_append]
    by_cases hskip : (g.embedded || !g.exported || acc.any (sameNameIgnoringCase ·.name g.name)) = true
    · rw [addFields_cons_of_skipped g _ acc k hskip]
      exact mem_addFields hemb hexp post k hacc hpre'
    · rw [addFields_cons_of_kept g _ acc k (by simpa using hskip)]
      refine mem_addFields hemb hexp post _ ?_ hpre'
      intro a ha
      rcases List.mem_append.1 ha with ha | ha
      · exact hacc a ha
      · rw [List.mem_singleton.1 ha, fieldProperty_name]
        exact hpre g List.mem_cons_self

theorem kept_field {g : Field} {acc : List ColumnMap}
    (h : (g.embedded || !g.exported || acc.any (sameNameIgnoringCase ·.name g.name)) = false) :
    g.embedded = false ∧ g.exported = true := by
  simp only [Bool.or_eq_false_iff, Bool.not_eq_false'] at h
  exact h.1

theorem mem_of_mem_addFields {q : ColumnMap} :
    ∀ {fs : List Field} {acc : List ColumnMap} {k : Bool}, q ∈ addFields fs acc k →
      q ∈ acc ∨ ∃ f ∈ fs, f.embedded = false ∧ f.exported = true ∧ q.name = f.name
  | [], _, _, h => .inl h
  | g :: fs, acc, k, h => by
    by_cases hskip : (g.embedded || !g.exported || acc.any (sameNameIgnoringCase ·.name g.name)) = true
    · rw [addFields_cons_of_skipped g fs acc k hskip] at h
      rcases mem_of_mem_addFields h with h | ⟨f, hf, hrest⟩
      · exact .inl h
      · exact .inr ⟨f, List.mem_cons_of_mem g hf, hrest⟩
    · have hkept : (g.embedded || !g.exported || acc.any (sameNameIgnoringCase ·.name g.name)) =
          false := by simpa using hskip
      rw [addFields_cons_of_kept g fs acc k hkept] at h
      rcases mem_of_mem_addFields h with h | ⟨f, hf, hrest⟩
      · rcases List.mem_append.1 h with h | h
        · exact .inl h
        · -- the property of this very field
          rw [List.mem_singleton.1 h]
          obtain ⟨hemb, hexp⟩ := kept_field hkept
          exact .inr ⟨g, List.mem_cons_self, hemb, hexp, fieldProperty_name g k⟩
      · exact .inr ⟨f, List.mem_cons_of_mem g hf, hrest⟩

theorem RecordType.fieldByName?_mem {t : RecordType} {p : String} {f : Field}
    (h : t.fieldByName? p = some f) : f ∈ t.fields ∧ f.name = p := by
  unfold RecordType.fieldByName? at h
  cases hd : ((t.fields.filter (·.name == p)).map (·.depth)).min? with
  | none => simp [hd] at h
  | some d =>
    simp only [hd] at h
    split at h
    · next f' hsel =>
      cases h
      -- the selected field is the only one of that name at the shallowest depth
      have hmem : f ∈ (t.fields.filter (·.name == p)).filter (·.depth == d) := by simp [hsel]
      simp only [List.mem_filter] at hmem
      exact ⟨hmem.1.1, by simpa using hmem.1.2⟩
    · cases h

theorem checkProperty_of_record {t : TypeArg} {p : String}
    (h : (Entity.ofType t).checkProperty p = .ok ()) :
    t.base.isRecord = true ∧ ∃ f, t.base.fieldByName? p = some f ∧ f.exported = true := by
  unfold Entity.checkProperty Entity.ofType at h
  simp only at h
  by_cases hrec : t.base.isRecord = true
  · rw [if_neg (by simp [hrec])] at h
    cases hf : t.base.fieldByName? p with
    | none =>
      rw [hf] at h
      cases h
    | some f =>
      rw [hf] at h
      by_cases hexp : f.exported = true
      · exact ⟨hrec, f, rfl, hexp⟩
      · simp [hexp] at h
  · simp [hrec] at h

/-- The mapping automatic mapping makes for a record type: the type's name as the table, and a
property per mapped field. -/
def RecordType.autoMapping (t : RecordType) : TableMap :=
  ⟨⟨t.name, some t⟩, "", t.name, addFields t.fields [] false⟩

theorem autoMapper_build {t : RecordType} (hrec : t.isRecord = true) (hname : t.name ≠ "") :
    (Mapper.ofEntity ⟨t.name, some t⟩).withAutoMap.build = .ok t.autoMapping := by
  have htable : (t.name == "") = false := by simpa using hname
  simp [Mapper.withAutoMap, Mapper.ofEntity, Mapper.build, autoMapProperties, hrec, htable,
    RecordType.autoMapping]

theorem TableMap.find?_isSome {m : TableMap} {q : ColumnMap} (hq : q ∈ m.properties) :
    (m.find? q.name).isSome := by
  unfold TableMap.find?
  rw [List.find?_isSome]
  exact ⟨q, List.mem_reverse.2 hq, by simp⟩

theorem resolve_ofType_of_unbound {r : Registry} {t : TypeArg} (hauto : r.autoMap = true)
    (hfree : r.find? t.base.name = none) (hrec : t.base.isRecord = true) (hname : t.base.name ≠ "") :
    r.resolve (Entity.ofType t) =
      (.ok t.base.autoMapping, { r with maps := r.maps ++ [(t.base.name, t.base.autoMapping)] }) := by
  have hbuild := autoMapper_build hrec hname
  simp [Registry.resolve, Registry.resolveLocked, Entity.ofType, hfree, hbuild, hauto]

/-- A name that selects an exported field is a property of the automatic mapping when the field
does not embed a record and no field before it has the name ignoring case. -/
theorem RecordType.mapped_of_kept {t : RecordType} {p : String} {f : Field}
    (hf : t.fieldByName? p = some f) (hexp : f.exported = true) (hemb : f.embedded = false)
    (hfirst : ∃ pre post, t.fields = pre ++ f :: post ∧
      ∀ g ∈ pre, sameNameIgnoringCase g.name p = false) :
    ∃ q ∈ t.autoMapping.properties, q.name = p := by
  obtain ⟨-, rfl⟩ := RecordType.fieldByName?_mem hf
  obtain ⟨pre, post, hfields, hpre⟩ := hfirst
  rw [RecordType.autoMapping, hfields]
  exact @mem_addFields f hemb hexp pre post [] false (by simp) hpre

namespace Render

variable {σ : Type} {r : Resolver σ} {s t : Pass σ} {err : Error}

theorem guard_run_eq_error {holds : Bool} {e : Error}
    (h : ((Check.guard holds e).run r).run s = .error err t) : holds = false ∧ err = e := by
  cases holds
  · cases h
    exact ⟨rfl, rfl⟩
  · cases h

theorem bindCheck_run_eq_error {property : String} {v : Value}
    (h : ((Check.bind property v).run r).run s = .error err t) : ∃ n, err = .duplicateParameter n := by
  rcases bind_run_eq_error.1 h with hb | ⟨_, _, -, hp⟩
  · cases hc : s.params.contains (paramName property s.params.size)
    · rw [bind_run_of_fresh hc] at hb
      cases hb
    · rw [bind_run_of_taken hc] at hb
      cases hb
      exact ⟨_, rfl⟩
  · cases hp

theorem resolve_run_of_cached {e : Entity} {m : TableMap} (hc : s.cache.lookup e.name = some m) :
    (resolve r e).run s = .ok m s := by
  simp only [resolve, EStateM.run, hc]

theorem resolve_run_of_uncached {e : Entity} {m : TableMap} {w : σ}
    (hc : s.cache.lookup e.name = none) (hr : r.resolve e s.world = (.ok m, w)) :
    (resolve r e).run s = .ok m { s with world := w, cache := (e.name, m) :: s.cache } := by
  simp only [resolve, EStateM.run, hc, hr]

theorem column_run_of_unmapped {e : Entity} {property : String} {m : TableMap} {w : σ}
    (hc : s.cache.lookup e.name = none) (hr : r.resolve e s.world = (.ok m, w))
    (hp : m.find? property = none) :
    ((Check.column e property).run r).run s =
      .error (.unknownProperty m.entity.name property) { s with world := w, cache := (e.name, m) :: s.cache } := by
  simp only [Check.run]
  rw [EStateM.run_bind, resolve_run_of_uncached hc hr]
  simp [hp]

end Render

theorem FieldTest.ofProperty_eq_ok {t : TypeArg} {property op : String} {v : Value} {leaf : FieldTest}
    (h : FieldTest.ofProperty t property op v = .ok leaf) :
    (Entity.ofType t).checkProperty property = .ok () ∧ Comparison.isValid op = true ∧
      leaf = ⟨Entity.ofType t, property, op, v, false⟩ := by
  unfold FieldTest.ofProperty checkComparison at h
  cases hc : (Entity.ofType t).checkProperty property with
  | error e => simp [hc, bind, Except.bind] at h
  | ok u =>
    by_cases hop : Comparison.isValid op = true
    · simp only [hc, hop, if_true, bind, Except.bind, pure, Except.pure, Except.ok.injEq] at h
      exact ⟨rfl, hop, h.symm⟩
    · simp [hc, hop, bind, Except.bind] at h

/-- A record type that embeds another: the embedding field `Audited`, the field `Version` it
promotes, then `Title` and `DocumentID`. -/
def documentType : RecordType :=
  ⟨"Document", "main.Document", .record
    [{ name := "Audited", type := .other "main.Audited", offset := 0, embedded := true },
      { name := "Version", type := .integer .int "int", offset := 0, depth := 1 },
      { name := "Title", type := .other "string", offset := 8 },
      { name := "DocumentID", type := .pointer (.integer .uint "uint"), offset := 24 }] 32⟩

/-- A leaf accepts the embedding field `Audited` of `Document`, yet the mapping made for the type
automatically has no such property, so compiling the leaf fails on it. -/
theorem embedding_field_leaf_fails_to_compile :
    ∃ leaf, FieldTest.ofProperty ⟨documentType, 0⟩ "Audited" "eq" (.int .int 1) = .ok leaf ∧
      (Render.run (Render.predicate Registry.resolver (.field leaf)) (some Params.empty)
        Registry.empty).result = .error (.unknownProperty "Document" "Audited") := by
  refine ⟨_, rfl, ?_⟩
  -- only non-embedding fields are mapped, and `Audited` is the embedding one
  have hunmapped : documentType.autoMapping.find? "Audited" = none := by
    unfold TableMap.find?
    rw [List.find?_eq_none]
    intro q hq hname
    rcases mem_of_mem_addFields (List.mem_reverse.1 hq) with hq | ⟨f, hf, hemb, -, hqf⟩
    · cases hq
    · have hqa : q.name = "Audited" := by simpa using hname
      rw [hqa] at hqf
      revert hemb hqf
      revert f
      decide
  have hres : Registry.resolver.resolve (Entity.ofType ⟨documentType, 0⟩) Registry.empty = _ :=
    @resolve_ofType_of_unbound Registry.empty ⟨documentType, 0⟩ rfl rfl rfl (by decide)
  have hfail := (Render.render_fails_at_first_failing_check Registry.resolver
    (.field ⟨Entity.ofType ⟨documentType, 0⟩, "Audited", "eq", .int .int 1, false⟩) Params.empty _
    Registry.empty _ _).2
      ⟨[], _, _, _, _, rfl, rfl, Render.column_run_of_unmapped rfl hres hunmapped, rfl, rfl⟩
  rw [hfail]
  rfl

end PredicateSql
