import Mathlib
import PredicateSql.Proofs.MintedNames

/-! Trees built by the checked constructors, compiled on a registry that maps their record types
automatically. Every check such a tree makes passes or is about an operand, but for a name the leaf
constructors accept on a field that automatic mapping leaves out. -/
namespace PredicateSql

open Render

/-- The trees the checked constructors build over the record types `ts`: leaves over one of them,
their properties chosen by name or by accessor, groups of built trees, existential nodes over one of
them, and negations. -/
inductive Predicate.Built (ts : List RecordType) : Predicate → Prop
  | field {t : TypeArg} {property op : String} {v : Value} {leaf : FieldTest} :
      t.base ∈ ts → FieldTest.ofProperty t property op v = .ok leaf → Built ts (.field leaf)
  | fieldOf {t : TypeArg} {a : Accessor} {op : String} {v : Value} {leaf : FieldTest} :
      t.base ∈ ts → FieldTest.ofAccessor t a op v = .ok leaf → Built ts (.field leaf)
  | compare {t t2 : TypeArg} {property op property2 : String} {leaf : ColumnTest} :
      t.base ∈ ts → t2.base ∈ ts → ColumnTest.ofProperties t property op t2 property2 = .ok leaf →
      Built ts (.compare leaf)
  | compareOf {t t2 : TypeArg} {a a2 : Accessor} {op : String} {leaf : ColumnTest} :
      t.base ∈ ts → t2.base ∈ ts → ColumnTest.ofAccessors t a op t2 a2 = .ok leaf →
      Built ts (.compare leaf)
  | join {junction : String} {children : List Predicate} {p : Predicate} :
      (∀ c ∈ children, Built ts c) → Predicate.join junction children = .ok p → Built ts p
  | existsOf {t : TypeArg} {inner : Predicate} (negated : Bool) :
      t.base ∈ ts → Built ts inner → Built ts (Predicate.existsOf t inner negated)
  | negate {p q : Predicate} : Built ts p → Predicate.negate p = .ok q → Built ts q

/-- The errors an operand causes: a sequence under another operator than `eq`, an empty sequence,
and a parameter name already taken. -/
inductive Error.OnOperand : Error → Prop
  | sequenceNeedsEq (op : String) : OnOperand (.invalidOperator op .sequenceNeedsEq)
  | emptySequence (entity property : String) :
      OnOperand (.invalidPredicate (.emptySequence entity property))
  | duplicateParameter (name : String) : OnOperand (.duplicateParameter name)

/-- A name the leaf constructors accept on a record type and automatic mapping leaves out: it
selects an exported field that embeds a record or comes after a field of the same name, ignoring
case. -/
def RecordType.Drops (t : RecordType) (q : String) : Prop :=
  ∃ f, t.fieldByName? q = some f ∧ f.exported = true ∧
    (f.embedded = true ∨ ∃ pre post, t.fields = pre ++ f :: post ∧
      ∃ g ∈ pre, sameNameIgnoringCase g.name q = true)

theorem RecordType.drops_of_find?_eq_none {t : RecordType} {q : String} {f : Field}
    (hf : t.fieldByName? q = some f) (hx : f.exported = true) (hnone : t.autoMapping.find? q = none) :
    t.Drops q := by
  refine ⟨f, hf, hx, ?_⟩
  by_contra hkept
  simp only [not_or, Bool.not_eq_true, not_exists, not_and] at hkept
  obtain ⟨pre, post, hsplit⟩ := List.append_of_mem (RecordType.fieldByName?_mem hf).1
  obtain ⟨p, hp, hname⟩ := t.mapped_of_kept hf hx hkept.1
    ⟨pre, post, hsplit, hkept.2 pre post hsplit⟩
  have hsome := hname ▸ TableMap.find?_isSome hp
  rw [hnone] at hsome
  cases hsome

/-! ### The checks of a built tree -/

theorem FieldTest.ofAccessor_eq_ok {t : TypeArg} {a : Accessor} {op : String} {v : Value}
    {leaf : FieldTest} (h : FieldTest.ofAccessor t a op v = .ok leaf) :
    ∃ p, FieldTest.ofProperty t p op v = .ok leaf := by
  unfold FieldTest.ofAccessor at h
  cases hp : t.propertyName a with
  | error e => simp [hp, Bind.bind, Except.bind] at h
  | ok p => exact ⟨p, by simpa [hp, Bind.bind, Except.bind] using h⟩

theorem ColumnTest.ofProperties_eq_ok {t t2 : TypeArg} {property op property2 : String}
    {leaf : ColumnTest} (h : ColumnTest.ofProperties t property op t2 property2 = .ok leaf) :
    (Entity.ofType t).checkProperty property = .ok () ∧
      (Entity.ofType t2).checkProperty property2 = .ok () ∧ Comparison.isValid op = true ∧
      leaf = ⟨Entity.ofType t, property, op, Entity.ofType t2, property2, false⟩ := by
  unfold ColumnTest.ofProperties checkComparison at h
  cases hc : (Entity.ofType t).checkProperty property with
  | error e => simp [hc, Bind.bind, Except.bind] at h
  | ok u =>
    cases hc2 : (Entity.ofType t2).checkProperty property2 with
    | error e => simp [hc, hc2, Bind.bind, Except.bind] at h
    | ok u2 =>
      by_cases hop : Comparison.isValid op = true
      · simp only [hc, hc2, hop, if_true, Bind.bind, Except.bind, Pure.pure, Except.pure,
          Except.ok.injEq] at h
        exact ⟨rfl, rfl, hop, h.symm⟩
      · simp [hc, hc2, hop, Bind.bind, Except.bind] at h

theorem ColumnTest.ofAccessors_eq_ok {t t2 : TypeArg} {a a2 : Accessor} {op : String}
    {leaf : ColumnTest} (h : ColumnTest.ofAccessors t a op t2 a2 = .ok leaf) :
    ∃ p p2, ColumnTest.ofProperties t p op t2 p2 = .ok leaf := by
  unfold ColumnTest.ofAccessors at h
  cases hp : t.propertyName a with
  | error e => simp [hp, Bind.bind, Except.bind] at h
  | ok p =>
    cases hp2 : t2.propertyName a2 with
    | error e => simp [hp, hp2, Bind.bind, Except.bind] at h
    | ok p2 => exact ⟨p, p2, by simpa [hp, hp2, Bind.bind, Except.bind] using h⟩

theorem Predicate.join_eq_ok {j : String} {cs : List Predicate} {p : Predicate}
    (h : Predicate.join j cs = .ok p) :
    p = .group j cs ∧ (Junction.ofKeyword? j).isSome = true ∧ cs.isEmpty = false := by
  unfold Predicate.join at h
  split_ifs at h with hj hne
  split at h
  · cases h
  · cases h
    exact ⟨rfl, Option.isSome_iff_ne_none.2 (by simpa using hj), by simpa using hne⟩

theorem Predicate.checks_negate {p q : Predicate} (h : p.negate = .ok q) : checks q = checks p := by
  unfold Predicate.negate at h
  split at h <;> cases h <;> rfl

theorem Predicate.Built.isAbsent {ts : List RecordType} {p : Predicate} (h : p.Built ts) :
    p.isAbsent = false := by
  induction h with
  | field | fieldOf | compare | compareOf | existsOf => rfl
  | join _ hj => rw [(Predicate.join_eq_ok hj).1]; rfl
  | negate _ hn =>
    unfold Predicate.negate at hn
    split at hn <;> cases hn <;> rfl

/-- A check a built tree may make: a guard that holds or is about an operand, and a resolution or
a column of one of the types `ts`, the column's name selecting an exported field. -/
def Render.Check.Fine (ts : List RecordType) : Check → Prop
  | .guard holds err => holds = true ∨ err.OnOperand
  | .resolve e => ∃ t ∈ ts, e = ⟨t.name, some t⟩
  | .column e q => ∃ t ∈ ts, e = ⟨t.name, some t⟩ ∧
      ∃ f, t.fieldByName? q = some f ∧ f.exported = true
  | .bind _ _ => True

section Fine

variable {ts : List RecordType}

theorem fieldChecks_fine {t : TypeArg} {p op : String} {v : Value} {leaf : FieldTest}
    (ht : t.base ∈ ts) (h : FieldTest.ofProperty t p op v = .ok leaf) :
    ∀ c ∈ fieldChecks leaf, c.Fine ts := by
  obtain ⟨hacc, hop, rfl⟩ := FieldTest.ofProperty_eq_ok h
  obtain ⟨-, f, hf, hx⟩ := checkProperty_of_record hacc
  intro c hc
  rcases mem_fieldChecks hc with rfl | rfl | ⟨holds, rfl⟩ | rfl | ⟨x, rfl⟩
  · exact ⟨t.base, ht, rfl, f, hf, hx⟩
  · exact .inr (.sequenceNeedsEq _)
  · exact .inr (.emptySequence _ _)
  · exact .inl hop
  · trivial

theorem compareChecks_fine {t t2 : TypeArg} {p op p2 : String} {leaf : ColumnTest}
    (ht : t.base ∈ ts) (ht2 : t2.base ∈ ts) (h : ColumnTest.ofProperties t p op t2 p2 = .ok leaf) :
    ∀ c ∈ compareChecks leaf, c.Fine ts := by
  obtain ⟨hacc, hacc2, hop, rfl⟩ := ColumnTest.ofProperties_eq_ok h
  obtain ⟨-, f, hf, hx⟩ := checkProperty_of_record hacc
  obtain ⟨-, f2, hf2, hx2⟩ := checkProperty_of_record hacc2
  intro c hc
  simp only [compareChecks, List.mem_cons, List.not_mem_nil, or_false] at hc
  rcases hc with rfl | rfl | rfl
  · exact ⟨t.base, ht, rfl, f, hf, hx⟩
  · exact ⟨t2.base, ht2, rfl, f2, hf2, hx2⟩
  · exact .inl hop

/-- Every check of a built tree is fine. -/
theorem Predicate.Built.checks_fine {p : Predicate} (hp : p.Built ts) :
    ∀ c ∈ checks p, c.Fine ts := by
  induction hp with
  | field ht h => exact fieldChecks_fine ht h
  | fieldOf ht h =>
    obtain ⟨q, hq⟩ := FieldTest.ofAccessor_eq_ok h
    exact fieldChecks_fine ht hq
  | compare ht ht2 h => exact compareChecks_fine ht ht2 h
  | compareOf ht ht2 h =>
    obtain ⟨q, q2, hq⟩ := ColumnTest.ofAccessors_eq_ok h
    exact compareChecks_fine ht ht2 hq
  | join _ hj ih =>
    obtain ⟨rfl, hjunction, hne⟩ := Predicate.join_eq_ok hj
    intro c hc
    rw [checks, List.mem_cons, List.mem_cons] at hc
    rcases hc with rfl | rfl | hc
    · exact .inl hjunction
    · exact .inl (by simp [hne])
    · obtain ⟨child, hchild, hc⟩ := mem_childChecks.1 hc
      exact ih child hchild c hc
  | existsOf negated ht hinner ih =>
    intro c hc
    rw [Predicate.existsOf, checks, List.mem_cons, List.mem_cons] at hc
    rcases hc with rfl | rfl | hc
    · exact .inl (by simp [hinner.isAbsent])
    · exact ⟨_, ht, rfl⟩
    · exact ih c hc
  | negate _ hn ih => rwa [Predicate.checks_negate hn]

theorem Render.Check.Fine.entity {c : Check} (hc : c.Fine ts) :
    ∀ e ∈ c.entity?, ∃ t ∈ ts, e = ⟨t.name, some t⟩ := by
  intro e he
  cases c <;> simp only [Check.entity?, Option.mem_def, reduceCtorEq, Option.some.injEq] at he
  case resolve =>
    subst he
    exact hc
  case column =>
    subst he
    obtain ⟨t, ht, rfl, -⟩ := hc
    exact ⟨t, ht, rfl⟩

end Fine

/-! ### Passes on a registry that maps the types automatically -/

/-- A pass on a registry that maps automatically and binds each type of `ts`, if at all, to its
automatic mapping, with a cache that holds what the registry binds. -/
structure AutoBound (ts : List RecordType) (s : Pass Registry) : Prop where
  autoMap : s.world.autoMap = true
  bound : ∀ t ∈ ts, s.world.find? t.name = none ∨ s.world.find? t.name = some t.autoMapping
  cached : ∀ {n m}, s.cache.lookup n = some m → s.world.find? n = some m

section AutoBound

variable {ts : List RecordType} (hts : ∀ t ∈ ts, t.isRecord = true ∧ t.name ≠ "")
  (hnames : (ts.map (·.name)).Nodup)
include hts hnames

omit hts hnames in
theorem AutoBound.cache_cons {s : Pass Registry} (hs : AutoBound ts s) {w : Registry} {t : RecordType}
    (hk : s.world.Keeps w) (ht : w.find? t.name = some t.autoMapping)
    (hb : ∀ u ∈ ts, w.find? u.name = none ∨ w.find? u.name = some u.autoMapping) :
    AutoBound ts { s with world := w, cache := (t.name, t.autoMapping) :: s.cache } := by
  refine ⟨hk.autoMap.trans hs.autoMap, hb, fun {n m} hn => ?_⟩
  simp only [List.lookup_cons] at hn
  split at hn
  · next he =>
    cases hn
    rwa [beq_iff_eq.1 he]
  · exact hk.bound (hs.cached hn)

theorem AutoBound.resolve {s : Pass Registry} (hs : AutoBound ts s) {t : RecordType} (ht : t ∈ ts) :
    ∃ s', (Render.resolve Registry.resolver ⟨t.name, some t⟩).run s = .ok t.autoMapping s' ∧
      AutoBound ts s' := by
  have hmapped : ∀ m, s.world.find? t.name = some m → m = t.autoMapping := by
    intro m hm
    rcases hs.bound t ht with h | h <;> rw [hm] at h
    · cases h
    · exact Option.some.inj h
  cases hc : s.cache.lookup t.name with
  | some m =>
    obtain rfl := hmapped m (hs.cached hc)
    exact ⟨s, resolve_run_of_cached hc, hs⟩
  | none =>
    cases hf : s.world.find? t.name with
    | some m =>
      obtain rfl := hmapped m hf
      exact ⟨_, resolve_run_of_uncached hc (Registry.resolve_of_find? hf),
        hs.cache_cons (Registry.Keeps.refl _) hf hs.bound⟩
    | none =>
      -- the type is mapped automatically and bound after the registry's bindings
      have hres := @resolve_ofType_of_unbound s.world ⟨t, 0⟩ hs.autoMap hf (hts t ht).1 (hts t ht).2
      refine ⟨_, resolve_run_of_uncached hc hres, hs.cache_cons
        (Registry.keeps_append _ _) (by simp [Registry.find?_append, hf]) fun u hu => ?_⟩
      rw [Registry.find?_append]
      rcases hs.bound u hu with h | h
      · by_cases hn : u.name = t.name
        · obtain rfl := List.inj_on_of_nodup_map hnames hu ht hn
          simp [h]
        · simp [h, List.lookup_cons, beq_false_of_ne hn]
      · simp [h]

theorem AutoBound.preserves_resolve {t : RecordType} (ht : t ∈ ts) :
    Preserves (AutoBound ts) (Render.resolve Registry.resolver ⟨t.name, some t⟩) := by
  intro s hs
  obtain ⟨s', h, hs'⟩ := hs.resolve hts hnames ht
  rw [h]
  exact hs'

theorem Render.Check.Fine.preserves {c : Check} (hc : c.Fine ts) :
    Preserves (AutoBound ts) (c.run Registry.resolver) := by
  refine Render.Check.preserves_run_of (fun e he => ?_)
    (preserves_bind_of_params fun _ _ hs => ⟨hs.autoMap, hs.bound, hs.cached⟩)
  obtain ⟨t, ht, rfl⟩ := hc.entity e he
  exact AutoBound.preserves_resolve hts hnames ht

/-- A fine check fails only on an operand, or on a name that automatic mapping drops. -/
theorem Render.Check.Fine.run_eq_error {c : Check} (hc : c.Fine ts) {s u : Pass Registry} {err : Error}
    (hs : AutoBound ts s) (h : (c.run Registry.resolver).run s = .error err u) :
    err.OnOperand ∨ ∃ t ∈ ts, ∃ q, t.Drops q ∧ err = .unknownProperty t.name q := by
  cases c with
  | guard holds e =>
    obtain ⟨rfl, rfl⟩ := guard_run_eq_error h
    rcases hc with hc | hc
    · cases hc
    · exact .inl hc
  | resolve e =>
    obtain ⟨t, ht, rfl⟩ := hc
    obtain ⟨s', hres, -⟩ := hs.resolve hts hnames ht
    rcases bind_run_eq_error.1 h with hr | ⟨_, _, -, hpure⟩
    · rw [hres] at hr
      cases hr
    · cases hpure
  | column e q =>
    obtain ⟨t, ht, rfl, f, hf, hx⟩ := hc
    obtain ⟨s', hres, -⟩ := hs.resolve hts hnames ht
    rcases bind_run_eq_error.1 h with hr | ⟨m, u', hm, hrest⟩
    · rw [hres] at hr
      cases hr
    · rw [hres] at hm
      cases hm
      cases hq : t.autoMapping.find? q with
      | some col => simp [hq] at hrest
      | none =>
        simp only [hq, Option.isNone_none, if_true] at hrest
        cases hrest
        exact .inr ⟨t, ht, q, RecordType.drops_of_find?_eq_none hf hx hq, rfl⟩
  | bind property v =>
    obtain ⟨n, rfl⟩ := bindCheck_run_eq_error h
    exact .inl (.duplicateParameter n)

/-- A walk of fine checks fails only on an operand, or on a name that automatic mapping drops: the
checks before the failing one keep the pass `AutoBound`. -/
theorem walk_fine_eq_error {cs : List Check} (hcs : ∀ c ∈ cs, c.Fine ts) {s u : Pass Registry}
    {err : Error} (hs : AutoBound ts s) (h : (walk Registry.resolver cs).run s = .error err u) :
    err.OnOperand ∨ ∃ t ∈ ts, ∃ q, t.Drops q ∧ err = .unknownProperty t.name q := by
  obtain ⟨pre, c, post, u', rfl, -, hc, hu'⟩ :=
    Preserves.walk_run_eq_error (fun c hc => (hcs c hc).preserves hts hnames) hs h
  exact Render.Check.Fine.run_eq_error hts hnames (hcs c (by simp)) hu' hc

end AutoBound

/-- Compiling a tree built by the checked constructors over named record types, on a registry
that maps automatically and binds each of the types, if at all, to its automatic mapping, fails
only on an operand (a sequence under another operator than `eq`, an empty sequence, a taken
parameter name), or on a name a leaf accepted that automatic mapping drops: one that selects an
embedding field, or a field after another of the same name ignoring case. Afterwards the registry
still maps automatically and binds each type, if at all, to its automatic mapping, so the same
holds of every later compilation. -/
theorem constructed_tree_fails_only_on_operand {ts : List RecordType} {p : Predicate}
    (hp : p.Built ts) (hts : ∀ t ∈ ts, t.isRecord = true ∧ t.name ≠ "")
    (hnames : (ts.map (·.name)).Nodup) {r : Registry} (hauto : r.autoMap = true)
    (hbound : ∀ t ∈ ts, r.find? t.name = none ∨ r.find? t.name = some t.autoMapping)
    (ps : Params) :
    (∀ err, (Render.run (predicate Registry.resolver p) (some ps) r).result = .error err →
      err.OnOperand ∨ ∃ t ∈ ts, ∃ q, t.Drops q ∧ err = .unknownProperty t.name q) ∧
    (Render.run (predicate Registry.resolver p) (some ps) r).world.autoMap = true ∧
    ∀ t ∈ ts, (Render.run (predicate Registry.resolver p) (some ps) r).world.find? t.name = none ∨
      (Render.run (predicate Registry.resolver p) (some ps) r).world.find? t.name =
        some t.autoMapping := by
  have hstart : AutoBound ts ⟨r, ps, []⟩ := ⟨hauto, hbound, fun h => by cases h⟩
  have hfine := hp.checks_fine
  have hend := Preserves.of_effects (predicate_effects Registry.resolver p)
    (Preserves.walk fun c hc => (hfine c hc).preserves hts hnames) _ hstart
  cases hrun : (predicate Registry.resolver p).run ⟨r, ps, []⟩ with
  | ok text t =>
    rw [hrun] at hend
    simp only [Render.run, hrun, reduceCtorEq, false_implies, implies_true, true_and]
    exact ⟨hend.autoMap, hend.bound⟩
  | error e t =>
    rw [hrun] at hend
    simp only [Render.run, hrun, Except.error.injEq, forall_eq']
    refine ⟨?_, hend.autoMap, hend.bound⟩
    have hwalk := ((predicate_effects Registry.resolver p).run_eq_error).1 hrun
    exact walk_fine_eq_error hts hnames hfine hstart hwalk

/-- A record type of two texts, `Slug` and `Label`. -/
def tagType : RecordType :=
  ⟨"Tag", "main.Tag", .record [{ name := "Slug", type := .other "string", offset := 0 },
    { name := "Label", type := .other "string", offset := 16 }] 32⟩

/-- A negated leaf on `Document` and a leaf on `Tag` under an existential node, joined by `AND`,
compiled on a new registry. -/
theorem document_and_tag_tree_fails_only_on_operand :
    let title : Predicate := .field ⟨Entity.ofType ⟨documentType, 0⟩, "Title", "eq", .text "x", true⟩
    let slug : Predicate := .existential (Entity.ofType ⟨tagType, 0⟩)
      (.field ⟨Entity.ofType ⟨tagType, 0⟩, "Slug", "eq", .list .texts [.text "a"], false⟩) false
    (∀ err, (Render.run (predicate Registry.resolver (.group "AND" [title, slug]))
        (some Params.empty) Registry.empty).result = .error err →
      err.OnOperand ∨ ∃ t ∈ [documentType, tagType], ∃ q, t.Drops q ∧
        err = .unknownProperty t.name q) ∧
    (Render.run (predicate Registry.resolver (.group "AND" [title, slug])) (some Params.empty)
      Registry.empty).world.autoMap = true ∧
    ∀ t ∈ [documentType, tagType],
      (Render.run (predicate Registry.resolver (.group "AND" [title, slug])) (some Params.empty)
          Registry.empty).world.find? t.name = none ∨
        (Render.run (predicate Registry.resolver (.group "AND" [title, slug])) (some Params.empty)
          Registry.empty).world.find? t.name = some t.autoMapping := by
  intro title slug
  have htitle : title.Built [documentType, tagType] :=
    .negate (@Predicate.Built.field _ ⟨documentType, 0⟩ "Title" "eq" (.text "x") _ (by simp) rfl) rfl
  have hslug : slug.Built [documentType, tagType] :=
    @Predicate.Built.existsOf _ ⟨tagType, 0⟩ _ false (by simp)
      (@Predicate.Built.field _ ⟨tagType, 0⟩ "Slug" "eq" (.list .texts [.text "a"]) _ (by simp) rfl)
  have hchildren : ∀ c ∈ [title, slug], c.Built [documentType, tagType] := by
    simp only [List.mem_cons, List.not_mem_nil, or_false]
    rintro c (rfl | rfl)
    · exact htitle
    · exact hslug
  exact constructed_tree_fails_only_on_operand (@Predicate.Built.join _ "AND" _ _ hchildren rfl)
    (by decide) (by decide) rfl (fun _ _ => .inl rfl) Params.empty

end PredicateSql
