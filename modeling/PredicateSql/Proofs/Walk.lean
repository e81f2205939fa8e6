import PredicateSql.Proofs.Pass

/-! A rendering pass as a walk of checks. A tree lists, in pre-order, the checks a pass makes, and
rendering it has the effects of running them in turn: it fails with the first failing check and
otherwise appends the tree's operands to the sink. -/
namespace PredicateSql

namespace Predicate

/-- Whether a predicate is a node of one of the four kinds, which a reference may point to. -/
def isNode : Predicate → Bool
  | field _ | compare _ | group .. | existential .. => true
  | _ => false

end Predicate

/-- The operands a field leaf binds: none for a NULL operand, each element of a sequence in
order, and the operand itself otherwise. -/
def FieldTest.operands (t : FieldTest) : List (String × Value) :=
  match t.operand.classify with
  | .null => []
  | .sequence items => items.map (t.property, ·)
  | .scalar => [(t.property, t.operand)]

mutual

/-- The operands a tree binds, as pairs of a property and a value, in pre-order. -/
def Predicate.operands : Predicate → List (String × Value)
  | .field t => t.operands
  | .group _ cs => Predicate.childOperands cs
  | .existential _ inner _ => inner.operands
  | .ref t => if t.isNode then t.operands else []
  | _ => []

/-- The operands of the children of a group, in order. -/
def Predicate.childOperands : List Predicate → List (String × Value)
  | [] => []
  | c :: cs => c.operands ++ Predicate.childOperands cs

end

namespace Render

variable {σ : Type}

/-- A check that a rendering pass makes. -/
inductive Check where
  /-- A condition read off the tree; it fails with the error when it does not hold. -/
  | guard (holds : Bool) (err : Error)
  | resolve (e : Entity)
  /-- Resolves an entity and finds a property in its mapping. -/
  | column (e : Entity) (property : String)
  /-- Binds a value under the next name of a property, which must be new. -/
  | bind (property : String) (v : Value)

namespace Check

/-- Runs a check. -/
def run (r : Resolver σ) : Check → RenderM σ PUnit
  | guard holds err => if holds then pure ⟨⟩ else throw err
  | resolve e => do
    let _ ← Render.resolve r e
    pure ⟨⟩
  | column e property => do
    let m ← Render.resolve r e
    if (m.find? property).isNone then throw (.unknownProperty m.entity.name property)
  | bind property v => do
    let _ ← Render.bind property v
    pure ⟨⟩

/-- The operand a check binds. -/
def binding : Check → Option (String × Value)
  | bind property v => some (property, v)
  | _ => none

end Check

/-- Runs checks in turn, stopping at the first that fails. -/
def walk (r : Resolver σ) (cs : List Check) : RenderM σ PUnit := cs.forM (Check.run r)

/-- The checks of a field leaf: its column, then what its operand's class asks for. A NULL
operand asks for nothing more; its operator is never looked at. -/
def fieldChecks (t : FieldTest) : List Check :=
  Check.column t.entity t.property :: match t.operand.classify with
  | .null => []
  | .sequence items =>
    Check.guard (t.operator == Comparison.eq.name) (.invalidOperator t.operator .sequenceNeedsEq) ::
    Check.guard (!items.isEmpty) (.invalidPredicate (.emptySequence t.entity.name t.property)) ::
    items.map (Check.bind t.property)
  | .scalar =>
    [.guard (Comparison.isValid t.operator) (.invalidOperator t.operator .unknownComparison),
      .bind t.property t.operand]

/-- The checks of a leaf comparing two properties: both columns, then the operator. -/
def compareChecks (t : ColumnTest) : List Check :=
  [.column t.entity t.property, .column t.entity2 t.property2,
    .guard (Comparison.isValid t.operator) (.invalidOperator t.operator .unknownComparison)]

mutual

/-- The checks a pass makes on a tree, in the order it makes them. -/
def checks : Predicate → List Check
  | .absent => [.guard false (.invalidPredicate .missing)]
  | .field t => fieldChecks t
  | .compare t => compareChecks t
  | .group j cs =>
    Check.guard (Junction.ofKeyword? j).isSome (.invalidOperator j .unknownJunction) ::
    Check.guard (!cs.isEmpty) (.invalidPredicate (.emptyGroup j)) :: childChecks cs
  | .existential e inner _ =>
    Check.guard (!inner.isAbsent) (.invalidPredicate (.noInner e.name)) :: .resolve e :: checks inner
  | .ref t =>
    if t.isNode then checks t
    else [.guard false (.invalidPredicate (.unknownType ("*" ++ t.typeName)))]
  | .nullRef k => [.guard false (.invalidPredicate (.nilNode k))]
  | .foreign n => [.guard false (.invalidPredicate (.unknownType n))]

/-- The checks of the children of a group, in order. -/
def childChecks : List Predicate → List Check
  | [] => []
  | c :: cs => checks c ++ childChecks cs

end

@[simp] theorem walk_nil (r : Resolver σ) : walk r [] = pure ⟨⟩ := rfl

@[simp] theorem walk_cons (r : Resolver σ) (c : Check) (cs : List Check) :
    walk r (c :: cs) = (c.run r >>= fun _ => walk r cs) := rfl

theorem walk_append (r : Resolver σ) (cs ds : List Check) :
    walk r (cs ++ ds) = (walk r cs >>= fun _ => walk r ds) := by
  simp [walk, List.forM_append]

theorem mem_fieldChecks {t : FieldTest} {c : Check} (h : c ∈ fieldChecks t) :
    c = .column t.entity t.property ∨
      c = .guard (t.operator == Comparison.eq.name) (.invalidOperator t.operator .sequenceNeedsEq) ∨
      (∃ holds, c = .guard holds (.invalidPredicate (.emptySequence t.entity.name t.property))) ∨
      c = .guard (Comparison.isValid t.operator) (.invalidOperator t.operator .unknownComparison) ∨
      ∃ v, c = .bind t.property v := by
  rw [fieldChecks, List.mem_cons] at h
  rcases h with rfl | h
  · exact .inl rfl
  · cases hv : t.operand.classify with
    | null => simp [hv] at h
    | sequence items =>
      simp only [hv, List.mem_cons, List.mem_map] at h
      rcases h with rfl | rfl | ⟨v, -, rfl⟩
      · exact .inr (.inl rfl)
      · exact .inr (.inr (.inl ⟨_, rfl⟩))
      · exact .inr (.inr (.inr (.inr ⟨v, rfl⟩)))
    | scalar =>
      simp only [hv, List.mem_cons, List.not_mem_nil, or_false] at h
      rcases h with rfl | rfl
      · exact .inr (.inr (.inr (.inl rfl)))
      · exact .inr (.inr (.inr (.inr ⟨_, rfl⟩)))

theorem mem_childChecks {c : Check} :
    ∀ {cs : List Predicate}, c ∈ childChecks cs ↔ ∃ p ∈ cs, c ∈ checks p
  | [] => by simp [childChecks]
  | p :: cs => by simp [childChecks, mem_childChecks]

theorem propertyColumn_effects (r : Resolver σ) (e : Entity) (property : String) :
    Effects (propertyColumn r e property) ((Check.column e property).run r) := by
  intro s
  simp only [propertyColumn, Check.run, EStateM.run_bind]
  cases (resolve r e).run s with
  | ok m t =>
    simp only [columnOf]
    cases m.find? property <;> rfl
  | error err t => rfl

theorem operatorToken_effects (r : Resolver σ) (op : String) (negated : Bool) :
    Effects (operatorToken op negated : RenderM σ String)
      ((Check.guard (Comparison.isValid op) (.invalidOperator op .unknownComparison)).run r) := by
  intro s
  simp only [operatorToken, Check.run, Comparison.isValid]
  split
  · next c hc => simp only [hc, Option.isSome, if_true]; rfl
  · next hc => simp only [hc, Option.isSome]; rfl

theorem bind_effects (r : Resolver σ) (property : String) (v : Value) :
    Effects (bind property v : RenderM σ String) ((Check.bind property v).run r) :=
  Effects.discard _

theorem mapM_bind_effects (r : Resolver σ) (property : String) :
    ∀ items : List Value,
      Effects (items.mapM (bind property) : RenderM σ (List String))
        (walk r (items.map (Check.bind property)))
  | [] => Effects.pure _
  | v :: vs => by
    rw [List.mapM_cons, List.map_cons, walk_cons]
    exact (bind_effects r property v).bind fun _ =>
      (mapM_bind_effects r property vs).bind_pure _

theorem field_effects (r : Resolver σ) (t : FieldTest) :
    Effects (field r t) (walk r (fieldChecks t)) := by
  rw [field, fieldChecks, walk_cons]
  refine (propertyColumn_effects r _ _).bind fun col => ?_
  cases h : t.operand.classify with
  | null => exact Effects.pure _
  | sequence items =>
    simp only [walk_cons, Check.run]
    by_cases hop : t.operator = Comparison.eq.name
    · cases items with
      | nil => simp [hop]; exact fun _ => rfl
      | cons v vs =>
        simp only [hop, bne_self_eq_false, beq_self_eq_true, List.isEmpty_cons]
        exact (mapM_bind_effects r _ _).bind_pure _
    · simp [hop]; exact fun _ => rfl
  | scalar =>
    exact (operatorToken_effects r _ _).bind fun _ =>
      (bind_effects r _ _).bind fun _ => Effects.pure _

theorem compare_effects (r : Resolver σ) (t : ColumnTest) :
    Effects (compare r t) (walk r (compareChecks t)) :=
  (propertyColumn_effects r _ _).bind fun _ => (propertyColumn_effects r _ _).bind fun _ =>
    (operatorToken_effects r _ _).bind fun _ => Effects.pure _

mutual

/-- Rendering a tree has the effects of running its checks in turn. -/
theorem predicate_effects (r : Resolver σ) :
    ∀ p : Predicate, Effects (predicate r p) (walk r (checks p))
  | .absent => fun _ => rfl
  | .field t => field_effects r t
  | .compare t => compare_effects r t
  | .group j cs => by
    rw [predicate, checks, walk_cons, walk_cons]
    cases hj : Junction.ofKeyword? j with
    | none => exact fun _ => rfl
    | some _ =>
      cases cs with
      | nil => exact fun _ => rfl
      | cons c cs =>
        simp only [Option.isNone_some, Option.isSome_some, List.isEmpty_cons, Check.run,
          Bool.not_false, Bool.false_eq_true, if_true, if_false, pure_bind]
        exact (children_effects r (c :: cs)).bind_pure _
  | .existential e inner n => by
    rw [predicate, checks, walk_cons, walk_cons]
    cases hi : inner.isAbsent with
    | true => exact fun _ => rfl
    | false =>
      simp only [Check.run, Bool.not_false, Bool.false_eq_true, if_true, if_false, pure_bind,
        bind_assoc]
      exact Effects.bind_right fun _ => (predicate_effects r inner).bind_pure _
  | .ref (.field t) => field_effects r t
  | .ref (.compare t) => compare_effects r t
  | .ref (.group j cs) => predicate_effects r (.group j cs)
  | .ref (.existential e inner n) => predicate_effects r (.existential e inner n)
  | .ref .absent | .ref (.ref _) | .ref (.nullRef _) | .ref (.foreign _) => fun _ => rfl
  | .nullRef _ => fun _ => rfl
  | .foreign _ => fun _ => rfl

theorem children_effects (r : Resolver σ) :
    ∀ cs : List Predicate, Effects (children r cs) (walk r (childChecks cs))
  | [] => Effects.pure _
  | c :: cs => by
    rw [children, childChecks, walk_append]
    exact (predicate_effects r c).bind fun _ => (children_effects r cs).bind_pure _

end

/-- A walk fails exactly when one of its checks fails after all the checks before it passed. -/
theorem walk_run_eq_error {r : Resolver σ} {cs : List Check} {s t : Pass σ} {err : Error} :
    (walk r cs).run s = .error err t ↔
      ∃ pre c post u, cs = pre ++ c :: post ∧ (walk r pre).run s = .ok ⟨⟩ u ∧
        (c.run r).run u = .error err t := by
  induction cs generalizing s with
  | nil =>
    constructor
    · intro h
      cases h
    · rintro ⟨pre,c,post,u,h,-⟩
      simp at h
  | cons c cs ih =>
    rw [walk_cons, bind_run_eq_error]
    constructor
    · rintro (hc | ⟨_,u,hc,hw⟩)
      · exact ⟨[],c,cs,s,rfl,rfl,hc⟩
      · obtain ⟨pre,c',post,u',rfl,hpre,hc'⟩ := ih.1 hw
        refine ⟨c :: pre,c',post,u',rfl,?_,hc'⟩
        rw [walk_cons, bind_run_eq_ok]
        exact ⟨_,u,hc,hpre⟩
    · rintro ⟨pre,c',post,u,heq,hpre,hc'⟩
      cases pre with
      | nil =>
        obtain ⟨rfl,rfl⟩ := List.cons.inj heq
        cases hpre
        exact .inl hc'
      | cons c0 pre =>
        obtain ⟨rfl,htail⟩ := List.cons.inj heq
        rw [walk_cons, bind_run_eq_ok] at hpre
        obtain ⟨_,u0,hc0,hw⟩ := hpre
        exact .inr ⟨_,u0,hc0,ih.2 ⟨pre,c',post,u,htail,hw,hc'⟩⟩

/-- Operands named from an ordinal on: the `i`-th under the name its property gets at `k + i`. -/
def named (k : Nat) (ops : List (String × Value)) : List (String × Value) :=
  ops.mapIdx fun i b => (paramName b.1 (k + i), b.2)

theorem named_append (k : Nat) (xs ys : List (String × Value)) :
    named k (xs ++ ys) = named k xs ++ named (k + xs.length) ys := by
  simp only [named, List.mapIdx_append]
  congr 2
  funext i b
  congr 2
  omega

@[simp] theorem named_nil (k : Nat) : named k [] = [] := rfl

@[simp] theorem named_singleton (k : Nat) (b : String × Value) :
    named k [b] = [(paramName b.1 k, b.2)] := rfl

theorem length_named (k : Nat) (ops : List (String × Value)) : (named k ops).length = ops.length :=
  List.length_mapIdx

/-- What a passed check leaves true of the mappings a pass has resolved: its condition holds, its
entity is resolved, and a column's property is found in its entity's mapping. -/
def Check.Holds (c : List (String × TableMap)) : Check → Prop
  | guard holds _ => holds = true
  | resolve e => ∃ m, c.lookup e.name = some m
  | column e property => ∃ m, c.lookup e.name = some m ∧ (m.find? property).isSome
  | bind _ _ => True

theorem Check.Holds.mono {c c' : List (String × TableMap)} {ch : Check} (h : ch.Holds c)
    (hc : Extends c c') : ch.Holds c' := by
  cases ch with
  | guard => exact h
  | resolve e =>
    obtain ⟨m,hm⟩ := h
    exact ⟨m, hc _ _ hm⟩
  | column e property =>
    obtain ⟨m,hm,hp⟩ := h
    exact ⟨m, hc _ _ hm, hp⟩
  | bind => trivial

theorem Check.run_eq_ok {r : Resolver σ} {c : Check} {s t : Pass σ} {u : PUnit}
    (h : (c.run r).run s = .ok u t) :
    t.params.entries = s.params.entries ++ named s.params.size c.binding.toList ∧
      Extends s.cache t.cache ∧ c.Holds t.cache ∧
      ∀ b ∈ c.binding, s.params.get? (paramName b.1 s.params.size) = none := by
  cases c with
  | guard holds err =>
    cases holds
    · cases h
    · cases h
      exact ⟨by simp [binding], Extends.refl _, rfl, by simp [binding]⟩
  | resolve e =>
    obtain ⟨m,t',hm,hp⟩ := bind_run_eq_ok.1 h
    cases hp
    obtain ⟨hpar,hext,hlook⟩ := resolve_run_eq_ok hm
    exact ⟨by simp [hpar, binding], hext, ⟨m, hlook⟩, by simp [binding]⟩
  | column e property =>
    obtain ⟨m,t',hm,hp⟩ := bind_run_eq_ok.1 h
    obtain ⟨hpar,hext,hlook⟩ := resolve_run_eq_ok hm
    cases hf : m.find? property with
    | none =>
      simp only [hf, Option.isNone_none, if_true] at hp
      cases hp
    | some col =>
      simp only [hf, Option.isNone_some] at hp
      cases hp
      exact ⟨by simp [hpar, binding], hext, ⟨m, hlook, by simp [hf]⟩, by simp [binding]⟩
  | bind property v =>
    obtain ⟨n,t',hb,hp⟩ := bind_run_eq_ok.1 h
    cases hp
    cases hc : s.params.contains (paramName property s.params.size)
    · rw [bind_run_of_fresh hc] at hb
      cases hb
      exact ⟨by simp [binding], Extends.refl _, trivial,
        by simpa [binding] using Params.get?_of_not_contains hc⟩
    · rw [bind_run_of_taken hc] at hb
      cases hb

/-- A walk that passes appends the bindings of its checks, in order and named from the sink's
size on, and keeps the cache. -/
theorem walk_run_eq_ok {r : Resolver σ} {cs : List Check} {s t : Pass σ} {u : PUnit}
    (h : (walk r cs).run s = .ok u t) :
    t.params.entries = s.params.entries ++ named s.params.size (cs.filterMap Check.binding) ∧
      Extends s.cache t.cache := by
  induction cs generalizing s with
  | nil =>
    cases h
    exact ⟨by simp, Extends.refl _⟩
  | cons c cs ih =>
    rw [walk_cons, bind_run_eq_ok] at h
    obtain ⟨_,t',hc,hw⟩ := h
    obtain ⟨hp1,he1,-,-⟩ := Check.run_eq_ok hc
    obtain ⟨hp2,he2⟩ := ih hw
    have hsize : t'.params.size = s.params.size + c.binding.toList.length := by
      simp [Params.size, hp1, length_named]
    refine ⟨?_, he1.trans he2⟩
    rw [hp2, hp1, hsize, List.append_assoc, ← named_append]
    cases hb : c.binding <;> simp [hb]

/-- Every check of a passed walk holds of the mappings resolved at its end. -/
theorem walk_holds {r : Resolver σ} {cs : List Check} {s t : Pass σ} {u : PUnit}
    (h : (walk r cs).run s = .ok u t) : ∀ ch ∈ cs, ch.Holds t.cache := by
  induction cs generalizing s with
  | nil => simp
  | cons c cs ih =>
    rw [walk_cons, bind_run_eq_ok] at h
    obtain ⟨_,t',hc,hw⟩ := h
    intro ch hch
    rcases List.mem_cons.1 hch with rfl | hmem
    · exact (Check.run_eq_ok hc).2.2.1.mono (walk_run_eq_ok hw).2
    · exact ih hw ch hmem

theorem walk_get? {r : Resolver σ} {cs : List Check} {s t : Pass σ} {u : PUnit}
    (h : (walk r cs).run s = .ok u t) :
    ∀ b ∈ named s.params.size (cs.filterMap Check.binding), t.params.get? b.1 = some b.2 := by
  induction cs generalizing s with
  | nil => simp
  | cons c cs ih =>
    rw [walk_cons, bind_run_eq_ok] at h
    obtain ⟨_,t',hc,hw⟩ := h
    obtain ⟨hp1,-,-,hfresh⟩ := Check.run_eq_ok hc
    have hsize : t'.params.size = s.params.size + c.binding.toList.length := by
      simp [Params.size, hp1, length_named]
    intro b hb
    cases hbc : c.binding with
    | none =>
      simp only [List.filterMap_cons, hbc] at hb
      simp only [hbc, Option.toList_none, List.length_nil, Nat.add_zero] at hsize
      exact ih hw b (hsize ▸ hb)
    | some b0 =>
      simp only [List.filterMap_cons, hbc] at hb
      rw [← List.singleton_append, named_append] at hb
      simp only [hbc, Option.toList_some, List.length_singleton] at hsize
      rcases List.mem_append.1 hb with hb | hb
      · -- the check's own binding: new before it, so the first entry of its name
        simp only [named_singleton, List.mem_singleton] at hb
        subst hb
        have hnew : s.params.entries.lookup (paramName b0.1 s.params.size) = none := hfresh b0 hbc
        simp [Params.get?, (walk_run_eq_ok hw).1, hp1, hbc, List.lookup_append, hnew]
      · exact ih hw b (by simpa [hsize, List.length_singleton] using hb)

section Holds

variable {c : List (String × TableMap)}

theorem holds_fieldChecks {t : FieldTest} (h : ∀ ch ∈ fieldChecks t, ch.Holds c) :
    (Check.column t.entity t.property).Holds c ∧
      (t.operand.classify = .scalar → Comparison.isValid t.operator = true) := by
  refine ⟨h _ (List.mem_cons_self ..), fun hcl => ?_⟩
  unfold fieldChecks at h
  simp only [hcl] at h
  exact h (.guard _ (.invalidOperator t.operator .unknownComparison)) (by simp)

theorem holds_checks_compare {t : ColumnTest} (h : ∀ ch ∈ checks (.compare t), ch.Holds c) :
    (Check.column t.entity t.property).Holds c ∧ (Check.column t.entity2 t.property2).Holds c ∧
      Comparison.isValid t.operator = true :=
  ⟨h _ (by simp [checks, compareChecks]), h _ (by simp [checks, compareChecks]),
    h (.guard _ (.invalidOperator t.operator .unknownComparison)) (by simp [checks, compareChecks])⟩

theorem holds_checks_group {j : String} {cs : List Predicate}
    (h : ∀ ch ∈ checks (.group j cs), ch.Holds c) :
    (Junction.ofKeyword? j).isSome = true ∧ ∀ ch ∈ childChecks cs, ch.Holds c :=
  ⟨h (.guard _ (.invalidOperator j .unknownJunction)) (by simp [checks]),
    fun ch hch => h ch (by simp [checks, hch])⟩

theorem holds_checks_existential {e : Entity} {inner : Predicate} {n : Bool}
    (h : ∀ ch ∈ checks (.existential e inner n), ch.Holds c) :
    (Check.resolve e).Holds c ∧ ∀ ch ∈ checks inner, ch.Holds c :=
  ⟨h _ (by simp [checks]), fun ch hch => h ch (by simp [checks, hch])⟩

theorem holds_checks_ref {t : Predicate} (h : ∀ ch ∈ checks (.ref t), ch.Holds c) :
    t.isNode = true ∧ ∀ ch ∈ checks t, ch.Holds c := by
  by_cases hn : t.isNode
  · simp only [checks, hn, if_true] at h
    exact ⟨hn, h⟩
  · simp only [checks, hn] at h
    exact absurd (h _ (List.mem_singleton_self _)) Bool.false_ne_true

theorem holds_childChecks_cons {p : Predicate} {cs : List Predicate}
    (h : ∀ ch ∈ childChecks (p :: cs), ch.Holds c) :
    (∀ ch ∈ checks p, ch.Holds c) ∧ ∀ ch ∈ childChecks cs, ch.Holds c :=
  ⟨fun ch hch => h ch (by simp [childChecks, hch]), fun ch hch => h ch (by simp [childChecks, hch])⟩

end Holds

theorem fieldChecks_bindings (t : FieldTest) :
    (fieldChecks t).filterMap Check.binding = t.operands := by
  unfold fieldChecks FieldTest.operands
  cases t.operand.classify <;> simp [List.filterMap_cons, Check.binding, List.filterMap_map,
    Function.comp_def]

mutual

/-- The bindings among the checks of a tree are its operands. -/
theorem checks_bindings : ∀ p : Predicate, (checks p).filterMap Check.binding = p.operands
  | .absent => rfl
  | .field t => fieldChecks_bindings t
  | .compare _ => rfl
  | .group _ cs => by
    simp [checks, Predicate.operands, List.filterMap_cons, Check.binding, childChecks_bindings cs]
  | .existential _ inner _ => by
    simp [checks, Predicate.operands, List.filterMap_cons, Check.binding, checks_bindings inner]
  | .ref t => by
    by_cases h : t.isNode
    · simp [checks, Predicate.operands, h, checks_bindings t]
    · simp [checks, Predicate.operands, h, List.filterMap_cons, Check.binding]
  | .nullRef _ => rfl
  | .foreign _ => rfl

theorem childChecks_bindings :
    ∀ cs : List Predicate, (childChecks cs).filterMap Check.binding = Predicate.childOperands cs
  | [] => rfl
  | c :: cs => by
    simp [childChecks, Predicate.childOperands, List.filterMap_append, checks_bindings c,
      childChecks_bindings cs]

end

theorem walk_of_predicate_run_eq_ok {r : Resolver σ} {p : Predicate} {s t : Pass σ} {text : String}
    (h : (predicate r p).run s = .ok text t) : (walk r (checks p)).run s = .ok ⟨⟩ t := by
  rw [← predicate_effects r p s, h]
  rfl

/-- A tree rendered successfully has appended its operands to the sink, the `i`-th under the name
its property gets at the sink's former size plus `i`, and kept the cache. -/
theorem predicate_run_eq_ok {r : Resolver σ} {p : Predicate} {s t : Pass σ} {text : String}
    (h : (predicate r p).run s = .ok text t) :
    t.params.entries = s.params.entries ++ named s.params.size p.operands ∧
      Extends s.cache t.cache := by
  rw [← checks_bindings p]
  exact walk_run_eq_ok (walk_of_predicate_run_eq_ok h)

theorem children_run_eq_ok {r : Resolver σ} {cs : List Predicate} {s t : Pass σ}
    {texts : List String} (h : (children r cs).run s = .ok texts t) :
    t.params.entries = s.params.entries ++ named s.params.size (Predicate.childOperands cs) ∧
      Extends s.cache t.cache := by
  have hw : (walk r (childChecks cs)).run s = .ok ⟨⟩ t := by
    rw [← children_effects r cs s, h]
    rfl
  rw [← childChecks_bindings cs]
  exact walk_run_eq_ok hw

/-- Rendering a tree fails exactly when one of its checks, taken in pre-order, fails after all the
checks before it passed: the error is that check's, and the sink and the resolver's state are
those it leaves. -/
theorem render_fails_at_first_failing_check (r : Resolver σ) (p : Predicate) (ps ps' : Params)
    (w w' : σ) (err : Error) :
    Render.run (predicate r p) (some ps) w = ⟨.error err, ps', w'⟩ ↔
      ∃ pre c post t t', checks p = pre ++ c :: post ∧ (walk r pre).run ⟨w, ps, []⟩ = .ok ⟨⟩ t ∧
        (c.run r).run t = .error err t' ∧ t'.params = ps' ∧ t'.world = w' := by
  rw [run_eq_error_iff]
  constructor
  · rintro ⟨t',hp,rfl,rfl⟩
    obtain ⟨pre,c,post,t,hsplit,hpre,hc⟩ := walk_run_eq_error.1 ((predicate_effects r p).run_eq_error.1 hp)
    exact ⟨pre,c,post,t,t',hsplit,hpre,hc,rfl,rfl⟩
  · rintro ⟨pre,c,post,t,t',hsplit,hpre,hc,rfl,rfl⟩
    exact ⟨t',(predicate_effects r p).run_eq_error.2 (walk_run_eq_error.2 ⟨pre,c,post,t,hsplit,hpre,hc⟩),
      rfl,rfl⟩

end Render

end PredicateSql
