import PredicateSql.Sql.Render

/-! The steps of a rendering pass. Resolving an entity may change the resolver's state and adds a
mapping to the pass's cache, binding a value appends one entry to the sink, and no step changes
anything else. A mapping, once cached, stays: the cache of a later state extends the earlier one.
`outcome` forgets the value a step returns, so that the effects of two steps can be compared. -/
namespace PredicateSql.Render

variable {σ α β : Type}

/-- The parameter name a property gets at an ordinal of the sink. -/
def paramName (property : String) (n : Nat) : String := "@" ++ property ++ "_" ++ toString n

/-- A step's result with its value forgotten. -/
def outcome : EStateM.Result Error (Pass σ) α → EStateM.Result Error (Pass σ) PUnit
  | .ok _ s => .ok ⟨⟩ s
  | .error e s => .error e s

/-- Every mapping of a cache is found, under its name, in a later cache. -/
def Extends (c c' : List (String × TableMap)) : Prop :=
  ∀ n m, c.lookup n = some m → c'.lookup n = some m

theorem Extends.refl (c : List (String × TableMap)) : Extends c c := fun _ _ h => h

theorem Extends.trans {c c' c'' : List (String × TableMap)} (h : Extends c c')
    (h' : Extends c' c'') : Extends c c'' :=
  fun n m hn => h' n m (h n m hn)

theorem bind_run_eq_ok {x : RenderM σ α} {f : α → RenderM σ β} {s s' : Pass σ} {b : β} :
    (x >>= f).run s = .ok b s' ↔ ∃ a t, x.run s = .ok a t ∧ (f a).run t = .ok b s' := by
  simp only [EStateM.run_bind]
  cases x.run s with
  | ok a t => exact ⟨fun h => ⟨a,t,rfl,h⟩, fun ⟨_,_,h,hf⟩ => by cases h; exact hf⟩
  | error e t => simp

theorem bind_run_eq_error {x : RenderM σ α} {f : α → RenderM σ β} {s s' : Pass σ} {e : Error} :
    (x >>= f).run s = .error e s' ↔
      x.run s = .error e s' ∨ ∃ a t, x.run s = .ok a t ∧ (f a).run t = .error e s' := by
  simp only [EStateM.run_bind]
  cases x.run s with
  | ok a t => exact ⟨fun h => .inr ⟨a,t,rfl,h⟩, by rintro (h | ⟨_,_,h,hf⟩) <;> cases h; exact hf⟩
  | error e' t => simp

/-- A step has the effects of another when, from every state, both fail with the same error in
the same state or both succeed in the same state; the values they return do not matter. -/
def Effects (x : RenderM σ α) (w : RenderM σ PUnit) : Prop := ∀ s, outcome (x.run s) = w.run s

theorem Effects.bind {x : RenderM σ α} {f : α → RenderM σ β} {w w' : RenderM σ PUnit}
    (hx : Effects x w) (hf : ∀ a, Effects (f a) w') : Effects (x >>= f) (w >>= fun _ => w') := by
  intro s
  have h := hx s
  simp only [EStateM.run_bind]
  cases hr : x.run s with
  | ok a t =>
    rw [hr] at h
    rw [← h]
    exact hf a t
  | error e t =>
    rw [hr] at h
    rw [← h]
    rfl

theorem Effects.bind_right {x : RenderM σ α} {f : α → RenderM σ β} {w' : RenderM σ PUnit}
    (hf : ∀ a, Effects (f a) w') : Effects (x >>= f) (x >>= fun _ => w') := by
  intro s
  simp only [EStateM.run_bind]
  cases x.run s with
  | ok a t => exact hf a t
  | error e t => rfl

theorem Effects.bind_pure {x : RenderM σ α} {w : RenderM σ PUnit} (hx : Effects x w) (g : α → β) :
    Effects (x >>= fun a => Pure.pure (g a)) w := by
  intro s
  have h := hx s
  simp only [EStateM.run_bind]
  cases hr : x.run s <;> rw [hr] at h <;> rw [← h] <;> rfl

theorem Effects.run_eq_error {x : RenderM σ α} {w : RenderM σ PUnit} (hx : Effects x w)
    {s t : Pass σ} {e : Error} : x.run s = .error e t ↔ w.run s = .error e t := by
  rw [← hx s]
  cases x.run s <;> simp [outcome]

theorem Effects.pure (a : α) : Effects (Pure.pure a : RenderM σ α) (Pure.pure ⟨⟩) := fun _ => rfl

theorem Effects.throw (e : Error) : Effects (MonadExcept.throw e : RenderM σ α) (MonadExcept.throw e) :=
  fun _ => rfl

theorem Effects.discard (x : RenderM σ α) : Effects x (x >>= fun _ => Pure.pure ⟨⟩) := by
  intro s
  simp only [EStateM.run_bind]
  cases x.run s <;> rfl

theorem Effects.throw_bind (e : Error) (f : α → RenderM σ β) :
    Effects (MonadExcept.throw e >>= f) (MonadExcept.throw e) := fun _ => rfl

theorem run_eq_error_iff {x : RenderM σ String} {ps ps' : Params} {w w' : σ} {e : Error} :
    Render.run x (some ps) w = ⟨.error e, ps', w'⟩ ↔
      ∃ t, x.run ⟨w, ps, []⟩ = .error e t ∧ t.params = ps' ∧ t.world = w' := by
  simp only [Render.run]
  cases x.run ⟨w, ps, []⟩ with
  | ok a t => simp
  | error e' t =>
    simp only [Rendered.mk.injEq, Except.error.injEq, EStateM.Result.error.injEq]
    constructor
    · rintro ⟨rfl,rfl,rfl⟩
      exact ⟨t,⟨rfl,rfl⟩,rfl,rfl⟩
    · rintro ⟨_,⟨rfl,rfl⟩,rfl,rfl⟩
      exact ⟨rfl,rfl,rfl⟩

/-- A pass succeeds with a text exactly when its step does, from a fresh cache, and it hands on
the sink and the resolver's state that the step leaves. -/
theorem run_eq_ok_iff {x : RenderM σ String} {ps ps' : Params} {w w' : σ} {text : String} :
    Render.run x (some ps) w = ⟨.ok text, ps', w'⟩ ↔
      ∃ t, x.run ⟨w, ps, []⟩ = .ok text t ∧ t.params = ps' ∧ t.world = w' := by
  simp only [Render.run]
  cases x.run ⟨w, ps, []⟩ with
  | ok a t =>
    simp only [Rendered.mk.injEq, Except.ok.injEq, EStateM.Result.ok.injEq]
    constructor
    · rintro ⟨rfl,rfl,rfl⟩
      exact ⟨t,⟨rfl,rfl⟩,rfl,rfl⟩
    · rintro ⟨_,⟨rfl,rfl⟩,rfl,rfl⟩
      exact ⟨rfl,rfl,rfl⟩
  | error e t => simp

theorem resolve_run_eq_ok {r : Resolver σ} {e : Entity} {s t : Pass σ} {m : TableMap}
    (h : (resolve r e).run s = .ok m t) :
    t.params = s.params ∧ Extends s.cache t.cache ∧ t.cache.lookup e.name = some m := by
  simp only [resolve, EStateM.run] at h
  split at h
  · next hc => cases h; exact ⟨rfl, Extends.refl _, hc⟩
  · next hc =>
    split at h
    · cases h
      refine ⟨rfl, fun n m' hn => ?_, by simp⟩
      have hne : (n == e.name) = false := by
        rcases hb : n == e.name
        · rfl
        · rw [beq_iff_eq.mp hb, hc] at hn
          cases hn
      simp [List.lookup_cons, hne, hn]
    · cases h

theorem resolve_run_eq_error {r : Resolver σ} {e : Entity} {s t : Pass σ} {err : Error}
    (h : (resolve r e).run s = .error err t) : t.params = s.params ∧ t.cache = s.cache := by
  simp only [resolve, EStateM.run] at h
  split at h
  · cases h
  · split at h
    · cases h
    · cases h; exact ⟨rfl, rfl⟩

theorem Params.set_of_not_contains {p : Params} {name : String} {v : Value}
    (h : p.contains name = false) : p.set name v = ⟨p.entries ++ [(name, v)]⟩ := by
  simp [Params.set, h]

theorem Params.get?_of_not_contains {p : Params} {name : String} (h : p.contains name = false) :
    p.get? name = none := by
  have hnot : name ∉ p.names := by simpa [Params.contains, List.contains_iff_mem] using h
  rw [Params.get?, List.lookup_eq_none_iff]
  rintro ⟨n,w⟩ hmem
  simp only [bne_iff_ne, ne_eq]
  rintro rfl
  exact hnot (List.mem_map_of_mem hmem)

theorem bind_run_of_fresh {property : String} {v : Value} {s : Pass σ}
    (h : s.params.contains (paramName property s.params.size) = false) :
    (bind property v).run s = .ok (paramName property s.params.size)
      { s with params := ⟨s.params.entries ++ [(paramName property s.params.size, v)]⟩ } := by
  change (if s.params.contains (paramName property s.params.size) then _ else
    EStateM.Result.ok (paramName property s.params.size)
      { s with params := s.params.set (paramName property s.params.size) v }) = _
  rw [if_neg (by simp [h]), Params.set_of_not_contains h]

theorem bind_run_of_taken {property : String} {v : Value} {s : Pass σ}
    (h : s.params.contains (paramName property s.params.size) = true) :
    (bind property v).run s = .error (.duplicateParameter (paramName property s.params.size)) s := by
  change (if s.params.contains (paramName property s.params.size) then _ else _) = _
  rw [if_pos h]
  rfl

end PredicateSql.Render
