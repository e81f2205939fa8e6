import Mathlib
import PredicateSql.Proofs.MintedNames

/-! Statements are assembled from their parts. For a resolver whose answers are settled once given,
as the registry's are, a pass's cache cannot be observed, so a group, an existential node and a
query each render as their parts rendered by passes of their own. -/
namespace PredicateSql

namespace Resolver

variable {σ : Type} (r : Resolver σ)

/-- A mapping is the settled answer of a resolver for an entity name from a state on: every state
reached from it by resolutions answers every entity of the name with the mapping, and stays. -/
def Settles (w : σ) (n : String) (m : TableMap) : Prop :=
  ∀ w', Relation.ReflTransGen r.Step w w' → ∀ e : Entity, e.name = n → r.resolve e w' = (.ok m, w')

/-- A resolver whose successful answer for an entity name never changes once given: the state an
answer leaves settles it. -/
def Settled : Prop := ∀ e w m w', r.resolve e w = (.ok m, w') → r.Settles w' e.name m

variable {r} {w w' : σ} {n : String} {m : TableMap}

theorem Settles.step (h : r.Settles w n m) (hs : r.Step w w') : r.Settles w' n m :=
  fun w'' h' e he => h w'' (.head hs h') e he

theorem Settles.resolve (h : r.Settles w n m) {e : Entity} (he : e.name = n) :
    r.resolve e w = (.ok m, w) :=
  h w .refl e he

end Resolver

/-- The registry answers a bound name with its mapping and changes nothing, and every resolution
keeps the bindings: its answers are settled once given. -/
theorem Registry.resolver_settled : Registry.resolver.Settled := by
  intro e w m w' h w'' hreach e' he'
  have hw : w.resolve e = (.ok m, w') := h
  have hbound : w'.find? e.name = some m := by
    have hans := Registry.resolve_answer (r := w) (e := e) (m := m) (by rw [hw])
    rwa [hw] at hans
  have hkept : w''.find? e'.name = some m := he' ▸ (Registry.keeps_of_reaches hreach).bound hbound
  exact Registry.resolve_of_find? hkept

namespace Render

variable {σ α β : Type} {r : Resolver σ}

/-- A pass state whose cached mappings are the resolver's settled answers for their names. -/
def SettledCache (r : Resolver σ) (s : Pass σ) : Prop :=
  ∀ n m, s.cache.lookup n = some m → r.Settles s.world n m

theorem settledCache_empty (w : σ) (ps : Params) : SettledCache r ⟨w, ps, []⟩ :=
  fun _ _ h => by cases h

/-- What a step's result shows outside the pass: the value or the error, the sink and the
resolver's state, but not the cache. -/
def view : EStateM.Result Error (Pass σ) α → Except Error α × Params × σ
  | .ok a s => (.ok a, s.params, s.world)
  | .error e s => (.error e, s.params, s.world)

theorem run_eq_view (x : RenderM σ String) (ps : Params) (w : σ) :
    Render.run x (some ps) w = ⟨(view (x.run ⟨w, ps, []⟩)).1, (view (x.run ⟨w, ps, []⟩)).2.1,
      (view (x.run ⟨w, ps, []⟩)).2.2⟩ := by
  simp only [Render.run]
  cases x.run ⟨w, ps, []⟩ <;> rfl

theorem view_bind_pure (x : RenderM σ α) (g : α → β) (s : Pass σ) :
    view ((x >>= fun a => Pure.pure (g a)).run s) =
      ((view (x.run s)).1.map g, (view (x.run s)).2) := by
  rw [EStateM.run_bind]
  cases x.run s <;> rfl

/-- A step that cannot tell settled caches apart: it keeps caches settled, and from two states with
the same sink and resolver state it shows the same. -/
structure CacheBlind (r : Resolver σ) (x : RenderM σ α) : Prop where
  settled : Preserves (SettledCache r) x
  view_eq : ∀ s s', SettledCache r s → SettledCache r s' → s.world = s'.world →
    s.params = s'.params → view (x.run s) = view (x.run s')

theorem CacheBlind.view_eq_fresh {x : RenderM σ α} (hx : CacheBlind r x) {s : Pass σ}
    (hs : SettledCache r s) : view (x.run s) = view (x.run ⟨s.world, s.params, []⟩) :=
  hx.view_eq s _ hs (settledCache_empty _ _) rfl rfl

theorem CacheBlind.bind {x : RenderM σ α} {f : α → RenderM σ β} (hx : CacheBlind r x)
    (hf : ∀ a, CacheBlind r (f a)) : CacheBlind r (x >>= f) := by
  refine ⟨hx.settled.bind fun a => (hf a).settled, fun s s' hs hs' hw hp => ?_⟩
  have hv := hx.view_eq s s' hs hs' hw hp
  have ht := hx.settled s hs
  have ht' := hx.settled s' hs'
  rw [EStateM.run_bind, EStateM.run_bind]
  -- both runs of the first step show the same, so they end alike and the rest starts alike
  cases h1 : x.run s with
  | ok a t =>
    cases h2 : x.run s' with
    | ok a' t' =>
      rw [h1, h2] at hv
      rw [h1] at ht
      rw [h2] at ht'
      simp only [view, Prod.mk.injEq, Except.ok.injEq] at hv
      obtain ⟨rfl, hp', hw'⟩ := hv
      exact (hf a).view_eq t t' ht ht' hw' hp'
    | error e' t' =>
      rw [h1, h2] at hv
      simp [view] at hv
  | error e t =>
    cases h2 : x.run s' with
    | ok a' t' =>
      rw [h1, h2] at hv
      simp [view] at hv
    | error e' t' =>
      rw [h1, h2] at hv
      simp only [view, Prod.mk.injEq, Except.error.injEq] at hv ⊢
      exact hv

theorem CacheBlind.pure (a : α) : CacheBlind r (Pure.pure a : RenderM σ α) :=
  ⟨Preserves.pure a, fun s s' _ _ hw hp => by
    change (Except.ok a, s.params, s.world) = (Except.ok a, s'.params, s'.world)
    rw [hw, hp]⟩

theorem CacheBlind.throw (e : Error) : CacheBlind r (MonadExcept.throw e : RenderM σ α) :=
  ⟨Preserves.throw e, fun s s' _ _ hw hp => by
    change (Except.error e, s.params, s.world) = (Except.error e, s'.params, s'.world)
    rw [hw, hp]⟩

theorem CacheBlind.throw_bind (e : Error) (f : α → RenderM σ β) :
    CacheBlind r (MonadExcept.throw e >>= f) :=
  ⟨fun _ hs => hs, fun s s' _ _ hw hp => by
    change (Except.error e, s.params, s.world) = (Except.error e, s'.params, s'.world)
    rw [hw, hp]⟩

theorem CacheBlind.ite {c : Prop} [Decidable c] {x y : RenderM σ α} (hx : CacheBlind r x)
    (hy : CacheBlind r y) : CacheBlind r (if c then x else y) := by
  by_cases h : c
  · rw [if_pos h]
    exact hx
  · rw [if_neg h]
    exact hy

theorem CacheBlind.mapM {f : α → RenderM σ β} :
    ∀ {l : List α}, (∀ a ∈ l, CacheBlind r (f a)) → CacheBlind r (l.mapM f)
  | [], _ => CacheBlind.pure _
  | a :: l, h => by
    rw [List.mapM_cons]
    exact (h a List.mem_cons_self).bind fun _ =>
      (CacheBlind.mapM fun b hb => h b (List.mem_cons_of_mem a hb)).bind fun _ =>
        CacheBlind.pure _

theorem cacheBlind_liftExcept (x : Except Error α) :
    CacheBlind r (propertyColumn.liftExcept x : RenderM σ α) := by
  cases x with
  | ok a => exact CacheBlind.pure a
  | error e => exact CacheBlind.throw e

theorem view_resolve {s : Pass σ} (hs : SettledCache r s) (e : Entity) :
    view ((resolve r e).run s) = ((r.resolve e s.world).1, s.params, (r.resolve e s.world).2) := by
  simp only [resolve, EStateM.run]
  split
  · next m hc =>
    rw [(hs _ _ hc).resolve rfl]
    rfl
  · split
    · next m w hres =>
      rw [hres]
      rfl
    · next err w hres =>
      rw [hres]
      rfl

theorem cacheBlind_resolve (hr : r.Settled) (e : Entity) : CacheBlind r (resolve r e) := by
  refine ⟨fun s hs => ?_, fun s s' hs hs' hw hp => by rw [view_resolve hs, view_resolve hs', hw, hp]⟩
  simp only [resolve, EStateM.run]
  split
  · exact hs
  · split
    · next m w hres =>
      have hstep : r.Step s.world w := ⟨e, by rw [hres]⟩
      intro n m' hn
      change ((e.name, m) :: s.cache).lookup n = some m' at hn
      simp only [List.lookup_cons] at hn
      split at hn
      · next heq =>
        cases hn
        rw [beq_iff_eq.1 heq]
        exact hr e s.world m w hres
      · exact (hs n m' hn).step hstep
    · next err w hres =>
      have hstep : r.Step s.world w := ⟨e, by rw [hres]⟩
      exact fun n m' hn => (hs n m' hn).step hstep

theorem cacheBlind_bind (property : String) (v : Value) :
    CacheBlind r (bind property v : RenderM σ String) := by
  refine ⟨fun s hs => ?_, fun s s' _ _ hw hp => ?_⟩
  · simp only [bind, EStateM.run]
    split
    · exact hs
    · exact hs
  · obtain ⟨w, ps, c⟩ := s
    obtain ⟨w', ps', c'⟩ := s'
    dsimp only at hw hp
    subst hw hp
    simp only [bind, EStateM.run]
    split <;> rfl

theorem cacheBlind_propertyColumn (hr : r.Settled) (e : Entity) (property : String) :
    CacheBlind r (propertyColumn r e property) :=
  (cacheBlind_resolve hr e).bind fun _ => (cacheBlind_liftExcept _).bind fun _ => CacheBlind.pure _

theorem cacheBlind_operatorToken (op : String) (negated : Bool) :
    CacheBlind r (operatorToken op negated : RenderM σ String) := by
  unfold operatorToken
  split
  · exact CacheBlind.pure _
  · exact CacheBlind.throw _

theorem cacheBlind_field (hr : r.Settled) (t : FieldTest) : CacheBlind r (field r t) := by
  unfold field
  refine (cacheBlind_propertyColumn hr _ _).bind fun col => ?_
  split
  · exact CacheBlind.pure _
  · -- a sequence: two guards, then its items bound in turn
    by_cases hop : (t.operator != Comparison.eq.name) = true
    · simp only [hop, if_true]
      exact CacheBlind.throw_bind _ _
    · simp only [hop, Bool.false_eq_true, if_false]
      split
      · exact CacheBlind.throw_bind _ _
      · exact (CacheBlind.mapM fun v _ => cacheBlind_bind _ v).bind fun _ => CacheBlind.pure _
  · exact (cacheBlind_operatorToken _ _).bind fun _ =>
      (cacheBlind_bind _ _).bind fun _ => CacheBlind.pure _

theorem cacheBlind_compare (hr : r.Settled) (t : ColumnTest) : CacheBlind r (compare r t) :=
  (cacheBlind_propertyColumn hr _ _).bind fun _ => (cacheBlind_propertyColumn hr _ _).bind fun _ =>
    (cacheBlind_operatorToken _ _).bind fun _ => CacheBlind.pure _

mutual

/-- Rendering a tree cannot tell settled caches apart. -/
theorem cacheBlind_predicate (hr : r.Settled) : ∀ p : Predicate, CacheBlind r (predicate r p)
  | .absent => CacheBlind.throw _
  | .field t => cacheBlind_field hr t
  | .compare t => cacheBlind_compare hr t
  | .group j cs => by
    rw [predicate]
    split
    · exact CacheBlind.throw_bind _ _
    split
    · exact CacheBlind.throw_bind _ _
    exact (cacheBlind_children hr cs).bind fun _ => CacheBlind.pure _
  | .existential e inner n => by
    rw [predicate]
    split
    · exact CacheBlind.throw_bind _ _
    exact (cacheBlind_resolve hr e).bind fun _ =>
      (cacheBlind_predicate hr inner).bind fun _ => CacheBlind.pure _
  | .ref (.field t) => cacheBlind_field hr t
  | .ref (.compare t) => cacheBlind_compare hr t
  | .ref (.group j cs) => cacheBlind_predicate hr (.group j cs)
  | .ref (.existential e inner n) => cacheBlind_predicate hr (.existential e inner n)
  | .ref .absent | .ref (.ref _) | .ref (.nullRef _) | .ref (.foreign _) => CacheBlind.throw _
  | .nullRef _ => CacheBlind.throw _
  | .foreign _ => CacheBlind.throw _

theorem cacheBlind_children (hr : r.Settled) :
    ∀ cs : List Predicate, CacheBlind r (children r cs)
  | [] => CacheBlind.pure _
  | c :: cs => by
    rw [children]
    exact (cacheBlind_predicate hr c).bind fun _ => (cacheBlind_children hr cs).bind fun _ =>
      CacheBlind.pure _

end

theorem cacheBlind_whereClause (hr : r.Settled) (p : Predicate) :
    CacheBlind r (whereClause r p) := by
  unfold whereClause
  exact CacheBlind.ite (CacheBlind.pure _)
    ((cacheBlind_predicate hr p).bind fun _ => CacheBlind.pure _)

theorem cacheBlind_orderBy (hr : r.Settled) (e : Entity) (sorts : List SortTerm) :
    CacheBlind r (orderBy r e sorts) :=
  (cacheBlind_resolve hr e).bind fun _ =>
    (CacheBlind.mapM fun _ _ => (cacheBlind_liftExcept _).bind fun _ => CacheBlind.pure _).bind
      fun _ => CacheBlind.pure _

/-- The ordering part of a query: nothing without terms, else " ORDER BY " and the terms. -/
def orderPart (r : Resolver σ) (e : Entity) (sorts : List SortTerm) : RenderM σ String :=
  if sorts.isEmpty then Pure.pure "" else do
    let s ← orderBy r e sorts
    Pure.pure (" ORDER BY " ++ s)

/-- A query resolves its entity, then renders its condition, then its ordering part. -/
theorem select_eq (e : Entity) (p : Predicate) (sorts : List SortTerm) :
    select r e p sorts = (do
      let m ← resolve r e
      let w ← whereClause r p
      let o ← orderPart r e sorts
      Pure.pure ("SELECT " ++ selectList m ++ " FROM " ++ tableText m ++ w ++ o)) := by
  unfold select orderPart
  congr 1
  funext m
  congr 1
  funext w
  by_cases h : sorts.isEmpty = true
  · simp only [h, if_true, pure_bind]
  · simp only [h, Bool.false_eq_true, if_false, bind_assoc, pure_bind]

theorem cacheBlind_orderPart (hr : r.Settled) (e : Entity) (sorts : List SortTerm) :
    CacheBlind r (orderPart r e sorts) :=
  CacheBlind.ite (CacheBlind.pure _) ((cacheBlind_orderBy hr e sorts).bind fun _ => CacheBlind.pure _)

theorem cacheBlind_select (hr : r.Settled) (e : Entity) (p : Predicate) (sorts : List SortTerm) :
    CacheBlind r (select r e p sorts) := by
  rw [select_eq]
  exact (cacheBlind_resolve hr e).bind fun _ => (cacheBlind_whereClause hr p).bind fun _ =>
    (cacheBlind_orderPart hr e sorts).bind fun _ => CacheBlind.pure _

theorem cacheBlind_count (hr : r.Settled) (e : Entity) (p : Predicate) :
    CacheBlind r (count r e p) :=
  (cacheBlind_resolve hr e).bind fun _ => (cacheBlind_whereClause hr p).bind fun _ =>
    CacheBlind.pure _

theorem cacheBlind_pass (hr : r.Settled) : ∀ c : Compilation, CacheBlind r (c.pass r)
  | .tree p => cacheBlind_predicate hr p
  | .select e p sorts => cacheBlind_select hr e p sorts
  | .count e p => cacheBlind_count hr e p

end Render

/-! ### Passes of their own -/

namespace Rendered

variable {σ : Type}

/-- Goes on from a pass that succeeded, with its text, sink and resolver state; a failure is
final. -/
def andThen (out : Rendered σ) (k : String → Params → σ → Rendered σ) : Rendered σ :=
  match out.result with
  | .ok text => k text out.params out.world
  | .error e => ⟨.error e, out.params, out.world⟩

/-- A pass with its text changed by a function. -/
def map (f : String → String) (out : Rendered σ) : Rendered σ :=
  ⟨out.result.map f, out.params, out.world⟩

end Rendered

namespace Render

variable {σ α β : Type} {r : Resolver σ}

/-- Renders trees one after another into one sink, each by a pass of its own from the sink and
resolver state the one before left, stopping at the first that fails. -/
def renderEach (r : Resolver σ) :
    List Predicate → Params → σ → Except Error (List String) × Params × σ
  | [], ps, w => (.ok [], ps, w)
  | c :: cs, ps, w =>
    let out := Render.run (predicate r c) (some ps) w
    match out.result with
    | .error e => (.error e, out.params, out.world)
    | .ok text =>
      let rest := renderEach r cs out.params out.world
      (rest.1.map (text :: ·), rest.2)

theorem run_bind_fresh {x : RenderM σ α} {f : α → RenderM σ String} (hx : CacheBlind r x)
    (hf : ∀ a, CacheBlind r (f a)) (ps : Params) (w : σ) :
    Render.run (x >>= f) (some ps) w =
      match x.run ⟨w, ps, []⟩ with
      | .ok a t => Render.run (f a) (some t.params) t.world
      | .error e t => ⟨.error e, t.params, t.world⟩ := by
  have hs := hx.settled ⟨w, ps, []⟩ (settledCache_empty w ps)
  rw [run_eq_view, EStateM.run_bind]
  cases h : x.run ⟨w, ps, []⟩ with
  | ok a t =>
    rw [h] at hs
    have ht : SettledCache r t := hs
    dsimp only
    rw [(hf a).view_eq_fresh ht, ← run_eq_view]
  | error e t => rfl

theorem run_bind_andThen {x : RenderM σ String} {f : String → RenderM σ String}
    (hx : CacheBlind r x) (hf : ∀ a, CacheBlind r (f a)) (ps : Params) (w : σ) :
    Render.run (x >>= f) (some ps) w =
      (Render.run x (some ps) w).andThen fun a ps' w' => Render.run (f a) (some ps') w' := by
  rw [run_bind_fresh hx hf]
  simp only [Render.run]
  cases x.run ⟨w, ps, []⟩ <;> rfl

theorem run_bind_pure (x : RenderM σ String) (g : String → String) (ps : Params) (w : σ) :
    Render.run (x >>= fun a => Pure.pure (g a)) (some ps) w = (Render.run x (some ps) w).map g := by
  simp only [Render.run, EStateM.run_bind]
  cases x.run ⟨w, ps, []⟩ <;> rfl

theorem run_resolve_bind (hr : r.Settled) (e : Entity) {f : TableMap → RenderM σ String}
    (hf : ∀ m, CacheBlind r (f m)) (ps : Params) (w : σ) :
    Render.run (resolve r e >>= f) (some ps) w =
      match r.resolve e w with
      | (.ok m, w') => Render.run (f m) (some ps) w'
      | (.error err, w') => ⟨.error err, ps, w'⟩ := by
  rw [run_bind_fresh (cacheBlind_resolve hr e) hf]
  simp only [resolve, EStateM.run, List.lookup]
  cases r.resolve e w with
  | mk res w' => cases res <;> rfl

theorem view_children (hr : r.Settled) :
    ∀ (cs : List Predicate) {s : Pass σ}, SettledCache r s →
      view ((children r cs).run s) = renderEach r cs s.params s.world
  | [], s, _ => rfl
  | c :: cs, s, hs => by
    have hv := (cacheBlind_predicate hr c).view_eq_fresh hs
    have ht := (cacheBlind_predicate hr c).settled s hs
    rw [children, EStateM.run_bind, renderEach, run_eq_view, ← hv]
    cases h : (predicate r c).run s with
    | ok text t =>
      rw [h] at ht
      have hrest := view_children hr cs (s := t) ht
      dsimp only
      rw [view_bind_pure, hrest]
      rfl
    | error err t => rfl

theorem run_children_bind_pure (hr : r.Settled) (cs : List Predicate) (g : List String → String)
    (ps : Params) (w : σ) :
    Render.run (children r cs >>= fun parts => Pure.pure (g parts)) (some ps) w =
      ⟨(renderEach r cs ps w).1.map g, (renderEach r cs ps w).2.1, (renderEach r cs ps w).2.2⟩ := by
  rw [run_eq_view, view_bind_pure, view_children hr cs (settledCache_empty w ps)]

/-- A fixed result as the result of a step that leaves the state alone. -/
def ofExcept : Except Error α → Pass σ → EStateM.Result Error (Pass σ) α
  | .ok a, s => .ok a s
  | .error e, s => .error e s

theorem view_ofExcept (v : Except Error α) (s : Pass σ) :
    view (ofExcept v s) = (v, s.params, s.world) := by
  cases v <;> rfl

theorem run_liftExcept (x : Except Error α) (s : Pass σ) :
    (propertyColumn.liftExcept x).run s = ofExcept x s := by
  cases x <;> rfl

theorem run_bind_ofExcept {x : RenderM σ α} {f : α → RenderM σ β} {v : Except Error α}
    {k : α → Except Error β} (hx : ∀ s, x.run s = ofExcept v s)
    (hf : ∀ a s, (f a).run s = ofExcept (k a) s) (s : Pass σ) :
    (x >>= f).run s = ofExcept (v >>= k) s := by
  rw [EStateM.run_bind, hx]
  cases v with
  | ok a => exact hf a s
  | error e => rfl

theorem run_mapM_ofExcept {γ : Type} {f : γ → RenderM σ β} {g : γ → Except Error β}
    (hf : ∀ a s, (f a).run s = ofExcept (g a) s) :
    ∀ (l : List γ) (s : Pass σ), (l.mapM f).run s = ofExcept (l.mapM g) s
  | [], _ => rfl
  | a :: l, s => by
    rw [List.mapM_cons, List.mapM_cons]
    exact run_bind_ofExcept (hf a) (fun b => run_bind_ofExcept (run_mapM_ofExcept hf l)
      (k := fun bs => Pure.pure (b :: bs)) fun bs _ => rfl) s

theorem view_orderBy {s : Pass σ} (hs : SettledCache r s) (e : Entity) (sorts : List SortTerm) :
    view ((orderBy r e sorts).run s) =
      ((r.resolve e s.world).1 >>= (fun m =>
          (sorts.mapM fun t => columnOf m t.property >>= fun c =>
            Pure.pure (columnText m c ++ " " ++ t.direction)) >>= fun parts =>
              Pure.pure (", ".intercalate parts)),
        s.params, (r.resolve e s.world).2) := by
  have hv := view_resolve hs e
  rw [orderBy, EStateM.run_bind]
  cases h : (resolve r e).run s with
  | ok m t =>
    rw [h] at hv
    simp only [view, Prod.mk.injEq] at hv
    obtain ⟨hres, hp, hw⟩ := hv
    have hterms := run_bind_ofExcept (run_mapM_ofExcept (fun st s' =>
      run_bind_ofExcept (run_liftExcept (columnOf m st.property))
        (f := fun c => Pure.pure (columnText m c ++ " " ++ st.direction))
        (k := fun c => Pure.pure (columnText m c ++ " " ++ st.direction)) (fun c _ => rfl) s') sorts)
      (f := fun parts => Pure.pure (", ".intercalate parts))
      (k := fun parts => Pure.pure (", ".intercalate parts)) (fun parts _ => rfl) t
    dsimp only
    rw [hterms, view_ofExcept, ← hres, ← hp, ← hw]
    rfl
  | error err t =>
    rw [h] at hv
    simp only [view, Prod.mk.injEq] at hv
    obtain ⟨hres, hp, hw⟩ := hv
    rw [← hres, ← hp, ← hw]
    rfl

theorem run_orderBy {sorts : List SortTerm} (hne : sorts.isEmpty = false) (e : Entity)
    (ps : Params) (w : σ) :
    Render.run (orderBy r e sorts) (some ps) w =
      ⟨(orderByPass r e sorts w).1, ps, (orderByPass r e sorts w).2⟩ := by
  simp only [orderByPass, hne, Bool.false_eq_true, if_false]
  rw [run_eq_view, run_eq_view, view_orderBy (settledCache_empty w ps),
    view_orderBy (settledCache_empty w {})]

theorem run_orderPart (e : Entity) (sorts : List SortTerm) (ps : Params) (w : σ) :
    Render.run (orderPart r e sorts) (some ps) w =
      ⟨(orderByPass r e sorts w).1.map fun o => if sorts.isEmpty then "" else " ORDER BY " ++ o, ps,
        (orderByPass r e sorts w).2⟩ := by
  unfold orderPart
  by_cases hs : sorts.isEmpty = true
  · simp only [hs, if_true, orderByPass]
    rfl
  · have hne : sorts.isEmpty = false := by simpa using hs
    simp only [hne, Bool.false_eq_true, if_false]
    rw [run_bind_pure, run_orderBy hne]
    rfl

theorem run_whereClause (p : Predicate) (ps : Params) (w : σ) :
    Render.run (whereClause r p) (some ps) w =
      if p.isAbsent then ⟨.ok "", ps, w⟩
      else (Render.run (predicate r p) (some ps) w).map (" WHERE " ++ ·) := by
  unfold whereClause
  split
  · rfl
  · exact run_bind_pure _ _ ps w

theorem run_group (hr : r.Settled) (j : String) (cs : List Predicate) (ps : Params) (w : σ) :
    Render.run (predicate r (.group j cs)) (some ps) w =
      if (Junction.ofKeyword? j).isNone then ⟨.error (.invalidOperator j .unknownJunction), ps, w⟩
      else if cs.isEmpty then ⟨.error (.invalidPredicate (.emptyGroup j)), ps, w⟩
      else ⟨(renderEach r cs ps w).1.map fun parts => "(" ++ (" " ++ j ++ " ").intercalate parts ++ ")",
        (renderEach r cs ps w).2.1, (renderEach r cs ps w).2.2⟩ := by
  rw [predicate]
  by_cases hj : (Junction.ofKeyword? j).isNone = true
  · simp only [hj, if_true]
    rfl
  · by_cases hc : cs.isEmpty = true
    · simp only [hj, hc, Bool.false_eq_true, if_true, if_false]
      rfl
    · simp only [hj, hc, Bool.false_eq_true, if_false]
      exact run_children_bind_pure hr cs _ ps w

theorem run_existential (hr : r.Settled) (e : Entity) (inner : Predicate) (n : Bool) (ps : Params)
    (w : σ) :
    Render.run (predicate r (.existential e inner n)) (some ps) w =
      if inner.isAbsent then ⟨.error (.invalidPredicate (.noInner e.name)), ps, w⟩
      else match r.resolve e w with
        | (.error err, w1) => ⟨.error err, ps, w1⟩
        | (.ok m, w1) =>
          (Render.run (predicate r inner) (some ps) w1).map fun body =>
            (if n then "(NOT EXISTS (SELECT 1 FROM " else "(EXISTS (SELECT 1 FROM ") ++
              tableText m ++ " WHERE " ++ body ++ "))" := by
  rw [predicate]
  by_cases hi : inner.isAbsent = true
  · simp only [hi, if_true]
    rfl
  · simp only [hi, Bool.false_eq_true, if_false]
    rw [run_resolve_bind hr e fun _ => (cacheBlind_predicate hr inner).bind fun _ =>
      CacheBlind.pure _]
    cases r.resolve e w with
    | mk res w1 =>
      cases res with
      | error err => rfl
      | ok m => exact run_bind_pure _ _ ps w1

/-- A query renders as the entity's mapping, then its condition rendered by a pass of its own, then
the separate ordering pass: a failure to resolve the entity comes before any of the tree's. -/
theorem run_select (hr : r.Settled) (e : Entity) (p : Predicate) (sorts : List SortTerm)
    (ps : Params) (w : σ) :
    Render.run (select r e p sorts) (some ps) w =
      match r.resolve e w with
      | (.error err, w1) => ⟨.error err, ps, w1⟩
      | (.ok m, w1) =>
        (if p.isAbsent then ⟨.ok "", ps, w1⟩
          else (Render.run (predicate r p) (some ps) w1).map (" WHERE " ++ ·)).andThen
          fun cond ps2 w2 =>
            ⟨(orderByPass r e sorts w2).1.map fun order =>
                "SELECT " ++ selectList m ++ " FROM " ++ tableText m ++ cond ++
                  (if sorts.isEmpty then "" else " ORDER BY " ++ order),
              ps2, (orderByPass r e sorts w2).2⟩ := by
  have htail : ∀ m, CacheBlind r (do
      let w ← whereClause r p
      let o ← orderPart r e sorts
      Pure.pure ("SELECT " ++ selectList m ++ " FROM " ++ tableText m ++ w ++ o)) :=
    fun _ => (cacheBlind_whereClause hr p).bind fun _ =>
      (cacheBlind_orderPart hr e sorts).bind fun _ => CacheBlind.pure _
  rw [select_eq, run_resolve_bind hr e htail]
  cases r.resolve e w with
  | mk res w1 =>
    cases res with
    | error err => rfl
    | ok m =>
      dsimp only
      rw [run_bind_andThen (cacheBlind_whereClause hr p)
        (fun _ => (cacheBlind_orderPart hr e sorts).bind fun _ => CacheBlind.pure _),
        run_whereClause]
      congr 1
      funext cond ps2 w2
      rw [run_bind_pure, run_orderPart]
      simp only [Rendered.map]
      cases (orderByPass r e sorts w2).1 <;> rfl

/-- A count renders as the entity's table and its condition rendered by a pass of its own: a
failure to resolve the entity comes before any of the tree's. -/
theorem run_count (hr : r.Settled) (e : Entity) (p : Predicate) (ps : Params) (w : σ) :
    Render.run (count r e p) (some ps) w =
      match r.resolve e w with
      | (.error err, w1) => ⟨.error err, ps, w1⟩
      | (.ok m, w1) =>
        (if p.isAbsent then ⟨.ok "", ps, w1⟩
          else (Render.run (predicate r p) (some ps) w1).map (" WHERE " ++ ·)).map fun cond =>
            "SELECT COUNT(*) AS [Total] FROM " ++ tableText m ++ cond := by
  unfold count
  rw [run_resolve_bind hr e fun _ => (cacheBlind_whereClause hr p).bind fun _ => CacheBlind.pure _]
  cases r.resolve e w with
  | mk res w1 =>
    cases res with
    | error err => rfl
    | ok m =>
      dsimp only
      rw [run_bind_pure, run_whereClause]

/-- The cache of a pass cannot be observed, and statements are assembled from their parts, each
rendered by a pass of its own. This holds for every resolver whose successful answers are settled
once given, and the registry is one. From two settled caches, with the same sink and resolver
state, a compilation shows the same text or error, sink and resolver state. A group is its
children rendered one after another into the sink, joined by its junction; an existential node is
its entity's table and its inner tree; a query is the entity's columns and table, its condition
and the separate ordering pass; a count is the entity's table and its condition. A failure to
resolve the queried or counted entity comes before any failure of its tree. -/
theorem passes_assemble_from_parts :
    Registry.resolver.Settled ∧
    ∀ {σ : Type} (r : Resolver σ), r.Settled →
      (∀ (c : Compilation) (s s' : Pass σ), SettledCache r s → SettledCache r s' →
        s.world = s'.world → s.params = s'.params →
          view ((c.pass r).run s) = view ((c.pass r).run s')) ∧
      (∀ (j : String) (cs : List Predicate) (ps : Params) (w : σ),
        Render.run (predicate r (.group j cs)) (some ps) w =
          if (Junction.ofKeyword? j).isNone then
            ⟨.error (.invalidOperator j .unknownJunction), ps, w⟩
          else if cs.isEmpty then ⟨.error (.invalidPredicate (.emptyGroup j)), ps, w⟩
          else ⟨(renderEach r cs ps w).1.map fun parts =>
              "(" ++ (" " ++ j ++ " ").intercalate parts ++ ")",
            (renderEach r cs ps w).2.1, (renderEach r cs ps w).2.2⟩) ∧
      (∀ (e : Entity) (inner : Predicate) (n : Bool) (ps : Params) (w : σ),
        Render.run (predicate r (.existential e inner n)) (some ps) w =
          if inner.isAbsent then ⟨.error (.invalidPredicate (.noInner e.name)), ps, w⟩
          else match r.resolve e w with
            | (.error err, w1) => ⟨.error err, ps, w1⟩
            | (.ok m, w1) =>
              (Render.run (predicate r inner) (some ps) w1).map fun body =>
                (if n then "(NOT EXISTS (SELECT 1 FROM " else "(EXISTS (SELECT 1 FROM ") ++
                  tableText m ++ " WHERE " ++ body ++ "))") ∧
      (∀ (e : Entity) (p : Predicate) (sorts : List SortTerm) (ps : Params) (w : σ),
        Render.run (select r e p sorts) (some ps) w =
          match r.resolve e w with
          | (.error err, w1) => ⟨.error err, ps, w1⟩
          | (.ok m, w1) =>
            (if p.isAbsent then ⟨.ok "", ps, w1⟩
              else (Render.run (predicate r p) (some ps) w1).map (" WHERE " ++ ·)).andThen
              fun cond ps2 w2 =>
                ⟨(orderByPass r e sorts w2).1.map fun order =>
                    "SELECT " ++ selectList m ++ " FROM " ++ tableText m ++ cond ++
                      (if sorts.isEmpty then "" else " ORDER BY " ++ order),
                  ps2, (orderByPass r e sorts w2).2⟩) ∧
      (∀ (e : Entity) (p : Predicate) (ps : Params) (w : σ),
        Render.run (count r e p) (some ps) w =
          match r.resolve e w with
          | (.error err, w1) => ⟨.error err, ps, w1⟩
          | (.ok m, w1) =>
            (if p.isAbsent then ⟨.ok "", ps, w1⟩
              else (Render.run (predicate r p) (some ps) w1).map (" WHERE " ++ ·)).map fun cond =>
                "SELECT COUNT(*) AS [Total] FROM " ++ tableText m ++ cond) :=
  ⟨Registry.resolver_settled, fun _ hr =>
    ⟨fun c => (cacheBlind_pass hr c).view_eq, run_group hr, run_existential hr, run_select hr,
      run_count hr⟩⟩

end Render

end PredicateSql
