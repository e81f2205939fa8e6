import Mathlib
import PredicateSql.Proofs.Numbering
import PredicateSql.Proofs.Registration

/-! A registry's bindings are written once. Every atomic section a caller runs keeps the bindings it
finds, so in any interleaving a bound name keeps its mapping and every resolution answers with the
mapping its name is bound to from then on. -/
namespace PredicateSql

namespace Registry

/-- A later registry keeps an earlier one's bindings: the same mode of automatic mapping, and each
bound name bound to the same mapping. -/
structure Keeps (r r' : Registry) : Prop where
  autoMap : r'.autoMap = r.autoMap
  bound : ∀ {n m}, r.find? n = some m → r'.find? n = some m

theorem Keeps.refl (r : Registry) : r.Keeps r := ⟨rfl, id⟩

theorem Keeps.trans {r r' r'' : Registry} (h : r.Keeps r') (h' : r'.Keeps r'') : r.Keeps r'' :=
  ⟨h'.autoMap.trans h.autoMap, fun hn => h'.bound (h.bound hn)⟩

/-- Every name is bound to a mapping of an entity of that name. -/
def Named (r : Registry) : Prop := ∀ n m, r.find? n = some m → m.entity.name = n

theorem find?_append (r : Registry) (l : List (String × TableMap)) (n : String) :
    ({ r with maps := r.maps ++ l } : Registry).find? n = (r.find? n).or (l.lookup n) :=
  List.lookup_append

theorem keeps_append (r : Registry) (l : List (String × TableMap)) :
    r.Keeps { r with maps := r.maps ++ l } :=
  ⟨rfl, fun {n _} hn => by rw [find?_append, hn, Option.some_or]⟩

theorem lookup_named {ts : List TableMap} {n : String} {m : TableMap}
    (h : (ts.map fun t => (t.entity.name, t)).lookup n = some m) : m.entity.name = n := by
  induction ts with
  | nil => cases h
  | cons t ts ih =>
    simp only [List.map_cons, List.lookup_cons] at h
    split at h
    · next hn =>
      cases h
      exact (beq_iff_eq.1 hn).symm
    · exact ih h

theorem Named.append {r : Registry} (h : r.Named) {l : List (String × TableMap)}
    (hl : ∀ n m, l.lookup n = some m → m.entity.name = n) : Named { r with maps := r.maps ++ l } := by
  intro n m hn
  rw [find?_append] at hn
  cases hr : r.find? n with
  | some m' =>
    rw [hr, Option.some_or] at hn
    cases hn
    exact h n _ hr
  | none =>
    rw [hr, Option.none_or] at hn
    exact hl n m hn

theorem Named.extend {r : Registry} (h : r.Named) (ts : List TableMap) : (r.extend ts).Named :=
  h.append fun _ _ => lookup_named

/-! ### Each call keeps the bindings -/

theorem resolveLocked_keeps (r : Registry) (e : Entity) : r.Keeps (r.resolveLocked e).2 := by
  unfold resolveLocked
  split
  · exact Keeps.refl r
  · split
    · exact keeps_append r _
    · exact Keeps.refl r

theorem resolve_keeps (r : Registry) (e : Entity) : r.Keeps (r.resolve e).2 := by
  unfold resolve
  split
  · exact Keeps.refl r
  · split
    · exact Keeps.refl r
    · exact resolveLocked_keeps r e

theorem store_keeps {r r' : Registry} {ts : List TableMap} (h : r.store ts = .ok r') :
    r.Keeps r' := by
  obtain ⟨-, rfl⟩ := store_eq_ok.1 h
  exact keeps_append r _

theorem register_keeps {r r' : Registry} {ms : List (Option Mapper)} (h : r.register ms = .ok r') :
    r.Keeps r' := by
  obtain ⟨ts, -, -, -, rfl⟩ := register_eq_ok.1 h
  exact keeps_append r _

theorem loadMappings_keeps {r r' : Registry} {text : String} (h : r.loadMappings text = .ok r') :
    r.Keeps r' := by
  obtain ⟨es, ms, ts, -, -, -, -, -, rfl⟩ := loadMappings_eq_ok.1 h
  exact keeps_append r _

theorem columnName_registry (r : Registry) (e : Entity) (property : String) :
    (r.columnName e property).2 = (r.resolve e).2 := by
  unfold columnName
  split
  · split <;> simp_all
  · simp_all

/-! ### What resolving answers -/

theorem resolve_of_find? {r : Registry} {e : Entity} {m : TableMap} (h : r.find? e.name = some m) :
    r.resolve e = (.ok m, r) := by
  simp [resolve, h]

theorem resolveLocked_of_find? {r : Registry} {e : Entity} {m : TableMap}
    (h : r.find? e.name = some m) : r.resolveLocked e = (.ok m, r) := by
  simp [resolveLocked, h]

theorem resolve_of_unbound {r : Registry} {e : Entity} (h : r.find? e.name = none)
    (hoff : r.autoMap = false ∨ e.record = none) :
    r.resolve e = (.error (.mappingNotFound e.name), r) := by
  have hguard : (!r.autoMap || e.record.isNone) = true := by
    rcases hoff with hoff | hoff <;> simp [hoff]
  simp [resolve, h, hguard]

theorem resolveLocked_answer {r : Registry} {e : Entity} {m : TableMap}
    (h : (r.resolveLocked e).1 = .ok m) : (r.resolveLocked e).2.find? e.name = some m := by
  unfold resolveLocked at h ⊢
  cases hf : r.find? e.name with
  | some m' =>
    simp only [hf] at h ⊢
    cases h
    rfl
  | none =>
    cases hb : (Mapper.ofEntity e).withAutoMap.build with
    | ok m' =>
      simp only [hf, hb, Except.ok.injEq] at h ⊢
      subst h
      rw [find?_append, hf, Option.none_or]
      simp
    | error err => simp [hf, hb] at h

theorem resolveLocked_of_error {r : Registry} {e : Entity} {err : Error}
    (h : (r.resolveLocked e).1 = .error err) : (r.resolveLocked e).2 = r := by
  unfold resolveLocked at h ⊢
  cases hf : r.find? e.name with
  | some m => simp [hf] at h
  | none =>
    cases hb : (Mapper.ofEntity e).withAutoMap.build with
    | ok m => simp [hf, hb] at h
    | error err' => rfl

theorem resolve_answer {r : Registry} {e : Entity} {m : TableMap} (h : (r.resolve e).1 = .ok m) :
    (r.resolve e).2.find? e.name = some m := by
  unfold resolve at h ⊢
  cases hf : r.find? e.name with
  | some m' =>
    simp only [hf] at h ⊢
    cases h
    rfl
  | none =>
    by_cases hguard : (!r.autoMap || e.record.isNone) = true
    · simp [hf, hguard] at h
    · simp only [hf, hguard] at h ⊢
      exact resolveLocked_answer h

theorem resolve_of_error {r : Registry} {e : Entity} {err : Error}
    (h : (r.resolve e).1 = .error err) : (r.resolve e).2 = r := by
  unfold resolve at h ⊢
  cases hf : r.find? e.name with
  | some m => simp [hf] at h
  | none =>
    by_cases hguard : (!r.autoMap || e.record.isNone) = true
    · simp [hguard]
    · simp only [hf, hguard] at h ⊢
      exact resolveLocked_of_error h

/-! ### Registering a bound name -/

theorem register_fails_of_bound {r : Registry} {ms : List (Option Mapper)} {m : Mapper}
    (hm : some m ∈ ms) (hbound : (r.find? m.entity.name).isSome) :
    ∃ err, r.register ms = .error err := by
  rw [register_fails_iff]
  cases hb : m.build with
  | error e => exact .inr (.inl ⟨m, e, hm, hb⟩)
  | ok t =>
    have hname : t.entity.name = m.entity.name := by rw [Mapper.build_entity hb]
    exact .inr (.inr (.inr ⟨m, t, hm, hb, by rw [hname]; exact hbound⟩))

theorem store_eq_error_of_bound {r : Registry} {ts : List TableMap} {t : TableMap} (ht : t ∈ ts)
    (hbound : (r.find? t.entity.name).isSome) :
    ∃ n, (r.find? n).isSome ∧ r.store ts = .error (.within (.register n) .alreadyRegistered) := by
  cases hs : r.store ts with
  | error err =>
    obtain ⟨pre, t', post, -, -, ht', rfl⟩ := store_eq_error.1 hs
    exact ⟨t'.entity.name, ht', rfl⟩
  | ok r' =>
    have hfree := (store_eq_ok.1 hs).1 t ht
    rw [hfree] at hbound
    cases hbound

theorem register_eq_error_of_bound {r : Registry} {ms : List (Option Mapper)} {ts : List TableMap}
    (hf : List.Forall₂ Builds ms ts) (hnd : (ts.map (·.entity.name)).Nodup)
    (hbound : ∃ t ∈ ts, (r.find? t.entity.name).isSome) :
    ∃ n, (r.find? n).isSome ∧ r.register ms = .error (.within (.register n) .alreadyRegistered) := by
  obtain ⟨t, ht, htb⟩ := hbound
  obtain ⟨n, hn, hs⟩ := store_eq_error_of_bound ht htb
  exact ⟨n, hn, register_eq_error.2 (.inr ⟨ts, hf, hnd, hs⟩)⟩

/-! ### Each call keeps every name bound to its own entity's mapping -/

theorem Mapper.withAutoMap_entity (m : Mapper) : m.withAutoMap.entity = m.entity := by
  unfold Mapper.withAutoMap Mapper.fail
  split
  · rfl
  · split
    · split <;> rfl
    · rfl

theorem Named.resolveLocked {r : Registry} (h : r.Named) (e : Entity) :
    (r.resolveLocked e).2.Named := by
  unfold Registry.resolveLocked
  split
  · exact h
  · split
    · next m hb =>
      have he : m.entity = e := by
        rw [PredicateSql.Mapper.build_entity hb, Mapper.withAutoMap_entity]
        rfl
      refine h.append fun n m' hn => ?_
      simp only [List.lookup_cons, List.lookup_nil] at hn
      split at hn
      · next hname =>
        cases hn
        rw [he]
        exact (beq_iff_eq.1 hname).symm
      · cases hn
    · exact h

theorem Named.resolve {r : Registry} (h : r.Named) (e : Entity) : (r.resolve e).2.Named := by
  unfold Registry.resolve
  split
  · exact h
  · split
    · exact h
    · exact h.resolveLocked e

theorem Named.store {r r' : Registry} (h : r.Named) {ts : List TableMap}
    (hs : r.store ts = .ok r') : r'.Named := by
  obtain ⟨-, rfl⟩ := store_eq_ok.1 hs
  exact h.extend ts

theorem Named.register {r r' : Registry} (h : r.Named) {ms : List (Option Mapper)}
    (hs : r.register ms = .ok r') : r'.Named := by
  obtain ⟨ts, -, -, -, rfl⟩ := register_eq_ok.1 hs
  exact h.extend ts

theorem Named.loadMappings {r r' : Registry} (h : r.Named) {text : String}
    (hs : r.loadMappings text = .ok r') : r'.Named := by
  obtain ⟨es, ms, ts, -, -, -, -, -, rfl⟩ := loadMappings_eq_ok.1 hs
  exact h.extend ts

end Registry

/-- One resolution by a resolver takes its state from one world to another. -/
def Resolver.Step {σ : Type} (r : Resolver σ) (w w' : σ) : Prop := ∃ e, (r.resolve e w).2 = w'

namespace Render

variable {σ α β : Type}

/-- The state a step ends in, whether it succeeds or fails. -/
def final : EStateM.Result Error (Pass σ) α → Pass σ
  | .ok _ t => t
  | .error _ t => t

@[simp] theorem final_outcome (res : EStateM.Result Error (Pass σ) α) :
    final (outcome res) = final res := by
  cases res <;> rfl

/-- A step changes the resolver's state only by resolving: the world it ends in, whether it
succeeds or fails, is reached from the one it starts in by resolutions. -/
def ResolvesOnly (r : Resolver σ) (x : RenderM σ α) : Prop :=
  ∀ s : Pass σ, Relation.ReflTransGen r.Step s.world (final (x.run s)).world

variable {r : Resolver σ}

theorem ResolvesOnly.bind {x : RenderM σ α} {f : α → RenderM σ β} (hx : ResolvesOnly r x)
    (hf : ∀ a, ResolvesOnly r (f a)) : ResolvesOnly r (x >>= f) := by
  intro s
  have h := hx s
  rw [EStateM.run_bind]
  cases hr : x.run s with
  | ok a t =>
    rw [hr] at h
    exact h.trans (hf a t)
  | error e t =>
    rw [hr] at h
    exact h

theorem ResolvesOnly.pure (a : α) : ResolvesOnly r (Pure.pure a : RenderM σ α) :=
  fun _ => .refl

theorem ResolvesOnly.throw (e : Error) : ResolvesOnly r (MonadExcept.throw e : RenderM σ α) :=
  fun _ => .refl

theorem ResolvesOnly.of_effects {x : RenderM σ α} {w : RenderM σ PUnit} (hx : Effects x w)
    (hw : ResolvesOnly r w) : ResolvesOnly r x := by
  intro s
  rw [← final_outcome, hx s]
  exact hw s

theorem ResolvesOnly.mapM {f : α → RenderM σ β} :
    ∀ {l : List α}, (∀ a ∈ l, ResolvesOnly r (f a)) → ResolvesOnly r (l.mapM f)
  | [], _ => ResolvesOnly.pure _
  | a :: l, h => by
    rw [List.mapM_cons]
    exact (h a List.mem_cons_self).bind fun _ =>
      (ResolvesOnly.mapM fun b hb => h b (List.mem_cons_of_mem a hb)).bind fun _ =>
        ResolvesOnly.pure _

theorem resolvesOnly_liftExcept (x : Except Error α) :
    ResolvesOnly r (propertyColumn.liftExcept x : RenderM σ α) := by
  cases x with
  | ok a => exact ResolvesOnly.pure a
  | error e => exact ResolvesOnly.throw e

theorem resolvesOnly_resolve (e : Entity) : ResolvesOnly r (resolve r e) := by
  intro s
  simp only [resolve, EStateM.run]
  split
  · exact .refl
  · split
    · next w hres => exact .single ⟨e, by rw [hres]; rfl⟩
    · next w hres => exact .single ⟨e, by rw [hres]; rfl⟩

theorem resolvesOnly_bind (property : String) (v : Value) :
    ResolvesOnly r (bind property v : RenderM σ String) := by
  intro s
  simp only [bind, EStateM.run]
  split <;> exact .refl

theorem Check.resolvesOnly_run : ∀ c : Check, ResolvesOnly r (c.run r)
  | .guard holds err => by
    cases holds
    · exact ResolvesOnly.throw err
    · exact ResolvesOnly.pure _
  | .resolve e => (resolvesOnly_resolve e).bind fun _ => ResolvesOnly.pure _
  | .column e property => (resolvesOnly_resolve e).bind fun m => by
    by_cases hf : (m.find? property).isNone
    · simp only [hf, if_true]
      exact ResolvesOnly.throw _
    · simp only [hf]
      exact ResolvesOnly.pure _
  | .bind property v => (resolvesOnly_bind property v).bind fun _ => ResolvesOnly.pure _

theorem resolvesOnly_walk : ∀ cs : List Check, ResolvesOnly r (walk r cs)
  | [] => ResolvesOnly.pure _
  | c :: cs => by
    rw [walk_cons]
    exact (Check.resolvesOnly_run c).bind fun _ => resolvesOnly_walk cs

theorem resolvesOnly_predicate (p : Predicate) : ResolvesOnly r (predicate r p) :=
  .of_effects (predicate_effects r p) (resolvesOnly_walk _)

theorem resolvesOnly_whereClause (p : Predicate) : ResolvesOnly r (whereClause r p) := by
  unfold whereClause
  split
  · exact ResolvesOnly.pure _
  · exact (resolvesOnly_predicate p).bind fun _ => ResolvesOnly.pure _

theorem resolvesOnly_orderBy (e : Entity) (sorts : List SortTerm) :
    ResolvesOnly r (orderBy r e sorts) :=
  (resolvesOnly_resolve e).bind fun _ =>
    (ResolvesOnly.mapM fun _ _ => (resolvesOnly_liftExcept _).bind fun _ => ResolvesOnly.pure _).bind
      fun _ => ResolvesOnly.pure _

theorem resolvesOnly_select (e : Entity) (p : Predicate) (sorts : List SortTerm) :
    ResolvesOnly r (select r e p sorts) := by
  refine (resolvesOnly_resolve e).bind fun _ => (resolvesOnly_whereClause p).bind fun _ => ?_
  dsimp only
  split
  · exact (ResolvesOnly.pure _).bind fun _ => ResolvesOnly.pure _
  · exact (resolvesOnly_orderBy e sorts).bind fun _ =>
      (ResolvesOnly.pure _).bind fun _ => ResolvesOnly.pure _

theorem resolvesOnly_count (e : Entity) (p : Predicate) : ResolvesOnly r (count r e p) :=
  (resolvesOnly_resolve e).bind fun _ => (resolvesOnly_whereClause p).bind fun _ =>
    ResolvesOnly.pure _

/-- The world a pass leaves is reached by resolutions from the one it is given. -/
theorem run_world_reaches {step : RenderM σ String} (h : ResolvesOnly r step) (sink : Option Params)
    (w : σ) : Relation.ReflTransGen r.Step w (Render.run step sink w).world := by
  cases sink with
  | none => exact .refl
  | some ps =>
    have hw := h ⟨w, ps, []⟩
    simp only [Render.run]
    cases hx : step.run ⟨w, ps, []⟩ <;> rw [hx] at hw <;> exact hw

end Render

theorem Compilation.resolvesOnly_pass {σ : Type} (r : Resolver σ) :
    ∀ c : Compilation, Render.ResolvesOnly r (c.pass r)
  | .tree p => Render.resolvesOnly_predicate p
  | .select e p sorts => Render.resolvesOnly_select e p sorts
  | .count e p => Render.resolvesOnly_count e p

namespace Registry

theorem keeps_of_reaches {r r' : Registry} (h : Relation.ReflTransGen resolver.Step r r') :
    r.Keeps r' := by
  induction h with
  | refl => exact Keeps.refl r
  | tail _ hstep ih =>
    obtain ⟨e, rfl⟩ := hstep
    exact ih.trans (resolve_keeps _ e)

theorem Named.of_reaches {r r' : Registry} (h : Relation.ReflTransGen resolver.Step r r')
    (hr : r.Named) : r'.Named := by
  induction h with
  | refl => exact hr
  | tail _ hstep ih =>
    obtain ⟨e, rfl⟩ := hstep
    exact ih.resolve e

/-- A call on a registry, as the library offers it. Compiling a tree, a query or a count into a
sink and rendering an ordering go through the registry as their resolver. -/
inductive Call where
  | register (ms : List (Option Mapper))
  | loadMappings (text : String)
  | resolve (e : Entity)
  | columnName (e : Entity) (property : String)
  | compile (c : Compilation) (sink : Option Params)
  | orderBy (e : Entity) (sorts : List SortTerm)
  | entities
  | validate

namespace Call

/-- The registry a call leaves; a failed registration or load leaves it as it was. -/
def apply : Call → Registry → Registry
  | .register ms, r => match r.register ms with
    | .ok r' => r'
    | .error _ => r
  | .loadMappings text, r => match r.loadMappings text with
    | .ok r' => r'
    | .error _ => r
  | .resolve e, r => (r.resolve e).2
  | .columnName e property, r => (r.columnName e property).2
  | .compile c sink, r => (Render.run (c.pass resolver) sink r).world
  | .orderBy e sorts, r => (Render.orderByPass resolver e sorts r).2
  | .entities, r => r
  | .validate, r => r

/-- The registry after calls made one after another. -/
def runAll (r : Registry) (cs : List Call) : Registry := cs.foldl (fun r c => c.apply r) r

/-- The registry after a call is reached from the one before by resolutions, or by a successful
registration or load. -/
theorem apply_reaches (c : Call) (r : Registry) :
    Relation.ReflTransGen resolver.Step r (c.apply r) ∨
      (∃ ms, r.register ms = .ok (c.apply r)) ∨ ∃ text, r.loadMappings text = .ok (c.apply r) := by
  cases c with
  | register ms =>
    simp only [apply]
    split
    · next r' h => exact .inr (.inl ⟨ms, h⟩)
    · exact .inl .refl
  | loadMappings text =>
    simp only [apply]
    split
    · next r' h => exact .inr (.inr ⟨text, h⟩)
    · exact .inl .refl
  | resolve e => exact .inl (.single ⟨e, rfl⟩)
  | columnName e property => exact .inl (.single ⟨e, (columnName_registry r e property).symm⟩)
  | compile c sink =>
    exact .inl (Render.run_world_reaches (c.resolvesOnly_pass resolver) sink r)
  | orderBy e sorts =>
    simp only [apply, Render.orderByPass]
    split
    · exact .inl .refl
    · exact .inl (Render.run_world_reaches (Render.resolvesOnly_orderBy e sorts) _ r)
  | entities => exact .inl .refl
  | validate => exact .inl .refl

theorem keeps_apply (c : Call) (r : Registry) : r.Keeps (c.apply r) := by
  rcases apply_reaches c r with h | ⟨ms, h⟩ | ⟨text, h⟩
  · exact keeps_of_reaches h
  · exact register_keeps h
  · exact loadMappings_keeps h

theorem named_apply (c : Call) {r : Registry} (hr : r.Named) : (c.apply r).Named := by
  rcases apply_reaches c r with h | ⟨ms, h⟩ | ⟨text, h⟩
  · exact hr.of_reaches h
  · exact hr.register h
  · exact hr.loadMappings h

theorem keeps_runAll : ∀ (cs : List Call) (r : Registry), r.Keeps (runAll r cs)
  | [], r => Keeps.refl r
  | c :: cs, r => (keeps_apply c r).trans (keeps_runAll cs (c.apply r))

theorem named_runAll : ∀ (cs : List Call) {r : Registry}, r.Named → (runAll r cs).Named
  | [], _, hr => hr
  | c :: cs, _, hr => named_runAll cs (named_apply c hr)

end Call

/-! ### Calls at once

Only the sections of a call that hold the registry's lock touch the registry, and each is atomic.
Registering builds its mappers outside the lock and stores them in one section; resolving looks
the name up in one section and, when it is unbound and may be mapped automatically, looks it up
again, maps and binds it in another; listing names and validating read the registry in one
section. A resolution is followed step by step; every other section may come at any point. -/

/-- An atomic section on a registry. -/
inductive Section where
  | lookup (name : String)
  | resolveLocked (e : Entity)
  | store (ts : List TableMap)
  | view

/-- The registry a section leaves. -/
def Section.apply : Section → Registry → Registry
  | .lookup _, r => r
  | .resolveLocked e, r => (r.resolveLocked e).2
  | .store ts, r => match r.store ts with
    | .ok r' => r'
    | .error _ => r
  | .view, r => r

theorem Section.keeps_apply (s : Section) (r : Registry) : r.Keeps (s.apply r) := by
  cases s with
  | lookup n => exact Keeps.refl r
  | resolveLocked e => exact resolveLocked_keeps r e
  | store ts =>
    simp only [apply]
    split
    · next r' h => exact store_keeps h
    · exact Keeps.refl r
  | view => exact Keeps.refl r

theorem Section.named_apply (s : Section) {r : Registry} (hr : r.Named) : (s.apply r).Named := by
  cases s with
  | lookup n => exact hr
  | resolveLocked e => exact hr.resolveLocked e
  | store ts =>
    simp only [apply]
    split
    · next r' h => exact hr.store h
    · exact hr
  | view => exact hr

/-- Where a resolution of an entity stands: before its lookup, waiting for the lock after finding
the name unbound, or answered. -/
inductive Resolving where
  | start (e : Entity)
  | locking (e : Entity)
  | done (e : Entity) (answer : Except Error TableMap)

namespace Resolving

/-- The entity being resolved. -/
def entity : Resolving → Entity
  | start e | locking e | done e _ => e

/-- The answer, once there is one. -/
def answer? : Resolving → Option (Except Error TableMap)
  | done _ a => some a
  | _ => none

/-- The next section of a resolution, and the registry it leaves. The check of automatic mapping
and of the record type after the lookup reads nothing that changes, so it goes with the lookup. -/
def step : Resolving → Registry → Resolving × Registry
  | start e, r =>
    match r.find? e.name with
    | some m => (done e (.ok m), r)
    | none =>
      if !r.autoMap || e.record.isNone then (done e (.error (.mappingNotFound e.name)), r)
      else (locking e, r)
  | locking e, r => (done e (r.resolveLocked e).1, (r.resolveLocked e).2)
  | done e a, r => (done e a, r)

@[simp] theorem entity_step (t : Resolving) (r : Registry) : (t.step r).1.entity = t.entity := by
  cases t with
  | start e =>
    simp only [step]
    split
    · rfl
    · split <;> rfl
  | locking e => rfl
  | done e a => rfl

theorem keeps_step (t : Resolving) (r : Registry) : r.Keeps (t.step r).2 := by
  cases t with
  | start e =>
    simp only [step]
    split
    · exact Keeps.refl r
    · split <;> exact Keeps.refl r
  | locking e => exact resolveLocked_keeps r e
  | done e a => exact Keeps.refl r

theorem named_step (t : Resolving) {r : Registry} (hr : r.Named) : (t.step r).2.Named := by
  cases t with
  | start e =>
    simp only [step]
    split
    · exact hr
    · split <;> exact hr
  | locking e => exact hr.resolveLocked e
  | done e a => exact hr

/-- A resolution that answered with a mapping answered with the one its name is bound to. -/
def Answered (r : Registry) (t : Resolving) : Prop :=
  ∀ m, t.answer? = some (.ok m) → r.find? t.entity.name = some m

theorem Answered.keeps {r r' : Registry} {t : Resolving} (h : t.Answered r) (hk : r.Keeps r') :
    t.Answered r' :=
  fun m hm => hk.bound (h m hm)

theorem Answered.step {r : Registry} {t : Resolving} (h : t.Answered r) :
    (t.step r).1.Answered (t.step r).2 := by
  intro m hm
  rw [entity_step]
  cases t with
  | start e =>
    simp only [Resolving.step] at hm ⊢
    split at hm
    · next m' hf =>
      cases hm
      exact hf
    · split at hm <;> cases hm
  | locking e => exact Registry.resolveLocked_answer (Option.some.inj hm)
  | done e a => exact h m hm

/-- A resolution has not answered yet, or answered with a given mapping. -/
def Awaits (cm : TableMap) (t : Resolving) : Prop := t.answer? = none ∨ t.answer? = some (.ok cm)

/-- Once its name is bound, a resolution that has not answered answers with that mapping: the
lookup finds it, and so does the second lookup of one waiting for the lock. -/
theorem Awaits.step {r : Registry} {t : Resolving} {cm : TableMap}
    (hb : r.find? t.entity.name = some cm) (h : t.Awaits cm) : (t.step r).1.Awaits cm := by
  cases t with
  | start e =>
    simp only [entity] at hb
    simp [Resolving.step, hb, Awaits, answer?]
  | locking e =>
    simp only [entity] at hb
    simp [Resolving.step, Registry.resolveLocked_of_find? hb, Awaits, answer?]
  | done e a => exact h

end Resolving

/-- A registry and the resolutions running on it. -/
structure System where
  registry : Registry
  threads : List Resolving

/-- What happens next: resolution `i` takes its next section, or some other call takes one. -/
inductive Event where
  | advance (i : Nat)
  | other (s : Section)

namespace System

def step (sys : System) : Event → System
  | .advance i =>
    match sys.threads[i]? with
    | some t => ⟨(t.step sys.registry).2, sys.threads.set i (t.step sys.registry).1⟩
    | none => sys
  | .other s => ⟨s.apply sys.registry, sys.threads⟩

/-- The system after events, in order. -/
def run (sys : System) (evs : List Event) : System := evs.foldl step sys

/-- Every resolution that answered with a mapping answered with the one its name is bound to. -/
def Consistent (sys : System) : Prop := ∀ t ∈ sys.threads, t.Answered sys.registry

theorem keeps_step (sys : System) (ev : Event) : sys.registry.Keeps (sys.step ev).registry := by
  cases ev with
  | advance i =>
    simp only [step]
    split
    · next t _ => exact t.keeps_step sys.registry
    · exact Keeps.refl _
  | other s => exact s.keeps_apply sys.registry

theorem named_step (sys : System) (ev : Event) (h : sys.registry.Named) :
    (sys.step ev).registry.Named := by
  cases ev with
  | advance i =>
    simp only [step]
    split
    · next t _ => exact t.named_step h
    · exact h
  | other s => exact s.named_apply h

theorem Consistent.step {sys : System} (h : sys.Consistent) (ev : Event) :
    (sys.step ev).Consistent := by
  have hk := sys.keeps_step ev
  cases ev with
  | advance i =>
    cases ht : sys.threads[i]? with
    | none =>
      simp only [System.step, ht]
      exact h
    | some t =>
      simp only [System.step, ht] at hk ⊢
      intro u hu
      -- the advanced resolution answers from the registry it leaves; the others keep theirs
      rcases List.mem_or_eq_of_mem_set hu with hu | rfl
      · exact (h u hu).keeps hk
      · exact (h t (List.mem_of_getElem? ht)).step
  | other s => exact fun u hu => (h u hu).keeps hk

/-- Resolution `i` is of an entity named `n` and has not answered, or answered with `cm`. -/
def Awaits (sys : System) (i : Nat) (n : String) (cm : TableMap) : Prop :=
  ∃ t, sys.threads[i]? = some t ∧ t.entity.name = n ∧ t.Awaits cm

theorem Awaits.step {sys : System} {i : Nat} {n : String} {cm : TableMap}
    (hb : sys.registry.find? n = some cm) (h : sys.Awaits i n cm) (ev : Event) :
    (sys.step ev).Awaits i n cm := by
  obtain ⟨t, hi, hn, ht⟩ := h
  cases ev with
  | advance j =>
    simp only [System.step]
    split
    · next u hj =>
      by_cases hij : j = i
      · -- the awaiting resolution itself moves, with its name bound
        subst hij
        rw [hi] at hj
        cases hj
        refine ⟨_, List.getElem?_set_self (List.getElem?_eq_some_iff.1 hi).1, by simp [hn], ?_⟩
        exact ht.step (hn ▸ hb)
      · exact ⟨t, by rw [List.getElem?_set_ne hij, hi], hn, ht⟩
    · exact ⟨t, hi, hn, ht⟩
  | other s => exact ⟨t, hi, hn, ht⟩

theorem keeps_run : ∀ (evs : List Event) (sys : System), sys.registry.Keeps (sys.run evs).registry
  | [], _ => Keeps.refl _
  | ev :: evs, sys => (sys.keeps_step ev).trans (keeps_run evs (sys.step ev))

theorem named_run : ∀ (evs : List Event) {sys : System}, sys.registry.Named →
    (sys.run evs).registry.Named
  | [], _, h => h
  | ev :: evs, sys, h => named_run evs (sys.named_step ev h)

theorem Consistent.run : ∀ (evs : List Event) {sys : System}, sys.Consistent →
    (sys.run evs).Consistent
  | [], _, h => h
  | ev :: evs, _, h => Consistent.run evs (h.step ev)

theorem Awaits.run : ∀ (evs : List Event) {sys : System} {i : Nat} {n : String} {cm : TableMap},
    sys.registry.find? n = some cm → sys.Awaits i n cm → (sys.run evs).Awaits i n cm
  | [], _, _, _, _, _, h => h
  | ev :: evs, sys, _, _, _, hb, h =>
    Awaits.run evs ((sys.keeps_step ev).bound hb) (h.step hb ev)

/-- Two resolutions of one name that answered with mappings answered with the same one. -/
theorem Consistent.answers_agree {sys : System} (h : sys.Consistent) {t t' : Resolving}
    (ht : t ∈ sys.threads) (ht' : t' ∈ sys.threads) (hn : t.entity.name = t'.entity.name)
    {m m' : TableMap} (hm : t.answer? = some (.ok m)) (hm' : t'.answer? = some (.ok m')) :
    m = m' := by
  have h1 := h t ht m hm
  have h2 := h t' ht' m' hm'
  rw [hn, h2] at h1
  exact (Option.some.inj h1).symm

end System

end Registry

open Registry in
/-- A registry's bindings are written once. From any registry, calls made one after another keep
every binding, and keep every name bound to a mapping of an entity of that name. A bound name is
resolved to its mapping for any entity of that name, with nothing changed. A registration with a
mapper of a bound name fails and stores nothing; it fails as already registered when every mapper
of the batch is there and builds with distinct names, and otherwise with the first fault of the
batch. An unbound name is not found, with nothing changed, when automatic mapping is off or the
entity has no record type, and a failed resolution changes nothing. With calls running at once,
each section atomic, every interleaving keeps the bindings; resolutions of one name that answer
with a mapping answer with the same one, the one bound at the end; and once a name is bound, every
resolution of it that has not answered yet answers, if at all, with that mapping. -/
theorem registry_bindings_are_written_once (r : Registry) :
    (∀ cs : List Call, r.Keeps (Call.runAll r cs) ∧ (r.Named → (Call.runAll r cs).Named)) ∧
      (∀ e m, r.find? e.name = some m → r.resolve e = (.ok m, r)) ∧
      (∀ ms m, some m ∈ ms → (r.find? m.entity.name).isSome → ∃ err, r.register ms = .error err) ∧
      (∀ ms ts, List.Forall₂ Builds ms ts → (ts.map (·.entity.name)).Nodup →
        (∃ t ∈ ts, (r.find? t.entity.name).isSome) →
        ∃ n, (r.find? n).isSome ∧ r.register ms = .error (.within (.register n) .alreadyRegistered)) ∧
      (∀ e, r.find? e.name = none → (r.autoMap = false ∨ e.record = none) →
        r.resolve e = (.error (.mappingNotFound e.name), r)) ∧
      (∀ e err, (r.resolve e).1 = .error err → (r.resolve e).2 = r) ∧
      (∀ (threads : List Resolving) (evs : List Event), (∀ t ∈ threads, t.Answered r) →
        r.Keeps (System.run ⟨r, threads⟩ evs).registry ∧
          (r.Named → (System.run ⟨r, threads⟩ evs).registry.Named) ∧
          (System.run ⟨r, threads⟩ evs).Consistent ∧
          (∀ t ∈ (System.run ⟨r, threads⟩ evs).threads, ∀ t' ∈ (System.run ⟨r, threads⟩ evs).threads,
            t.entity.name = t'.entity.name → ∀ m m', t.answer? = some (.ok m) →
              t'.answer? = some (.ok m') → m = m') ∧
          ∀ i n cm, r.find? n = some cm → System.Awaits ⟨r, threads⟩ i n cm →
            (System.run ⟨r, threads⟩ evs).Awaits i n cm) := by
  refine ⟨fun cs => ⟨Call.keeps_runAll cs r, Call.named_runAll cs⟩, fun e m h => resolve_of_find? h,
    fun ms m hm hbound => register_fails_of_bound hm hbound,
    fun ms ts hf hnd hbound => register_eq_error_of_bound hf hnd hbound,
    fun e h hoff => resolve_of_unbound h hoff, fun e err h => resolve_of_error h, ?_⟩
  · intro threads evs hans
    have hcons : System.Consistent ⟨r, threads⟩ := hans
    exact ⟨System.keeps_run evs ⟨r, threads⟩, fun hr => System.named_run evs hr, hcons.run evs,
      fun t ht t' ht' hn m m' hm hm' => (hcons.run evs).answers_agree ht ht' hn hm hm',
      fun i n cm hb h => System.Awaits.run evs hb h⟩

/-- The registry after registering `Order` with the table `orders`. -/
def orderRegistry : Except Error Registry :=
  Registry.empty.register [some ((Mapper.named "Order").setTable "orders")]

/-- Registering `Order` again with an empty table is refused for the empty table, not as already
registered: the build fault comes first. -/
theorem reregistering_reports_build_fault :
    (orderRegistry.bind fun r => r.register [some ((Mapper.named "Order").setTable "")]) =
      .error (.within (.register "Order") (.emptyTable "Order")) := by
  rfl

end PredicateSql
