import Mathlib
import PredicateSql.Proofs.Walk
import PredicateSql.Registry

/-! Reusing a sink. A pass names each operand after the sink's size, so the names of a sink that
only passes have filled are numbered by their positions: binding only appends, no pass fails on a
taken name, and the names stay distinct, whatever passes fill it. -/
namespace PredicateSql

open Render

/-- A resolver reports an error: resolving some entity in some state fails with it. -/
def Resolver.Reports {σ : Type} (r : Resolver σ) (err : Error) : Prop :=
  ∃ e w w', r.resolve e w = (.error err, w')

theorem Mapper.build_error_clean {m : Mapper} {err : Error}
    (hf : ∀ e ∈ m.fault, ∀ n, e.cause ≠ .duplicateParameter n) (h : m.build = .error err) :
    ∀ n, err.cause ≠ .duplicateParameter n := by
  unfold Mapper.build at h
  cases hfault : m.fault with
  | some e =>
    rw [hfault] at h
    cases h
    exact hf _ hfault
  | none =>
    rw [hfault] at h
    by_cases ht : (m.table == "") = true
    · rw [if_pos ht] at h
      cases h
      simp [Error.cause]
    rw [if_neg ht] at h
    cases hk : m.properties.find? (fun p => p.ignored && p.key.isKey) with
    | some p =>
      rw [hk] at h
      cases h
      simp [Error.cause]
    | none =>
      rw [hk] at h
      cases ha : m.autoMap
      · simp [ha] at h
        cases h
      · simp only [ha, if_true, autoMapProperties] at h
        split at h
        · split at h
          · cases h
          · cases h
            simp [Error.cause]
        · cases h
          simp [Error.cause]

theorem Registry.resolver_reports_no_taken_name {err : Error} (h : Registry.resolver.Reports err) :
    ∀ n, err.cause ≠ .duplicateParameter n := by
  obtain ⟨e, reg, reg', h⟩ := h
  simp only [Registry.resolver, Registry.resolve] at h
  cases hfind : reg.find? e.name with
  | some m =>
    rw [hfind] at h
    cases h
  | none =>
    rw [hfind] at h
    by_cases hno : (!reg.autoMap || e.record.isNone) = true
    · rw [if_pos hno] at h
      cases h
      simp [Error.cause]
    rw [if_neg hno] at h
    simp only [Registry.resolveLocked, hfind] at h
    cases hb : (Mapper.ofEntity e).withAutoMap.build with
    | ok m =>
      rw [hb] at h
      cases h
    | error err' =>
      rw [hb] at h
      cases h
      simp only [Error.cause_within]
      refine Mapper.build_error_clean (fun e' he' n => ?_) hb
      by_cases hr : e.record.isNone = true
      · simp [Mapper.withAutoMap, Mapper.ofEntity, hr, Mapper.fail] at he'
        subst he'
        simp [Error.cause]
      · simp [Mapper.withAutoMap, Mapper.ofEntity, hr] at he'

theorem Render.paramName_ordinal_eq {p q : String} {n i : Nat} (h : paramName p n = paramName q i) :
    n = i := by
  -- read each name backwards up to its last `_`: that gives the ordinal's digits, reversed
  have back : ∀ p k, (paramName p k).toList.reverse.takeWhile (· != '_') =
      (Nat.toDigits 10 k).reverse := by
    intro p k
    have hdig : ∀ c ∈ (Nat.toDigits 10 k).reverse, (c != '_') = true := by
      intro c hc
      have hd := Nat.isDigit_of_mem_toDigits (by decide) (by decide) (List.mem_reverse.1 hc)
      simp only [bne_iff_ne, ne_eq]
      rintro rfl
      exact absurd hd (by decide)
    simp only [paramName, String.toList_append]
    simp [Nat.toList_repr, List.takeWhile_append_of_pos hdig]
  have hk := congrArg (fun s => s.toList.reverse.takeWhile (· != '_')) h
  simp only [back, List.reverse_inj] at hk
  exact Nat.repr_inj.1 (String.toList_inj.1 (by simpa [Nat.toList_repr] using hk))

namespace Params

/-- The names of a sink are numbered by position: the `i`-th is `@P_i` for some property `P`. -/
def Numbered (p : Params) : Prop :=
  ∀ i n, p.names[i]? = some n → ∃ property, n = paramName property i

theorem numbered_empty : empty.Numbered := by
  intro i n h
  simp [empty, names] at h

variable {p : Params}

theorem Numbered.fresh (h : p.Numbered) (property : String) :
    p.contains (paramName property p.size) = false := by
  rw [Bool.eq_false_iff]
  intro hc
  obtain ⟨i, hi⟩ := List.mem_iff_getElem?.1 (List.contains_iff_mem.1 hc)
  obtain ⟨q, hq⟩ := h i _ hi
  have hlt : i < p.names.length := (List.getElem?_eq_some_iff.1 hi).1
  have heq : p.size = i := paramName_ordinal_eq hq
  simp [names, size] at hlt heq
  omega

theorem Numbered.push (h : p.Numbered) (property : String) (v : Value) :
    (⟨p.entries ++ [(paramName property p.size, v)]⟩ : Params).Numbered := by
  intro i n hn
  simp only [names, List.map_append, List.map_cons, List.map_nil] at hn
  by_cases hi : i < p.size
  · rw [List.getElem?_append_left (by simpa [size] using hi)] at hn
    exact h i n hn
  · rw [List.getElem?_append_right (by simp [size] at hi ⊢; omega)] at hn
    have hi' : i = p.size := by
      by_contra hne
      rw [List.getElem?_singleton] at hn
      simp [size] at hi hne hn
      omega
    subst hi'
    simp [size] at hn
    exact ⟨property, hn.symm⟩

theorem Numbered.nodup (h : p.Numbered) : p.names.Nodup := by
  rw [List.nodup_iff_getElem?_ne_getElem?]
  intro i j hij hj heq
  obtain ⟨n, hn⟩ : ∃ n, p.names[i]? = some n := ⟨_, List.getElem?_eq_getElem (by omega)⟩
  obtain ⟨q, hq⟩ := h i n hn
  obtain ⟨q', hq'⟩ := h j n (heq ▸ hn)
  exact absurd (paramName_ordinal_eq (hq.symm.trans hq')) (by omega)

end Params

namespace Render

variable {σ α β : Type}

/-- What a step may do to a numbered sink: append to it, keeping it numbered. -/
structure Appends (ps ps' : Params) : Prop where
  keeps : ps.entries <+: ps'.entries
  numbered : ps'.Numbered

theorem Appends.refl {ps : Params} (h : ps.Numbered) : Appends ps ps := ⟨List.prefix_refl _, h⟩

theorem Appends.trans {ps ps' ps'' : Params} (h : Appends ps ps') (h' : Appends ps' ps'') :
    Appends ps ps'' := ⟨h.keeps.trans h'.keeps, h'.numbered⟩

/-- A failure a pass over a resolver may end with: none on a taken name, unless the resolver
reported it. -/
def Excused (r : Resolver σ) (err : Error) : Prop :=
  (∀ n, err.cause ≠ .duplicateParameter n) ∨ r.Reports err

/-- A step's result from a state: the sink only grew by appending and stays numbered, and a failure
is excused. -/
def Numbering (r : Resolver σ) (s : Pass σ) : EStateM.Result Error (Pass σ) α → Prop
  | .ok _ t => Appends s.params t.params
  | .error e t => Appends s.params t.params ∧ Excused r e

/-- A step over a resolver keeps every numbered sink numbered, only appends to it, and fails on a
taken name only where the resolver does. -/
def KeepsNumbering (r : Resolver σ) (x : RenderM σ α) : Prop :=
  ∀ s : Pass σ, s.params.Numbered → Numbering r s (x.run s)

variable {r : Resolver σ}

theorem KeepsNumbering.bind {x : RenderM σ α} {f : α → RenderM σ β} (hx : KeepsNumbering r x)
    (hf : ∀ a, KeepsNumbering r (f a)) : KeepsNumbering r (x >>= f) := by
  intro s hs
  have h := hx s hs
  rw [EStateM.run_bind]
  cases hr : x.run s with
  | ok a t =>
    rw [hr] at h
    change Appends s.params t.params at h
    have hk := hf a t h.numbered
    dsimp only
    cases hr' : (f a).run t with
    | ok b u =>
      rw [hr'] at hk
      exact h.trans hk
    | error e u =>
      rw [hr'] at hk
      exact ⟨h.trans hk.1, hk.2⟩
  | error e t =>
    rw [hr] at h
    exact h

theorem KeepsNumbering.pure (a : α) : KeepsNumbering r (Pure.pure a : RenderM σ α) :=
  fun _ hs => Appends.refl hs

theorem KeepsNumbering.throw {e : Error} (he : ∀ n, e.cause ≠ .duplicateParameter n) :
    KeepsNumbering r (MonadExcept.throw e : RenderM σ α) :=
  fun _ hs => ⟨Appends.refl hs, .inl he⟩

theorem KeepsNumbering.of_effects {x : RenderM σ α} {w : RenderM σ PUnit} (hx : Effects x w)
    (hw : KeepsNumbering r w) : KeepsNumbering r x := by
  intro s hs
  have h := hw s hs
  rw [← hx s] at h
  cases hr : x.run s <;> rw [hr] at h <;> exact h

theorem KeepsNumbering.mapM {f : α → RenderM σ β} :
    ∀ {l : List α}, (∀ a ∈ l, KeepsNumbering r (f a)) → KeepsNumbering r (l.mapM f)
  | [], _ => KeepsNumbering.pure _
  | a :: l, h => by
    rw [List.mapM_cons]
    exact (h a List.mem_cons_self).bind fun _ =>
      (KeepsNumbering.mapM fun b hb => h b (List.mem_cons_of_mem a hb)).bind fun _ =>
        KeepsNumbering.pure _

theorem keepsNumbering_liftExcept {x : Except Error α}
    (hx : ∀ e n, x = .error e → e.cause ≠ .duplicateParameter n) :
    KeepsNumbering r (propertyColumn.liftExcept x : RenderM σ α) := by
  cases x with
  | ok a => exact KeepsNumbering.pure a
  | error e => exact KeepsNumbering.throw fun n => hx e n rfl

theorem keepsNumbering_resolve (e : Entity) : KeepsNumbering r (resolve r e) := by
  intro s hs
  cases h : (resolve r e).run s with
  | ok m t =>
    have hp := (resolve_run_eq_ok h).1
    exact ⟨by rw [hp], by rw [hp]; exact hs⟩
  | error err t =>
    have hp := (resolve_run_eq_error h).1
    refine ⟨⟨by rw [hp], by rw [hp]; exact hs⟩, .inr ?_⟩
    simp only [resolve, EStateM.run] at h
    split at h
    · cases h
    · split at h
      · cases h
      · next w hres =>
        cases h
        exact ⟨e, s.world, w, hres⟩

theorem keepsNumbering_bind (property : String) (v : Value) :
    KeepsNumbering r (bind property v : RenderM σ String) := by
  intro s hs
  rw [bind_run_of_fresh (hs.fresh property)]
  exact ⟨List.prefix_append _ _, hs.push property v⟩

namespace Check

/-- A check whose own condition fails with no taken-name error. -/
def Clean : Check → Prop
  | guard _ err => ∀ n, err.cause ≠ .duplicateParameter n
  | _ => True

theorem keepsNumbering_run : ∀ c : Check, c.Clean → KeepsNumbering r (c.run r)
  | .guard holds err, hc => by
    cases holds
    · exact KeepsNumbering.throw hc
    · exact KeepsNumbering.pure _
  | .resolve e, _ => (keepsNumbering_resolve e).bind fun _ => KeepsNumbering.pure _
  | .column e property, _ => (keepsNumbering_resolve e).bind fun m => by
    by_cases hf : (m.find? property).isNone
    · simp only [hf, if_true]
      exact KeepsNumbering.throw fun n => by simp [Error.cause]
    · simp only [hf]
      exact KeepsNumbering.pure _
  | .bind property v, _ => (keepsNumbering_bind property v).bind fun _ => KeepsNumbering.pure _

end Check

theorem keepsNumbering_walk :
    ∀ cs : List Check, (∀ c ∈ cs, c.Clean) → KeepsNumbering r (walk r cs)
  | [], _ => KeepsNumbering.pure _
  | c :: cs, h => by
    rw [walk_cons]
    exact (Check.keepsNumbering_run c (h c List.mem_cons_self)).bind fun _ =>
      keepsNumbering_walk cs fun d hd => h d (List.mem_cons_of_mem c hd)

theorem fieldChecks_clean (t : FieldTest) : ∀ c ∈ fieldChecks t, c.Clean := by
  unfold fieldChecks
  cases t.operand.classify <;> simp [Check.Clean, Error.cause]

mutual

theorem checks_clean : ∀ p : Predicate, ∀ c ∈ checks p, c.Clean
  | .absent => by simp [checks, Check.Clean, Error.cause]
  | .field t => fieldChecks_clean t
  | .compare _ => by simp [checks, compareChecks, Check.Clean, Error.cause]
  | .group _ cs => by
    have h := childChecks_clean cs
    simp only [checks, List.mem_cons]
    rintro c (rfl | rfl | hc)
    · simp [Check.Clean, Error.cause]
    · simp [Check.Clean, Error.cause]
    · exact h c hc
  | .existential _ inner _ => by
    have h := checks_clean inner
    simp only [checks, List.mem_cons]
    rintro c (rfl | rfl | hc)
    · simp [Check.Clean, Error.cause]
    · trivial
    · exact h c hc
  | .ref t => by
    by_cases hn : t.isNode
    · simpa [checks, hn] using checks_clean t
    · simp [checks, hn, Check.Clean, Error.cause]
  | .nullRef _ => by simp [checks, Check.Clean, Error.cause]
  | .foreign _ => by simp [checks, Check.Clean, Error.cause]

theorem childChecks_clean : ∀ cs : List Predicate, ∀ c ∈ childChecks cs, c.Clean
  | [] => by simp [childChecks]
  | p :: cs => by
    have hp := checks_clean p
    have hcs := childChecks_clean cs
    simp only [childChecks, List.mem_append]
    rintro c (hc | hc)
    · exact hp c hc
    · exact hcs c hc

end

theorem keepsNumbering_predicate (p : Predicate) : KeepsNumbering r (predicate r p) :=
  .of_effects (predicate_effects r p) (keepsNumbering_walk _ (checks_clean p))

theorem keepsNumbering_whereClause (p : Predicate) : KeepsNumbering r (whereClause r p) := by
  unfold whereClause
  split
  · exact KeepsNumbering.pure _
  · exact (keepsNumbering_predicate p).bind fun _ => KeepsNumbering.pure _

theorem keepsNumbering_orderBy (e : Entity) (sorts : List SortTerm) :
    KeepsNumbering r (orderBy r e sorts) := by
  refine (keepsNumbering_resolve e).bind fun m => ?_
  refine (KeepsNumbering.mapM fun s _ => ?_).bind fun _ => KeepsNumbering.pure _
  refine (keepsNumbering_liftExcept fun err n h => ?_).bind fun _ => KeepsNumbering.pure _
  unfold columnOf at h
  split at h <;> cases h
  simp [Error.cause]

theorem keepsNumbering_select (e : Entity) (p : Predicate) (sorts : List SortTerm) :
    KeepsNumbering r (select r e p sorts) := by
  refine (keepsNumbering_resolve e).bind fun _ => (keepsNumbering_whereClause p).bind fun _ => ?_
  dsimp only
  split
  · exact (KeepsNumbering.pure _).bind fun _ => KeepsNumbering.pure _
  · exact (keepsNumbering_orderBy e sorts).bind fun _ =>
      (KeepsNumbering.pure _).bind fun _ => KeepsNumbering.pure _

theorem keepsNumbering_count (e : Entity) (p : Predicate) : KeepsNumbering r (count r e p) :=
  (keepsNumbering_resolve e).bind fun _ => (keepsNumbering_whereClause p).bind fun _ =>
    KeepsNumbering.pure _

end Render

/-- What a sink is filled by: a tree, a query of an entity's rows, or a count of them. -/
inductive Compilation where
  | tree (p : Predicate)
  | select (e : Entity) (p : Predicate) (sorts : List SortTerm)
  | count (e : Entity) (p : Predicate)

/-- The pass of a compilation over a resolver. -/
def Compilation.pass {σ : Type} (r : Resolver σ) : Compilation → RenderM σ String
  | .tree p => Render.predicate r p
  | .select e p sorts => Render.select r e p sorts
  | .count e p => Render.count r e p

theorem Compilation.keepsNumbering_pass {σ : Type} (r : Resolver σ) :
    ∀ c : Compilation, Render.KeepsNumbering r (c.pass r)
  | .tree p => Render.keepsNumbering_predicate p
  | .select e p sorts => Render.keepsNumbering_select e p sorts
  | .count e p => Render.keepsNumbering_count e p

/-- One compilation into a sink, over any resolver in any state. -/
structure SinkCall where
  {σ : Type}
  resolver : Resolver σ
  world : σ
  compilation : Compilation

namespace SinkCall

/-- Runs a call on a sink. -/
def run (c : SinkCall) (ps : Params) : Rendered c.σ :=
  Render.run (c.compilation.pass c.resolver) (some ps) c.world

/-- Runs calls one after another on one sink: each call's result and the sink it leaves. -/
def runAll : Params → List SinkCall → List (Except Error String × Params)
  | _, [] => []
  | ps, c :: cs => ((c.run ps).result, (c.run ps).params) :: runAll (c.run ps).params cs

/-- The sink before some calls and after each of them. -/
def sinks (ps : Params) (cs : List SinkCall) : List Params := ps :: (runAll ps cs).map (·.2)

theorem run_appends (c : SinkCall) {ps : Params} (hps : ps.Numbered) :
    Render.Appends ps (c.run ps).params ∧
      ∀ err, (c.run ps).result = .error err → Render.Excused c.resolver err := by
  have h := c.compilation.keepsNumbering_pass c.resolver ⟨c.world, ps, []⟩ hps
  simp only [run, Render.run]
  cases hx : (c.compilation.pass c.resolver).run ⟨c.world, ps, []⟩ with
  | ok a t =>
    rw [hx] at h
    exact ⟨h, by simp⟩
  | error e t =>
    rw [hx] at h
    exact ⟨h.1, by rintro err ⟨⟩; exact h.2⟩

/-- Calls run one after another on a numbered sink keep it numbered and only append to it, and
each fails on a taken name only as its resolver does. -/
theorem runAll_keeps_numbering :
    ∀ {cs : List SinkCall} {ps : Params}, ps.Numbered →
      (∀ q ∈ sinks ps cs, q.Numbered) ∧
      (∀ p ∈ cs.zip (runAll ps cs), ∀ err, p.2.1 = .error err → Render.Excused p.1.resolver err) ∧
      (sinks ps cs).IsChain (fun ps ps' => ps.entries <+: ps'.entries)
  | [], ps, hps => by simp [sinks, runAll, hps]
  | c :: cs, ps, hps => by
    obtain ⟨happ, hexc⟩ := run_appends c hps
    obtain ⟨hnum, hexc', hchain⟩ := @runAll_keeps_numbering cs _ happ.numbered
    refine ⟨?_, ?_, ?_⟩
    · simp only [sinks, runAll, List.map_cons, List.mem_cons] at hnum ⊢
      rintro q (rfl | hq)
      · exact hps
      · exact hnum q hq
    · simp only [runAll, List.zip_cons_cons, List.mem_cons]
      rintro p (rfl | hp)
      · exact hexc
      · exact hexc' p hp
    · simp only [sinks, runAll, List.map_cons] at hchain ⊢
      exact List.IsChain.cons_cons happ.keeps hchain

end SinkCall

/-- Reusing a sink never collides. Take a sink that starts empty and is filled by any calls, each
compiling a tree, a query or a count over any resolver in any state, succeeding or failing. After
every call the `i`-th name of the sink is `@P_i` for some property `P`, so the names are distinct;
no call fails on a taken name unless its resolver reported that failure, so no call over a registry
fails on one; and each call only appends to the sink, leaving the parameters of the fragments
compiled before it as they were. -/
theorem reused_sink_never_collides (calls : List SinkCall) :
    (∀ ps ∈ SinkCall.sinks Params.empty calls, ps.Numbered ∧ ps.names.Nodup) ∧
      (∀ p ∈ calls.zip (SinkCall.runAll Params.empty calls), ∀ err, p.2.1 = .error err →
        (∀ n, err.cause ≠ .duplicateParameter n) ∨ p.1.resolver.Reports err) ∧
      (∀ p ∈ calls.zip (SinkCall.runAll Params.empty calls),
        (∃ w c, p.1 = ⟨Registry.resolver, w, c⟩) →
        ∀ err, p.2.1 = .error err → ∀ n, err.cause ≠ .duplicateParameter n) ∧
      (SinkCall.sinks Params.empty calls).IsChain (fun ps ps' => ps.entries <+: ps'.entries) := by
  obtain ⟨hnum, hexc, hchain⟩ := @SinkCall.runAll_keeps_numbering calls _ Params.numbered_empty
  refine ⟨fun ps hps => ⟨hnum ps hps, (hnum ps hps).nodup⟩, hexc, ?_, hchain⟩
  rintro ⟨call, res⟩ hp ⟨w, c, rfl⟩ err herr
  exact (hexc _ hp err herr).elim id Registry.resolver_reports_no_taken_name

/- Two trees on the properties `a_1` and `a` compiled into one sink: the second binds `@a_1` after
the first's `@a_1_0`. -/
example : ((SinkCall.runAll Params.empty
    [⟨Registry.resolver, { maps := [("T", ⟨.named "T", "", "T",
        [⟨"a_1", "a_1", .notAKey, false⟩, ⟨"a", "a", .notAKey, false⟩]⟩)] },
        .tree (.field ⟨.named "T", "a_1", "eq", .int .int 1, false⟩)⟩,
      ⟨Registry.resolver, { maps := [("T", ⟨.named "T", "", "T",
        [⟨"a_1", "a_1", .notAKey, false⟩, ⟨"a", "a", .notAKey, false⟩]⟩)] },
        .tree (.field ⟨.named "T", "a", "eq", .int .int 2, false⟩)⟩]).map (·.2.names)) =
    [["@a_1_0"], ["@a_1_0", "@a_1"]] := by
  rfl

end PredicateSql
