import Mathlib
import PredicateSql.Proofs.WellFormed
import PredicateSql.Proofs.Numbering

/-! Parameter names minted over a well-formed registry. A pass binds an operand only after checking
its property's column in the registry's mapping, so past the sink it is given it mints only names
`@`, a stored property, `_` and an ordinal, and it leaves a registry a program reaches. -/
namespace PredicateSql

mutual

/-- The entities a tree names, in pre-order. -/
def Predicate.entities : Predicate → List Entity
  | .field t => [t.entity]
  | .compare t => [t.entity, t.entity2]
  | .group _ cs => Predicate.childEntities cs
  | .existential e inner _ => e :: inner.entities
  | .ref t => t.entities
  | _ => []

/-- The entities the children of a group name, in order. -/
def Predicate.childEntities : List Predicate → List Entity
  | [] => []
  | c :: cs => c.entities ++ Predicate.childEntities cs

end

/-- The entities a compilation names: the one it queries or counts, then its tree's. -/
def Compilation.entities : Compilation → List Entity
  | .tree p => p.entities
  | .select e p _ => e :: p.entities
  | .count e p => e :: p.entities

namespace Render

/-- The entity a check resolves, if it resolves one. -/
def Check.entity? : Check → Option Entity
  | .resolve e => some e
  | .column e _ => some e
  | _ => none

theorem fieldChecks_entity (t : FieldTest) : ∀ c ∈ fieldChecks t, ∀ e ∈ c.entity?, e = t.entity := by
  unfold fieldChecks
  cases t.operand.classify <;> simp [Check.entity?]

mutual

theorem checks_entities : ∀ p : Predicate, ∀ c ∈ checks p, ∀ e ∈ c.entity?, e ∈ p.entities
  | .absent => by simp [checks, Check.entity?]
  | .field t => fun c hc e he => by
    rw [fieldChecks_entity t c hc e he]
    simp [Predicate.entities]
  | .compare t => by simp [checks, compareChecks, Check.entity?, Predicate.entities]
  | .group _ cs => by
    have h := childChecks_entities cs
    simp only [checks, List.mem_cons, Predicate.entities]
    rintro c (rfl | rfl | hc)
    · simp [Check.entity?]
    · simp [Check.entity?]
    · exact h c hc
  | .existential _ inner _ => by
    have h := checks_entities inner
    simp only [checks, List.mem_cons, Predicate.entities]
    rintro c (rfl | rfl | hc)
    · simp [Check.entity?]
    · simp [Check.entity?]
    · exact fun e he => .inr (h c hc e he)
  | .ref t => by
    by_cases hn : t.isNode
    · simpa [checks, hn, Predicate.entities] using checks_entities t
    · simp [checks, hn, Check.entity?]
  | .nullRef _ => by simp [checks, Check.entity?]
  | .foreign _ => by simp [checks, Check.entity?]

theorem childChecks_entities :
    ∀ cs : List Predicate, ∀ c ∈ childChecks cs, ∀ e ∈ c.entity?, e ∈ Predicate.childEntities cs
  | [] => by simp [childChecks]
  | p :: cs => by
    have hp := checks_entities p
    have hcs := childChecks_entities cs
    simp only [childChecks, List.mem_append, Predicate.childEntities]
    rintro c (hc | hc) e he
    · exact .inl (hp c hc e he)
    · exact .inr (hcs c hc e he)

end

/-! ### Columns before bindings -/

/-- Every check that binds an operand of a property comes after a check of that property's
column. -/
def ColumnsFirst (cs : List Check) : Prop :=
  ∀ pre property v post, cs = pre ++ .bind property v :: post → ∃ e, .column e property ∈ pre

theorem ColumnsFirst.left {cs ds : List Check} (h : ColumnsFirst (cs ++ ds)) : ColumnsFirst cs := by
  rintro pre property v post rfl
  exact h pre property v (post ++ ds) (by simp)

theorem ColumnsFirst.append {cs ds : List Check} (hc : ColumnsFirst cs) (hd : ColumnsFirst ds) :
    ColumnsFirst (cs ++ ds) := by
  intro pre property v post h
  rcases List.append_eq_append_iff.1 h with ⟨a, rfl, hds⟩ | ⟨c, rfl, hpost⟩
  · -- the binding lies in the second part, after all of the first
    obtain ⟨e, he⟩ := hd a property v post hds
    exact ⟨e, List.mem_append_right _ he⟩
  · cases c with
    | nil =>
      obtain ⟨e, he⟩ := hd [] property v post (by simpa using hpost.symm)
      cases he
    | cons c rest =>
      obtain ⟨rfl, -⟩ := List.cons.inj hpost
      exact hc pre property v rest rfl

theorem columnsFirst_of_no_bind {cs : List Check} (h : ∀ property v, Check.bind property v ∉ cs) :
    ColumnsFirst cs := by
  rintro pre property v post rfl
  exact absurd (List.mem_append_right pre List.mem_cons_self) (h property v)

theorem ColumnsFirst.cons {c : Check} {cs : List Check} (hc : ∀ property v, c ≠ .bind property v)
    (h : ColumnsFirst cs) : ColumnsFirst (c :: cs) :=
  (@columnsFirst_of_no_bind [c] (by simpa [eq_comm] using hc)).append h

theorem columnsFirst_column_cons {e : Entity} {property : String} {rest : List Check}
    (h : ∀ p v, Check.bind p v ∈ rest → p = property) :
    ColumnsFirst (.column e property :: rest) := by
  rintro (_ | ⟨c, pre⟩) p v post hc
  · simp at hc
  · simp only [List.cons_append, List.cons.injEq] at hc
    obtain ⟨rfl, rfl⟩ := hc
    exact ⟨e, by rw [h p v (by simp)]; exact List.mem_cons_self⟩

theorem columnsFirst_fieldChecks (t : FieldTest) : ColumnsFirst (fieldChecks t) := by
  unfold fieldChecks
  apply columnsFirst_column_cons
  cases t.operand.classify <;> simp

mutual

theorem columnsFirst_checks : ∀ p : Predicate, ColumnsFirst (checks p)
  | .absent => columnsFirst_of_no_bind (by simp [checks])
  | .field t => columnsFirst_fieldChecks t
  | .compare _ => columnsFirst_of_no_bind (by simp [checks, compareChecks])
  | .group _ cs =>
    .cons (by simp) (.cons (by simp) (columnsFirst_childChecks cs))
  | .existential _ inner _ =>
    .cons (by simp) (.cons (by simp) (columnsFirst_checks inner))
  | .ref t => by
    by_cases hn : t.isNode
    · simpa [checks, hn] using columnsFirst_checks t
    · exact columnsFirst_of_no_bind (by simp [checks, hn])
  | .nullRef _ => columnsFirst_of_no_bind (by simp [checks])
  | .foreign _ => columnsFirst_of_no_bind (by simp [checks])

theorem columnsFirst_childChecks : ∀ cs : List Predicate, ColumnsFirst (childChecks cs)
  | [] => columnsFirst_of_no_bind (by simp [childChecks])
  | p :: cs => (columnsFirst_checks p).append (columnsFirst_childChecks cs)

end

theorem mem_of_mem_bindings {cs : List Check} {b : String × Value}
    (h : b ∈ cs.filterMap Check.binding) : Check.bind b.1 b.2 ∈ cs := by
  obtain ⟨c, hc, hb⟩ := List.mem_filterMap.1 h
  cases c with
  | bind property v =>
    cases hb
    exact hc
  | _ => simp [Check.binding] at hb

theorem mem_named {k : Nat} {ops : List (String × Value)} {x : String × Value}
    (h : x ∈ named k ops) : ∃ b ∈ ops, ∃ i, x = (paramName b.1 i, b.2) := by
  obtain ⟨i, hi, rfl⟩ := List.mem_mapIdx.1 h
  exact ⟨ops[i], List.getElem_mem hi, k + i, rfl⟩

section Preserves

variable {σ α β : Type} {I : Pass σ → Prop}

/-- A step keeps a property of pass states: from a state with it, the step ends, succeeding or
failing, in a state with it. -/
def Preserves (I : Pass σ → Prop) (x : RenderM σ α) : Prop := ∀ s, I s → I (final (x.run s))

theorem Preserves.bind {x : RenderM σ α} {f : α → RenderM σ β} (hx : Preserves I x)
    (hf : ∀ a, Preserves I (f a)) : Preserves I (x >>= f) := by
  intro s hs
  have h := hx s hs
  rw [EStateM.run_bind]
  cases hr : x.run s with
  | ok a t =>
    rw [hr] at h
    exact hf a t h
  | error e t =>
    rw [hr] at h
    exact h

theorem Preserves.pure (a : α) : Preserves I (Pure.pure a : RenderM σ α) := fun _ hs => hs

theorem Preserves.throw (e : Error) : Preserves I (MonadExcept.throw e : RenderM σ α) :=
  fun _ hs => hs

theorem Preserves.of_effects {x : RenderM σ α} {w : RenderM σ PUnit} (hx : Effects x w)
    (hw : Preserves I w) : Preserves I x := by
  intro s hs
  rw [← final_outcome, hx s]
  exact hw s hs

theorem Preserves.mapM {f : α → RenderM σ β} :
    ∀ {l : List α}, (∀ a ∈ l, Preserves I (f a)) → Preserves I (l.mapM f)
  | [], _ => Preserves.pure _
  | a :: l, h => by
    rw [List.mapM_cons]
    exact (h a List.mem_cons_self).bind fun _ =>
      (Preserves.mapM fun b hb => h b (List.mem_cons_of_mem a hb)).bind fun _ => Preserves.pure _

/-- A property that does not read the sink is kept by binding, which changes the sink only. -/
theorem preserves_bind_of_params (hI : ∀ s ps, I s → I { s with params := ps }) (property : String)
    (v : Value) : Preserves I (bind property v : RenderM σ String) := by
  intro s hs
  simp only [bind, EStateM.run]
  split
  · exact hs
  · exact hI s _ hs

theorem Check.preserves_run_of {r : Resolver σ} {c : Check}
    (hres : ∀ e ∈ c.entity?, Preserves I (Render.resolve r e))
    (hbind : ∀ property v, Preserves I (Render.bind property v : RenderM σ String)) :
    Preserves I (c.run r) := by
  cases c with
  | guard holds err =>
    cases holds
    · exact Preserves.throw err
    · exact Preserves.pure _
  | resolve e => exact (hres e rfl).bind fun _ => Preserves.pure _
  | column e property =>
    refine (hres e rfl).bind fun m => ?_
    by_cases hf : (m.find? property).isNone
    · simp only [hf, if_true]
      exact Preserves.throw _
    · simp only [hf]
      exact Preserves.pure _
  | bind property v => exact (hbind property v).bind fun _ => Preserves.pure _

theorem Preserves.walk {r : Resolver σ} :
    ∀ {cs : List Check}, (∀ c ∈ cs, Preserves I (c.run r)) → Preserves I (Render.walk r cs)
  | [], _ => Preserves.pure _
  | c :: cs, h => by
    rw [walk_cons]
    exact (h c List.mem_cons_self).bind fun _ =>
      Preserves.walk fun d hd => h d (List.mem_cons_of_mem c hd)

/-- A walk fails at a check it reaches in a state that still has every property its checks keep. -/
theorem Preserves.walk_run_eq_error {r : Resolver σ} {cs : List Check}
    (hcs : ∀ c ∈ cs, Preserves I (c.run r)) {s t : Pass σ} {err : Error} (hs : I s)
    (h : (Render.walk r cs).run s = .error err t) :
    ∃ pre c post u, cs = pre ++ c :: post ∧ (Render.walk r pre).run s = .ok ⟨⟩ u ∧
      (c.run r).run u = .error err t ∧ I u := by
  obtain ⟨pre, c, post, u, rfl, hpre, hc⟩ := Render.walk_run_eq_error.1 h
  have hu := Preserves.walk (fun d hd => hcs d (List.mem_append_left _ hd)) s hs
  rw [hpre] at hu
  exact ⟨pre, c, post, u, rfl, hpre, hc, hu⟩

end Preserves

/-! ### Passes coherent with a reachable registry -/

/-- A pass over a registry a program reaches, in which every mapping cached is the one the
registry binds to the entity's name. -/
structure Coherent (s : Pass Registry) : Prop where
  reachable : s.world.Reachable
  cached : ∀ {n m}, s.cache.lookup n = some m → s.world.find? n = some m

theorem preserves_resolve {e : Entity} (hv : e.Visible) :
    Preserves Coherent (resolve Registry.resolver e) := by
  intro s hs
  have hreach : (s.world.resolve e).2.Reachable := hs.reachable.resolve hv
  have hkeeps : s.world.Keeps (s.world.resolve e).2 := Registry.resolve_keeps s.world e
  simp only [resolve, EStateM.run]
  split
  · exact hs
  · split
    · next m w hres =>
      have hw : s.world.resolve e = (.ok m, w) := hres
      rw [hw] at hreach hkeeps
      have hbound : w.find? e.name = some m := by
        have h := Registry.resolve_answer (r := s.world) (e := e) (m := m) (by rw [hw])
        rwa [hw] at h
      refine ⟨hreach, fun {n m'} hn => ?_⟩
      change ((e.name, m) :: s.cache).lookup n = some m' at hn
      simp only [List.lookup_cons] at hn
      split at hn
      · next heq =>
        cases hn
        rw [(beq_iff_eq.1 heq)]
        exact hbound
      · exact hkeeps.bound (hs.cached hn)
    · next err w hres =>
      have hw : s.world.resolve e = (.error err, w) := hres
      rw [hw] at hreach hkeeps
      exact ⟨hreach, fun hn => hkeeps.bound (hs.cached hn)⟩

/-- A parameter name of a property that a mapping the registry binds holds: "@", the property,
"_" and an ordinal. -/
def ParamOf (r : Registry) (name : String) : Prop :=
  ∃ n m property k, r.find? n = some m ∧ (m.find? property).isSome ∧ name = paramName property k

theorem ParamOf.keeps {r r' : Registry} {name : String} (h : ParamOf r name) (hk : r.Keeps r') :
    ParamOf r' name := by
  obtain ⟨n, m, property, k, hm, hp, rfl⟩ := h
  exact ⟨n, m, property, k, hk.bound hm, hp, rfl⟩

/-- A coherent pass that has appended to the sink it started from only names of properties found
in mappings the registry binds. -/
structure Mints (base : List (String × Value)) (s : Pass Registry) : Prop extends Coherent s where
  minted : ∃ minted, s.params.entries = base ++ minted ∧ ∀ x ∈ minted, ParamOf s.world x.1

theorem Mints.after {base : List (String × Value)} {u t : Pass Registry} (h : Mints base u)
    (ht : Coherent t) (hp : t.params = u.params) (hk : u.world.Keeps t.world) : Mints base t := by
  obtain ⟨minted, hm, hmint⟩ := h.minted
  exact { ht with minted := ⟨minted, by rw [hp, hm], fun x hx => (hmint x hx).keeps hk⟩ }

/-- A walk that passes and binds only after checking columns mints names of properties the
mappings it checked hold. -/
theorem Mints.walk {base : List (String × Value)} {cs : List Check} {s u : Pass Registry}
    {v : PUnit} (hs : Mints base s) (hcf : ColumnsFirst cs) (hu : Coherent u)
    (h : (walk Registry.resolver cs).run s = .ok v u) : Mints base u := by
  obtain ⟨hpar, -⟩ := walk_run_eq_ok h
  have hholds := walk_holds h
  have hk : s.world.Keeps u.world := by
    have hreach := resolvesOnly_walk (r := Registry.resolver) cs s
    rw [h] at hreach
    exact Registry.keeps_of_reaches hreach
  obtain ⟨minted, hm, hmint⟩ := hs.minted
  refine { hu with minted := ⟨minted ++ named s.params.size (cs.filterMap Check.binding),
    by rw [hpar, hm, List.append_assoc], fun x hx => ?_⟩ }
  rcases List.mem_append.1 hx with hx | hx
  · exact (hmint x hx).keeps hk
  · -- a new name: its binding comes after a column check of its property, which held
    obtain ⟨b, hb, i, rfl⟩ := mem_named hx
    obtain ⟨pre, post, hsplit⟩ := List.mem_iff_append.1 (mem_of_mem_bindings hb)
    obtain ⟨e, he⟩ := hcf pre b.1 b.2 post hsplit
    obtain ⟨m, hlook, hfound⟩ := hholds (.column e b.1) (hsplit ▸ List.mem_append_left _ he)
    exact ⟨e.name, m, b.1, i, hu.cached hlook, hfound, rfl⟩

end Render

end PredicateSql
