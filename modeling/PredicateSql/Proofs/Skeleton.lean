import PredicateSql.Proofs.Walk

/-! Trees up to the values of their operands. The skeleton of a tree keeps every operand in its
class (NULL, a sequence of so many elements, a scalar) and forgets the values. A pass reads an
operand only through its class, so two trees of one skeleton make the same checks but for the
values they bind, and from one state they end alike. -/
namespace PredicateSql

/-- A value of the class of an operand, its values forgotten: NULL, a sequence of as many NULLs,
or the scalar `false`. -/
def Value.skeleton (v : Value) : Value :=
  match v.classify with
  | .null => .null
  | .sequence items => .list .dynamic (items.map fun _ => .null)
  | .scalar => .bool false

mutual

/-- A tree with the values of its operands forgotten. -/
def Predicate.skeleton : Predicate → Predicate
  | .field t => .field { t with operand := t.operand.skeleton }
  | .group j cs => .group j (Predicate.childSkeletons cs)
  | .existential e inner n => .existential e inner.skeleton n
  | .ref t => .ref t.skeleton
  | p => p

/-- The skeletons of the children of a group. -/
def Predicate.childSkeletons : List Predicate → List Predicate
  | [] => []
  | c :: cs => c.skeleton :: Predicate.childSkeletons cs

end

/-- The class of an operand, the elements of a sequence forgotten. -/
def Operand.skeleton : Operand → Operand
  | .sequence items => .sequence (items.map fun _ => .null)
  | o => o

@[simp] theorem Value.classify_skeleton (v : Value) : v.skeleton.classify = v.classify.skeleton := by
  unfold Value.skeleton
  cases v.classify <;> rfl

theorem FieldTest.length_operands_skeleton (t : FieldTest) :
    ({ t with operand := t.operand.skeleton } : FieldTest).operands.length = t.operands.length := by
  simp only [FieldTest.operands, Value.classify_skeleton]
  cases t.operand.classify <;> simp [Operand.skeleton]

namespace Predicate

@[simp] theorem typeName_skeleton : ∀ p : Predicate, p.skeleton.typeName = p.typeName
  | .ref t => by simp [skeleton, typeName, typeName_skeleton t]
  | .absent | .field _ | .compare _ | .group .. | .existential .. | .nullRef _ | .foreign _ => rfl

@[simp] theorem isNode_skeleton (p : Predicate) : p.skeleton.isNode = p.isNode := by
  cases p <;> rfl

@[simp] theorem isAbsent_skeleton (p : Predicate) : p.skeleton.isAbsent = p.isAbsent := by
  cases p <;> rfl

mutual

theorem length_operands_skeleton : ∀ p : Predicate, p.skeleton.operands.length = p.operands.length
  | .field t => FieldTest.length_operands_skeleton t
  | .group j cs => by
    simp [skeleton, operands, length_childOperands_skeleton cs]
  | .existential e inner n => by
    simp [skeleton, operands, length_operands_skeleton inner]
  | .ref t => by
    by_cases hn : t.isNode <;> simp [skeleton, operands, hn, length_operands_skeleton t]
  | .absent | .compare _ | .nullRef _ | .foreign _ => rfl

theorem length_childOperands_skeleton : ∀ cs : List Predicate,
    (childOperands (childSkeletons cs)).length = (childOperands cs).length
  | [] => rfl
  | c :: cs => by
    simp [childSkeletons, childOperands, length_operands_skeleton c,
      length_childOperands_skeleton cs]

end

end Predicate

namespace Render

variable {σ : Type} {r : Resolver σ}

/-- A check with the value it binds forgotten. -/
def Check.forget : Check → Check
  | .bind property _ => .bind property .null
  | c => c

theorem fieldChecks_skeleton (t : FieldTest) :
    (fieldChecks { t with operand := t.operand.skeleton }).map Check.forget =
      (fieldChecks t).map Check.forget := by
  simp only [fieldChecks, Value.classify_skeleton]
  cases t.operand.classify <;>
    simp only [Operand.skeleton, List.map_cons, List.map_map, List.isEmpty_map, Check.forget,
      Function.comp_def]

mutual

/-- A tree and its skeleton make the same checks but for the values they bind. -/
theorem checks_skeleton : ∀ p : Predicate,
    (checks p.skeleton).map Check.forget = (checks p).map Check.forget
  | .field t => fieldChecks_skeleton t
  | .group j cs => by
    have h := childChecks_skeleton cs
    simp only [Predicate.skeleton, checks, List.map_cons, h]
    cases cs <;> rfl
  | .existential e inner n => by
    simp [Predicate.skeleton, checks, checks_skeleton inner]
  | .ref t => by
    by_cases hn : t.isNode
    · simp [Predicate.skeleton, checks, hn, checks_skeleton t]
    · simp [Predicate.skeleton, checks, hn]
  | .absent | .compare _ | .nullRef _ | .foreign _ => rfl

theorem childChecks_skeleton : ∀ cs : List Predicate,
    (childChecks (Predicate.childSkeletons cs)).map Check.forget = (childChecks cs).map Check.forget
  | [] => rfl
  | c :: cs => by
    simp only [Predicate.childSkeletons, childChecks, List.map_append, checks_skeleton c,
      childChecks_skeleton cs]

end

/-! ### Passes alike but for the values bound -/

/-- Two pass states alike but for the values bound in their sinks. -/
structure Alike (s s' : Pass σ) : Prop where
  world : s.world = s'.world
  names : s.params.names = s'.params.names
  cache : s.cache = s'.cache

/-- Two results alike: both succeed with one value, or both fail with one error, in alike states. -/
def ResultAlike {α : Type} : EStateM.Result Error (Pass σ) α → EStateM.Result Error (Pass σ) α → Prop
  | .ok a t, .ok a' t' => a = a' ∧ Alike t t'
  | .error e t, .error e' t' => e = e' ∧ Alike t t'
  | _, _ => False

theorem ResultAlike.bind {α β : Type} {x x' : RenderM σ α} {f f' : α → RenderM σ β}
    {s s' : Pass σ} (hx : ResultAlike (x.run s) (x'.run s'))
    (hf : ∀ a {t t' : Pass σ}, Alike t t' → ResultAlike ((f a).run t) ((f' a).run t')) :
    ResultAlike ((x >>= f).run s) ((x' >>= f').run s') := by
  simp only [EStateM.run_bind]
  revert hx
  cases x.run s <;> cases x'.run s' <;> simp only [ResultAlike, false_implies]
  · rintro ⟨rfl, ht⟩
    exact hf _ ht
  · rintro ⟨rfl, ht⟩
    exact ⟨rfl, ht⟩

theorem resolve_alike {s s' : Pass σ} (h : Alike s s') (e : Entity) :
    ResultAlike ((resolve r e).run s) ((resolve r e).run s') := by
  obtain ⟨w, ps, c⟩ := s
  obtain ⟨w', ps', c'⟩ := s'
  obtain ⟨hw, hn, hc⟩ := h
  dsimp only at hw hn hc
  subst hw hc
  simp only [resolve, EStateM.run]
  split
  · exact ⟨rfl, rfl, hn, rfl⟩
  · cases r.resolve e w with
    | mk res w'' => cases res <;> exact ⟨rfl, rfl, hn, rfl⟩

theorem bind_alike {s s' : Pass σ} (h : Alike s s') (property : String) (v v' : Value) :
    ResultAlike ((bind property v).run s) ((bind property v').run s') := by
  have hsize : s.params.size = s'.params.size := by
    simpa [Params.size, Params.names] using congrArg List.length h.names
  have hcontains : ∀ n, s.params.contains n = s'.params.contains n := by
    simp [Params.contains, h.names]
  simp only [bind, EStateM.run, hsize, hcontains]
  split
  · exact ⟨rfl, h⟩
  · exact ⟨rfl, h.world, by simp [h.names, hcontains], h.cache⟩

theorem Check.run_alike {c c' : Check} (hc : c.forget = c'.forget) {s s' : Pass σ}
    (h : Alike s s') : ResultAlike ((c.run r).run s) ((c'.run r).run s') := by
  have hpure : ∀ {t t' : Pass σ}, Alike t t' →
      ResultAlike ((pure ⟨⟩ : RenderM σ PUnit).run t) ((pure ⟨⟩ : RenderM σ PUnit).run t') :=
    fun ht => ⟨rfl, ht⟩
  cases c <;> cases c' <;> simp only [Check.forget, reduceCtorEq, Check.guard.injEq,
    Check.resolve.injEq, Check.column.injEq, Check.bind.injEq, and_true] at hc
  case guard.guard holds err _ _ =>
    obtain ⟨rfl, rfl⟩ := hc
    cases holds
    · exact ⟨rfl, h⟩
    · exact ⟨rfl, h⟩
  case resolve.resolve e _ =>
    subst hc
    exact ResultAlike.bind (resolve_alike h e) fun _ _ _ ht => hpure ht
  case column.column e property _ _ =>
    obtain ⟨rfl, rfl⟩ := hc
    refine ResultAlike.bind (resolve_alike h e) fun m t t' ht => ?_
    by_cases hf : (m.find? property).isNone
    · simp only [hf, if_true]
      exact ⟨rfl, ht⟩
    · simp only [hf]
      exact hpure ht
  case bind.bind property v _ v' =>
    subst hc
    exact ResultAlike.bind (bind_alike h property v v') fun _ _ _ ht => hpure ht

/-- Walks of checks alike but for the values they bind end alike from alike states. -/
theorem walk_alike : ∀ {cs ds : List Check}, cs.map Check.forget = ds.map Check.forget →
    ∀ {s s' : Pass σ}, Alike s s' → ResultAlike ((walk r cs).run s) ((walk r ds).run s')
  | [], [], _, _, _, h => ⟨rfl, h⟩
  | c :: cs, d :: ds, hcd, _, _, h => by
    simp only [List.map_cons, List.cons.injEq] at hcd
    rw [walk_cons, walk_cons]
    exact ResultAlike.bind (Check.run_alike hcd.1 h) fun _ _ _ ht => walk_alike hcd.2 ht
  | [], _ :: _, hcd, _, _, _ | _ :: _, [], hcd, _, _, _ => by simp at hcd

/-- Two trees of one skeleton, rendered from one state, both fail with one error or both succeed,
and they end alike. -/
theorem predicate_alike {p q : Predicate} (hq : q.skeleton = p.skeleton) (s : Pass σ) :
    ResultAlike ((walk r (checks p)).run s) ((walk r (checks q)).run s) := by
  have hchecks : (checks p).map Check.forget = (checks q).map Check.forget := by
    rw [← checks_skeleton p, ← checks_skeleton q, hq]
  exact walk_alike hchecks ⟨rfl, rfl, rfl⟩

end Render

end PredicateSql
