import PredicateSql.Proofs.Layout
import PredicateSql.Proofs.Denotation
import PredicateSql.Registry

/-! The meaning of rendered statements. The condition a pass writes for a tree takes the truth value
the tree denotes, provided each leaf's reference reaches the entity it names; with two tables of
one name in scope the inner one captures the references to the outer. -/
namespace PredicateSql

theorem Junction.keyword_of_ofKeyword? {s : String} {j : Junction} (h : Junction.ofKeyword? s = some j) :
    j.keyword = s := by
  unfold Junction.ofKeyword? at h
  split at h <;> cases h <;> rfl

namespace Render

open Sql

section Translate

variable (c : List (String × TableMap))

/-- The mapping of an entity name. -/
def mappingOf (x : String) : Option TableMap := c.lookup x

/-- The name of the table the mappings give an entity, or the empty name. -/
def tableName (x : String) : String :=
  match c.lookup x with
  | some m => m.table
  | none => ""

/-- The table the mappings give an entity. -/
def tableRef (e : Entity) : TableRef :=
  match c.lookup e.name with
  | some m => ⟨m.schema, m.table⟩
  | none => ⟨"", ""⟩

/-- The column the mappings give an entity's property, qualified by its table's name. -/
def columnRef (e : Entity) (property : String) : ColumnRef :=
  match c.lookup e.name with
  | some m =>
    match m.find? property with
    | some col => ⟨m.table, col.column⟩
    | none => ⟨"", ""⟩
  | none => ⟨"", ""⟩

/-- A scope of entities bound to rows, innermost first, as a statement sees it: keyed by the
names of the entities' tables. -/
def tableScope {D : Type} (ρ : List (String × Row D)) : List (String × Row D) :=
  ρ.map fun q => (tableName c q.1, q.2)

/-- The operator a stored comparison name is written with, negated or not. -/
def sqlOp (op : String) (negated : Bool) : Op :=
  match Comparison.ofName? op with
  | some cmp => cmp.op negated
  | none => .eq

/-- The condition of a field leaf whose operands bind from ordinal `k` on. -/
def fieldCondition (t : FieldTest) (k : Nat) : Cond :=
  let col := columnRef c t.entity t.property
  match t.operand.classify with
  | .null => .isNull col t.negated
  | .sequence items =>
    .inList col t.negated ((List.range items.length).map fun i => paramName t.property (k + i))
  | .scalar => .compare col (sqlOp t.operator t.negated) (.param (paramName t.property k))

mutual

/-- The condition a tree is written as, its parameters numbered from ordinal `k` on. -/
def condition : Predicate → Nat → Cond
  | .field t, k => fieldCondition c t k
  | .compare t, _ =>
    .compare (columnRef c t.entity t.property) (sqlOp t.operator t.negated)
      (.column (columnRef c t.entity2 t.property2))
  | .group j cs, k => .junction ((Junction.ofKeyword? j).getD .and) (conditions cs k)
  | .existential e inner n, k => .subquery n (tableRef c e) (condition inner k)
  | .ref t, k => condition t k
  | _, _ => .junction .and []

/-- The conditions of the children of a group, each numbered on from the operands before it. -/
def conditions : List Predicate → Nat → List Cond
  | [], _ => []
  | p :: ps, k => condition p k :: conditions ps (k + p.operands.length)

end

end Translate

section Text

variable {c : List (String × TableMap)}

theorem column_ofCache {e : Entity} {property : String}
    (h : (Check.column e property).Holds c) :
    (Written.ofCache c).column e property = (columnRef c e property).text := by
  obtain ⟨m,hm,hp⟩ := h
  obtain ⟨col,hcol⟩ := Option.isSome_iff_exists.1 hp
  simp [Written.ofCache, columnRef, hm, hcol, columnText, ColumnRef.text]

theorem table_ofCache {e : Entity} (h : (Check.resolve e).Holds c) :
    (Written.ofCache c).table e = (tableRef c e).text := by
  obtain ⟨m,hm⟩ := h
  simp [Written.ofCache, tableRef, hm, tableText, TableRef.text]

theorem opToken_eq_text {op : String} (negated : Bool) (h : Comparison.isValid op = true) :
    opToken op negated = (sqlOp op negated).text := by
  obtain ⟨cmp,hc⟩ := Option.isSome_iff_exists.1 h
  simp [opToken, sqlOp, hc]

theorem concat_fieldLayout {t : FieldTest} (k : Nat) (h : ∀ ch ∈ fieldChecks t, ch.Holds c) :
    Piece.concat (fieldLayout (Written.ofCache c) t k) = (fieldCondition c t k).text := by
  obtain ⟨hcol,hop⟩ := holds_fieldChecks h
  have hc := column_ofCache hcol
  unfold fieldLayout fieldCondition
  cases hcl : t.operand.classify with
  | null => simp [hc, Cond.text, Piece.text]
  | sequence items =>
    simp [hc, Cond.text, Piece.text, Piece.concat_intercalate, Function.comp_def, String.append_assoc]
  | scalar =>
    simp [hc, opToken_eq_text _ (hop hcl), Cond.text, Term.text, Piece.text, String.append_assoc]

mutual

theorem concat_layout :
    ∀ (p : Predicate) (k : Nat), (∀ ch ∈ checks p, ch.Holds c) →
      Piece.concat (layout (Written.ofCache c) p k) = (condition c p k).text
  | .field t, k, h => concat_fieldLayout k h
  | .compare t, _, h => by
    obtain ⟨h1,h2,hop⟩ := holds_checks_compare h
    simp [layout, condition, column_ofCache h1, column_ofCache h2, opToken_eq_text _ hop, Cond.text,
      Term.text, Piece.text, String.append_assoc]
  | .group j cs, k, h => by
    obtain ⟨hj,hcs⟩ := holds_checks_group h
    obtain ⟨J,hJ⟩ := Option.isSome_iff_exists.1 hj
    simp [layout, condition, hJ, Junction.keyword_of_ofKeyword? hJ, Cond.text,
      Piece.concat_intercalate, concat_layoutChildren cs k hcs, Piece.text, String.append_assoc]
  | .existential e inner n, k, h => by
    obtain ⟨he,hi⟩ := holds_checks_existential h
    simp [layout, condition, table_ofCache he, concat_layout inner k hi, Cond.text, Piece.text,
      String.append_assoc]
  | .ref t, k, h => by
    obtain ⟨hn,ht⟩ := holds_checks_ref h
    simp only [layout, condition, hn, if_true]
    exact concat_layout t k ht
  -- a pass refuses these outright: their one check fails
  | .absent, _, h | .nullRef _, _, h | .foreign _, _, h =>
    absurd (h _ (List.mem_singleton_self _)) Bool.false_ne_true

theorem concat_layoutChildren :
    ∀ (cs : List Predicate) (k : Nat), (∀ ch ∈ childChecks cs, ch.Holds c) →
      (layoutChildren (Written.ofCache c) cs k).map Piece.concat = Cond.texts (conditions c cs k)
  | [], _, _ => rfl
  | p :: cs, k, h => by
    obtain ⟨hp,hcs⟩ := holds_childChecks_cons h
    simp only [layoutChildren, conditions, List.map_cons, Cond.texts]
    rw [concat_layout p k hp, concat_layoutChildren cs _ hcs]

end

end Text

section Eval

variable {D : Type} (db : Database D) (dom : Domain D) (conv : Value → Option D)
  (arg : String → Option D) {c : List (String × TableMap)}

theorem compareCells_op (cmp : Comparison) (negated : Bool) (a b : Option D) :
    compareCells dom (cmp.op negated) a b = Truth.negateIf negated (compareCells dom (cmp.op false) a b) := by
  cases negated
  · rfl
  · cases a <;> cases b <;> simp [compareCells, Comparison.holds_op_true] <;> rfl

/-- A column reference of a leaf reads the cell of its entity's property, once its reference
reaches the entity. -/
theorem cell_columnRef {ρ : List (String × Row D)} {e : Entity} {property : String}
    (h : (Check.column e property).Holds c) (hr : reaches (tableName c) (ρ.map Prod.fst) e.name = true) :
    (columnRef c e property).cell (tableScope c ρ) = Predicate.cellOf (mappingOf c) ρ e property := by
  obtain ⟨m,hm,hp⟩ := h
  obtain ⟨col,hcol⟩ := Option.isSome_iff_exists.1 hp
  have hname : tableName c e.name = m.table := by simp [tableName, hm]
  have hlook := lookup_tableName_of_reaches (tableName c) hr
  rw [hname] at hlook
  simp only [columnRef, hm, hcol, ColumnRef.cell, tableScope, hlook, Predicate.cellOf, mappingOf]
  cases ρ.lookup e.name <;> simp [hcol]

theorem compareCells_sqlOp {op : String} (negated : Bool) (a b : Option D)
    (h : Comparison.isValid op = true) :
    compareCells dom (sqlOp op negated) a b = Truth.negateIf negated (Predicate.test dom op a b) := by
  obtain ⟨cmp,hc⟩ := Option.isSome_iff_exists.1 h
  simp only [sqlOp, Predicate.test, hc]
  exact compareCells_op dom cmp negated a b

theorem eval_fieldCondition {t : FieldTest} {k : Nat} {ρ : List (String × Row D)}
    (h : ∀ ch ∈ fieldChecks t, ch.Holds c)
    (hr : reaches (tableName c) (ρ.map Prod.fst) t.entity.name = true)
    (ha : ∀ b ∈ named k t.operands, arg b.1 = conv b.2) :
    (fieldCondition c t k).eval db dom arg (tableScope c ρ) =
      (Predicate.field t).denote db dom conv (mappingOf c) ρ := by
  obtain ⟨hcol,hop⟩ := holds_fieldChecks h
  have hcell := cell_columnRef hcol hr
  unfold fieldCondition
  unfold FieldTest.operands at ha
  cases hcl : t.operand.classify with
  | null => simp [Cond.eval, Predicate.denote, hcl, hcell]
  | sequence items =>
    simp only [hcl] at ha
    have hargs : ∀ i (hi : i < items.length), arg (paramName t.property (k + i)) = conv items[i] := by
      intro i hi
      have hi' : i < (named k (items.map (t.property, ·))).length := by simpa [length_named] using hi
      simpa [named] using ha _ (List.getElem_mem hi')
    have hlist : ((List.range items.length).map fun i => paramName t.property (k + i)).map
        (fun p => compareCells dom .eq (Predicate.cellOf (mappingOf c) ρ t.entity t.property) (arg p)) =
        items.map fun x => compareCells dom .eq (Predicate.cellOf (mappingOf c) ρ t.entity t.property) (conv x) := by
      apply List.ext_getElem (by simp)
      intro i h1 h2
      simp [hargs i (by simpa using h2)]
    simp [Cond.eval, Predicate.denote, hcl, hcell, hlist]
  | scalar =>
    have harg : arg (paramName t.property k) = conv t.operand := by simpa [hcl] using ha
    simp only [Cond.eval, Term.value, Predicate.denote, hcl, hcell, harg]
    exact compareCells_sqlOp dom t.negated _ _ (hop hcl)

mutual

/-- The condition of a tree whose checks hold of the mappings takes, in a scope of entities bound to
rows, the value the tree denotes there, provided each leaf's reference reaches its entity and each
parameter holds its operand's value. -/
theorem eval_condition :
    ∀ (p : Predicate) (k : Nat) (ρ : List (String × Row D)), (∀ ch ∈ checks p, ch.Holds c) →
      p.refsAll (reaches (tableName c)) (ρ.map Prod.fst) = true →
      (∀ b ∈ named k p.operands, arg b.1 = conv b.2) →
      (condition c p k).eval db dom arg (tableScope c ρ) = p.denote db dom conv (mappingOf c) ρ
  | .field _, _, _, h, hu, ha => eval_fieldCondition db dom conv arg h hu ha
  | .compare t, _, ρ, h, hu, _ => by
    obtain ⟨h1,h2,hop⟩ := holds_checks_compare h
    simp only [Predicate.refsAll, Bool.and_eq_true] at hu
    simp only [condition, Cond.eval, Term.value, Predicate.denote, cell_columnRef h1 hu.1,
      cell_columnRef h2 hu.2]
    exact compareCells_sqlOp dom t.negated _ _ hop
  | .group j cs, k, ρ, h, hu, ha => by
    obtain ⟨hj,hcs⟩ := holds_checks_group h
    obtain ⟨J,hJ⟩ := Option.isSome_iff_exists.1 hj
    simp [condition, Cond.eval, Predicate.denote, hJ, evals_conditions cs k ρ hcs hu ha]
  | .existential e inner n, k, ρ, h, hu, ha => by
    obtain ⟨⟨m,hm⟩,hi⟩ := holds_checks_existential h
    -- the sub-query binds the entity's table to each row in turn, innermost
    have hrow : ∀ row, (condition c inner k).eval db dom arg ((m.table, row) :: tableScope c ρ) =
        inner.denote db dom conv (mappingOf c) ((e.name, row) :: ρ) := by
      intro row
      have hrow := eval_condition inner k ((e.name, row) :: ρ) hi hu ha
      simpa [tableScope, tableName, hm] using hrow
    simp [condition, Cond.eval, Predicate.denote, tableRef, Predicate.rowsOf, mappingOf, hm, hrow]
  | .ref t, k, ρ, h, hu, ha => by
    obtain ⟨hn,ht⟩ := holds_checks_ref h
    simp only [Predicate.operands, hn, if_true] at ha
    simp only [condition, Predicate.denote]
    exact eval_condition t k ρ ht hu ha
  | .absent, _, _, h, _, _ | .nullRef _, _, _, h, _, _ | .foreign _, _, _, h, _, _ =>
    absurd (h _ (List.mem_singleton_self _)) Bool.false_ne_true

theorem evals_conditions :
    ∀ (cs : List Predicate) (k : Nat) (ρ : List (String × Row D)), (∀ ch ∈ childChecks cs, ch.Holds c) →
      Predicate.refsAllChildren (reaches (tableName c)) (ρ.map Prod.fst) cs = true →
      (∀ b ∈ named k (Predicate.childOperands cs), arg b.1 = conv b.2) →
      Cond.evals db dom arg (tableScope c ρ) (conditions c cs k) =
        Predicate.denoteAll db dom conv (mappingOf c) ρ cs
  | [], _, _, _, _, _ => rfl
  | p :: cs, k, ρ, h, hu, ha => by
    obtain ⟨hp,hcs⟩ := holds_childChecks_cons h
    simp only [Predicate.refsAllChildren, Bool.and_eq_true] at hu
    rw [Predicate.childOperands, named_append] at ha
    simp only [conditions, Cond.evals, Predicate.denoteAll]
    rw [eval_condition p k ρ hp hu.1 fun b hb => ha b (List.mem_append_left _ hb),
      evals_conditions cs _ ρ hcs hu.2 fun b hb => ha b (List.mem_append_right _ hb)]

end

end Eval

section Statement

variable {σ : Type} {r : Resolver σ}

theorem whereClause_run_eq_ok {p : Predicate} {s t : Pass σ} {w : String}
    (h : (whereClause r p).run s = .ok w t) :
    (p = .absent ∧ w = "" ∧ t = s) ∨
      ∃ ptext, p.isAbsent = false ∧ (predicate r p).run s = .ok ptext t ∧ w = " WHERE " ++ ptext := by
  unfold whereClause at h
  cases p with
  | absent =>
    cases h
    exact .inl ⟨rfl, rfl, rfl⟩
  | _ =>
    simp only [Predicate.isAbsent, Bool.false_eq_true, if_false] at h
    obtain ⟨ptext,t',hp,hw⟩ := bind_run_eq_ok.1 h
    cases hw
    exact .inr ⟨ptext, rfl, hp, rfl⟩

theorem mapM_run_eq_ok_of_keeps {α β : Type} {f : α → RenderM σ β}
    (hf : ∀ a s b t, (f a).run s = .ok b t → t = s) :
    ∀ {xs : List α} {s t : Pass σ} {ys : List β}, (xs.mapM f).run s = .ok ys t → t = s
  | [], _, _, _, h => by
    cases h
    rfl
  | x :: xs, s, t, ys, h => by
    rw [List.mapM_cons] at h
    obtain ⟨y,t1,hx,h⟩ := bind_run_eq_ok.1 h
    obtain ⟨ys',t2,hxs,hp⟩ := bind_run_eq_ok.1 h
    cases hp
    rw [mapM_run_eq_ok_of_keeps hf hxs, hf x s y t1 hx]

theorem liftExcept_run_eq_ok {α : Type} {x : Except Error α} {s t : Pass σ} {a : α}
    (h : (propertyColumn.liftExcept x).run s = .ok a t) : t = s := by
  cases x with
  | error e => cases h
  | ok b =>
    cases h
    rfl

theorem orderBy_run_eq_ok {e : Entity} {sorts : List SortTerm} {s t : Pass σ} {o : String}
    (h : (orderBy r e sorts).run s = .ok o t) : t.params = s.params ∧ Extends s.cache t.cache := by
  unfold orderBy at h
  obtain ⟨m,t1,hm,h⟩ := bind_run_eq_ok.1 h
  obtain ⟨parts,t2,hparts,hp⟩ := bind_run_eq_ok.1 h
  cases hp
  have hkeep : t = t1 := by
    refine mapM_run_eq_ok_of_keeps (fun st s' b t' hst => ?_) hparts
    obtain ⟨col,t3,hcol,hp⟩ := bind_run_eq_ok.1 hst
    exact (EStateM.Result.ok.inj hp).2.symm.trans (liftExcept_run_eq_ok hcol)
  subst hkeep
  obtain ⟨hpar,hext,-⟩ := resolve_run_eq_ok hm
  exact ⟨hpar, hext⟩

theorem statement_run_eq_ok {e : Entity} {p : Predicate} {sorts : List SortTerm} {s t : Pass σ}
    {text : String}
    (h : (select r e p sorts).run s = .ok text t ∨ (count r e p).run s = .ok text t) :
    ∃ m u v w head tail, (resolve r e).run s = .ok m u ∧ (whereClause r p).run u = .ok w v ∧
      t.params = v.params ∧ Extends v.cache t.cache ∧
      text = head ++ " FROM " ++ tableText m ++ w ++ tail := by
  rcases h with h | h
  · unfold select at h
    obtain ⟨m,u,hm,h⟩ := bind_run_eq_ok.1 h
    obtain ⟨w,v,hw,h⟩ := bind_run_eq_ok.1 h
    cases hs : sorts.isEmpty
    · -- an ORDER BY clause follows, which keeps the sink
      simp only [hs, Bool.false_eq_true, if_false, pure_bind] at h
      obtain ⟨o,t1,ho,hp⟩ := bind_run_eq_ok.1 h
      cases hp
      obtain ⟨hpar,hext⟩ := orderBy_run_eq_ok ho
      exact ⟨m, u, v, w, "SELECT " ++ selectList m, " ORDER BY " ++ o, hm, hw, hpar, hext, by
        simp [String.append_assoc]⟩
    · simp only [hs, if_true, pure_bind] at h
      cases h
      exact ⟨m, u, t, w, "SELECT " ++ selectList m, "", hm, hw, rfl, Extends.refl _, by
        simp [String.append_assoc]⟩
  · unfold count at h
    obtain ⟨m,u,hm,h⟩ := bind_run_eq_ok.1 h
    obtain ⟨w,v,hw,hp⟩ := bind_run_eq_ok.1 h
    cases hp
    exact ⟨m, u, t, w, "SELECT COUNT(*) AS [Total]", "", hm, hw, rfl, Extends.refl _, by simp⟩

/-- A tree rendered successfully is written as its condition, under mappings that extend those
the pass resolved, the condition passes all its checks there, and the sink holds each operand under
the name of its parameter. -/
theorem predicate_run_condition {p : Predicate} {s t : Pass σ} {text : String}
    {c : List (String × TableMap)} (h : (predicate r p).run s = .ok text t) (hc : Extends t.cache c) :
    text = (condition c p s.params.size).text ∧ (∀ ch ∈ checks p, ch.Holds c) ∧
      ∀ b ∈ named s.params.size p.operands, t.params.get? b.1 = some b.2 := by
  have hw := walk_of_predicate_run_eq_ok h
  have hholds : ∀ ch ∈ checks p, ch.Holds c := fun ch hch => (walk_holds hw ch hch).mono hc
  refine ⟨?_, hholds, ?_⟩
  · rw [predicate_text r p h hc, concat_layout p _ hholds]
  · rw [← checks_bindings p]
    exact walk_get? hw

end Statement

section Meaning

variable {σ D : Type} (db : Database D) (dom : Domain D) (conv : Value → Option D)

/-- A select or a count that succeeds is the text of a query over its entity's table whose
condition is that of its tree. As long as each leaf's reference reaches the entity it names, the
query reads exactly the rows of the table on which the tree is true, each parameter standing for
the value the sink binds to its name. -/
theorem statement_reads_denoted_rows {r : Resolver σ} {e : Entity} {p : Predicate}
    {sorts : List SortTerm} {s t : Pass σ} {text : String}
    (hrun : (select r e p sorts).run s = .ok text t ∨ (count r e p).run s = .ok text t)
    (hp : p.Unshadowed (tableName t.cache) [e.name] = true) :
    ∃ (m : TableMap) (q : Query), t.cache.lookup e.name = some m ∧ q.source = ⟨m.schema, m.table⟩ ∧
      q.filter = (if p.isAbsent then none else some (condition t.cache p s.params.size)) ∧
      text = q.text ∧
      q.rows db dom (fun n => (t.params.get? n).bind conv) =
        (db.rows ⟨m.schema, m.table⟩).filter fun row =>
          p.denote db dom conv (mappingOf t.cache) [(e.name, row)] == .true := by
  obtain ⟨m,u,v,w,head,tail,hm,hw,hpar,hext,rfl⟩ := statement_run_eq_ok hrun
  obtain ⟨hupar,-,hlook⟩ := resolve_run_eq_ok hm
  rcases whereClause_run_eq_ok hw with ⟨rfl,rfl,rfl⟩ | ⟨ptext,hne,hpred,rfl⟩
  · -- no tree: no WHERE clause, and every row
    refine ⟨m, ⟨head, ⟨m.schema, m.table⟩, none, tail⟩, hext _ _ hlook, rfl, rfl, ?_, ?_⟩
    · simp [Query.text, TableRef.text, tableText]
    · simp [Query.rows, Predicate.denote]
  · obtain ⟨htext,hholds,hget⟩ := predicate_run_condition hpred hext
    have hm' : t.cache.lookup e.name = some m := hext _ _ ((predicate_run_eq_ok hpred).2 _ _ hlook)
    have hname : tableName t.cache e.name = m.table := by simp [tableName, hm']
    refine ⟨m, ⟨head, ⟨m.schema, m.table⟩, some (condition t.cache p s.params.size), tail⟩, hm',
      rfl, by simp [hne], ?_, ?_⟩
    · simp [Query.text, htext, hupar, TableRef.text, tableText, String.append_assoc]
    · -- row by row, the condition takes the value the tree denotes
      apply List.filter_congr
      intro row _
      have heval := eval_condition db dom conv (fun n => (t.params.get? n).bind conv) p
        s.params.size [(e.name, row)] hholds
        (by simpa [Predicate.Unshadowed] using hp)
        (fun b hb => by simp [hpar, hget b (hupar ▸ hb)])
      simp only [tableScope, List.map_cons, List.map_nil, hname] at heval
      simp [heval]

set_option maxRecDepth 2000 in
theorem statement_reads_rows_of_inner_reference :
    let sales : TableMap :=
      ⟨.named "sales.orders", "sales", "orders", [⟨"customer_id", "customer_id", .identity, false⟩]⟩
    let archive : TableMap :=
      ⟨.named "archive.orders", "archive", "orders", [⟨"customer_id", "customer_id", .identity, false⟩]⟩
    let reg : Registry := { maps := [("archive.orders", archive), ("sales.orders", sales)] }
    let e := Entity.named "sales.orders"
    let p : Predicate := .existential (.named "archive.orders")
      (.field ⟨.named "archive.orders", "customer_id", "eq", .int .int 6, false⟩) false
    let sorts : List SortTerm := [⟨"customer_id", true⟩]
    let s : Pass Registry := ⟨reg, {}, []⟩
    let text := "SELECT [orders].[customer_id] FROM [sales].[orders] WHERE (EXISTS (SELECT 1 FROM " ++
      "[archive].[orders] WHERE ([orders].[customer_id] = @customer_id_0))) ORDER BY " ++
      "[orders].[customer_id] ASC"
    let t : Pass Registry :=
      ⟨reg, ⟨[("@customer_id_0", .int .int 6)]⟩, [("archive.orders", archive), ("sales.orders", sales)]⟩
    let db : Database Int := ⟨fun src =>
      if src.schema = "sales" then [⟨fun _ => some 5⟩]
      else if src.schema = "archive" then [⟨fun _ => some 6⟩] else []⟩
    let dom : Domain Int := ⟨Ord.compare, fun _ _ => false⟩
    let conv : Value → Option Int := fun v => match v with | .int _ n => some n | _ => none
    (select Registry.resolver e p sorts).run s = .ok text t ∧
      p.Unshadowed (tableName t.cache) [e.name] = true ∧
      ∃ (m : TableMap) (q : Query), t.cache.lookup e.name = some m ∧ q.source = ⟨m.schema, m.table⟩ ∧
        q.filter = (if p.isAbsent then none else some (condition t.cache p s.params.size)) ∧
        text = q.text ∧
        q.rows db dom (fun n => (t.params.get? n).bind conv) =
          (db.rows ⟨m.schema, m.table⟩).filter fun row =>
            p.denote db dom conv (mappingOf t.cache) [(e.name, row)] == .true := by
  intro sales archive reg e p sorts s text t db dom conv
  have h : (select Registry.resolver e p sorts).run s = .ok text t := by
    simp only [sales, archive, reg, e, p, sorts, s, text, t]
    rfl
  have hp : p.Unshadowed (tableName t.cache) [e.name] = true := rfl
  exact ⟨h, hp, statement_reads_denoted_rows db dom conv (.inl h) hp⟩

/-- Two tables named alike, in two schemas: a leaf under an existential node over the archive
table that refers to the outer sales table reads the archive row instead. The tree holds of the one
sales row, yet the count reads no row. -/
theorem outer_reference_captured_by_inner_table :
    let sales : TableMap :=
      ⟨.named "sales.orders", "sales", "orders", [⟨"customer_id", "customer_id", .identity, false⟩]⟩
    let archive : TableMap :=
      ⟨.named "archive.orders", "archive", "orders", [⟨"customer_id", "customer_id", .identity, false⟩]⟩
    let reg : Registry := { maps := [("archive.orders", archive), ("sales.orders", sales)] }
    let e := Entity.named "sales.orders"
    let p : Predicate := .existential (.named "archive.orders")
      (.field ⟨e, "customer_id", "eq", .int .int 5, false⟩) false
    let text := "SELECT COUNT(*) AS [Total] FROM [sales].[orders] WHERE (EXISTS (SELECT 1 FROM " ++
      "[archive].[orders] WHERE ([orders].[customer_id] = @customer_id_0)))"
    let t : Pass Registry :=
      ⟨reg, ⟨[("@customer_id_0", .int .int 5)]⟩, [("archive.orders", archive), ("sales.orders", sales)]⟩
    let db : Database Int := ⟨fun src =>
      if src.schema = "sales" then [⟨fun _ => some 5⟩]
      else if src.schema = "archive" then [⟨fun _ => some 6⟩] else []⟩
    let dom : Domain Int := ⟨Ord.compare, fun _ _ => false⟩
    let conv : Value → Option Int := fun v => match v with | .int _ n => some n | _ => none
    (count Registry.resolver e p).run ⟨reg, {}, []⟩ = .ok text t ∧ p.Scoped [e.name] = true ∧
      ¬ ∃ (m : TableMap) (q : Query), t.cache.lookup e.name = some m ∧ q.source = ⟨m.schema, m.table⟩ ∧
        q.filter = (if p.isAbsent then none else some (condition t.cache p 0)) ∧ text = q.text ∧
        q.rows db dom (fun n => (t.params.get? n).bind conv) =
          (db.rows ⟨m.schema, m.table⟩).filter fun row =>
            p.denote db dom conv (mappingOf t.cache) [(e.name, row)] == .true := by
  intro sales archive reg e p text t db dom conv
  refine ⟨by simp only [sales, archive, reg, e, p, text, t]; rfl, rfl, ?_⟩
  rintro ⟨m, ⟨head, src, filt, tail⟩, hm, hsrc, hfilt, -, hrows⟩
  have hlook : t.cache.lookup e.name = some sales := rfl
  obtain rfl : m = sales := Option.some.inj (hm.symm.trans hlook)
  simp only at hsrc hfilt
  subst hsrc hfilt
  -- the statement reads no row, while the tree holds of the one sales row
  have hlen := congrArg List.length hrows
  simp only [Query.rows] at hlen
  revert hlen
  decide

end Meaning

end Render

end PredicateSql
