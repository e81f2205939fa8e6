import PredicateSql.Proofs.Skeleton

/-! The text of a rendered tree, in the grammar of `layout`: a leaf is one parenthesized comparison, a
group joins its children by its junction, and an existential node wraps a correlated sub-query,
with parameters numbered from the ordinal the pass starts at. -/
namespace PredicateSql.Render

variable {σ : Type}

/-- A piece of statement text: written SQL, or the name of a parameter. -/
inductive Piece where
  | sql (text : String)
  | param (name : String)
  deriving DecidableEq, Repr

namespace Piece

/-- The text of a piece. -/
def text : Piece → String
  | sql t => t
  | param n => n

/-- The name a piece holds, when it is a parameter. -/
def name? : Piece → Option String
  | sql _ => none
  | param n => some n

/-- The text of pieces, one after another. -/
def concat (ps : List Piece) : String := String.join (ps.map text)

/-- The parameter names among pieces, in order. -/
def params (ps : List Piece) : List String := ps.filterMap name?

@[simp] theorem concat_nil : concat [] = "" := rfl

@[simp] theorem concat_cons (p : Piece) (ps : List Piece) :
    concat (p :: ps) = p.text ++ concat ps := by
  simp [concat, String.join_cons]

@[simp] theorem concat_append (ps qs : List Piece) : concat (ps ++ qs) = concat ps ++ concat qs := by
  simp [concat, String.join_append]

@[simp] theorem params_nil : params [] = [] := rfl

@[simp] theorem params_append (ps qs : List Piece) : params (ps ++ qs) = params ps ++ params qs := by
  simp [params, List.filterMap_append]

@[simp] theorem params_cons (p : Piece) (ps : List Piece) :
    params (p :: ps) = p.name?.toList ++ params ps := by
  cases p <;> simp [params, name?, List.filterMap_cons]

theorem concat_intercalate (sep : String) :
    ∀ L : List (List Piece), concat ([sql sep].intercalate L) = sep.intercalate (L.map concat)
  | [] => rfl
  | [l] => by simp [List.intercalate_singleton, String.intercalate_singleton]
  | l :: l' :: L => by
    rw [List.intercalate_cons_cons, concat_append, concat_append, concat_intercalate sep (l' :: L),
      List.map_cons, List.map_cons, List.map_cons, String.intercalate_cons_cons]
    simp [text]

theorem params_intercalate (sep : String) :
    ∀ L : List (List Piece), params ([sql sep].intercalate L) = (L.map params).flatten
  | [] => rfl
  | [l] => by simp [List.intercalate_singleton]
  | l :: l' :: L => by
    rw [List.intercalate_cons_cons, params_append, params_append, params_intercalate sep (l' :: L)]
    simp [params, name?]

end Piece

/-- How a pass writes an entity's columns and its table. -/
structure Written where
  column : Entity → String → String
  table : Entity → String

/-- How a pass writes entities from the mappings it resolved, found by entity name. -/
def Written.ofCache (cache : List (String × TableMap)) : Written where
  column e property :=
    match cache.lookup e.name with
    | some m =>
      match m.find? property with
      | some c => columnText m c.column
      | none => ""
    | none => ""
  table e :=
    match cache.lookup e.name with
    | some m => tableText m
    | none => ""

/-- The SQL token of a stored operator name, negated or not. -/
def opToken (op : String) (negated : Bool) : String :=
  match Comparison.ofName? op with
  | some c => c.token negated
  | none => ""

/-- The pieces of a field leaf whose operands bind from ordinal `k` on. -/
def fieldLayout (w : Written) (t : FieldTest) (k : Nat) : List Piece :=
  let col := w.column t.entity t.property
  match t.operand.classify with
  | .null => [.sql ("(" ++ col ++ if t.negated then " IS NOT NULL)" else " IS NULL)")]
  | .sequence items =>
    .sql ("(" ++ col ++ if t.negated then " NOT IN (" else " IN (") ::
      [Piece.sql ", "].intercalate
        ((List.range items.length).map fun i => [.param (paramName t.property (k + i))]) ++
      [.sql "))"]
  | .scalar =>
    [.sql ("(" ++ col ++ " " ++ opToken t.operator t.negated ++ " "),
      .param (paramName t.property k), .sql ")"]

mutual

/-- The pieces a tree is written as, its parameters numbered from ordinal `k` on. -/
def layout (w : Written) : Predicate → Nat → List Piece
  | .field t, k => fieldLayout w t k
  | .compare t, _ =>
    [.sql ("(" ++ w.column t.entity t.property ++ " " ++ opToken t.operator t.negated ++ " " ++
      w.column t.entity2 t.property2 ++ ")")]
  | .group j cs, k =>
    .sql "(" :: [Piece.sql (" " ++ j ++ " ")].intercalate (layoutChildren w cs k) ++ [.sql ")"]
  | .existential e inner n, k =>
    .sql ((if n then "(NOT EXISTS (SELECT 1 FROM " else "(EXISTS (SELECT 1 FROM ") ++ w.table e ++
      " WHERE ") :: layout w inner k ++ [.sql "))"]
  | .ref t, k => if t.isNode then layout w t k else []
  | _, _ => []

/-- The pieces of the children of a group, each numbered on from the operands before it. -/
def layoutChildren (w : Written) : List Predicate → Nat → List (List Piece)
  | [], _ => []
  | c :: cs, k => layout w c k :: layoutChildren w cs (k + c.operands.length)

end

section Steps

variable {r : Resolver σ} {s t : Pass σ} {c : List (String × TableMap)}

theorem propertyColumn_run_eq_ok {e : Entity} {property col : String}
    (h : (propertyColumn r e property).run s = .ok col t) :
    t.params = s.params ∧ Extends s.cache t.cache ∧
      ∀ c, Extends t.cache c → (Written.ofCache c).column e property = col := by
  obtain ⟨m,t1,hm,h⟩ := bind_run_eq_ok.1 h
  obtain ⟨cn,t2,hcn,hp⟩ := bind_run_eq_ok.1 h
  cases hp
  obtain ⟨hpar,hext,hlook⟩ := resolve_run_eq_ok hm
  cases hf : m.find? property with
  | none =>
    simp only [columnOf, hf] at hcn
    cases hcn
  | some p =>
    simp only [columnOf, hf] at hcn
    cases hcn
    refine ⟨hpar,hext,fun c hc => ?_⟩
    simp [Written.ofCache, hc _ _ hlook, hf]

theorem resolve_table {e : Entity} {m : TableMap} (h : (resolve r e).run s = .ok m t)
    (hc : Extends t.cache c) : (Written.ofCache c).table e = tableText m := by
  obtain ⟨-,-,hlook⟩ := resolve_run_eq_ok h
  simp [Written.ofCache, hc _ _ hlook]

theorem operatorToken_run_eq_ok {op tok : String} {negated : Bool}
    (h : (operatorToken op negated : RenderM σ String).run s = .ok tok t) :
    t = s ∧ opToken op negated = tok := by
  unfold operatorToken at h
  unfold opToken
  cases hc : Comparison.ofName? op with
  | none =>
    rw [hc] at h
    cases h
  | some cmp =>
    rw [hc] at h
    cases h
    exact ⟨rfl,rfl⟩

theorem bind_run_eq_ok' {property name : String} {v : Value} (h : (bind property v).run s = .ok name t) :
    name = paramName property s.params.size ∧ t.params.size = s.params.size + 1 ∧ t.cache = s.cache := by
  cases hc : s.params.contains (paramName property s.params.size)
  · rw [bind_run_of_fresh hc] at h
    cases h
    simp [Params.size]
  · rw [bind_run_of_taken hc] at h
    cases h

theorem mapM_bind_run_eq_ok {property : String} {items : List Value} {names : List String}
    (h : (items.mapM (bind property)).run s = .ok names t) :
    names = (List.range items.length).map (fun i => paramName property (s.params.size + i)) ∧
      t.cache = s.cache := by
  induction items generalizing s names with
  | nil =>
    cases h
    simp
  | cons v vs ih =>
    rw [List.mapM_cons] at h
    obtain ⟨n,t1,hb,h⟩ := bind_run_eq_ok.1 h
    obtain ⟨ns,t2,hvs,hp⟩ := bind_run_eq_ok.1 h
    cases hp
    obtain ⟨rfl,hsize,hcache⟩ := bind_run_eq_ok' hb
    obtain ⟨rfl,hcache'⟩ := ih hvs
    refine ⟨?_, hcache'.trans hcache⟩
    simp only [List.length_cons, List.range_succ_eq_map, List.map_cons, List.map_map, hsize]
    congr 1
    apply List.map_congr_left
    intro i _
    simp only [Function.comp_apply]
    congr 1
    omega

theorem size_of_predicate_run_eq_ok {p : Predicate} {text : String}
    (h : (predicate r p).run s = .ok text t) : t.params.size = s.params.size + p.operands.length := by
  simp [Params.size, (predicate_run_eq_ok h).1, length_named]

theorem field_text {ft : FieldTest} {text : String} (h : (field r ft).run s = .ok text t)
    (hc : Extends t.cache c) :
    text = Piece.concat (fieldLayout (Written.ofCache c) ft s.params.size) := by
  rw [field] at h
  obtain ⟨col,t1,hcol,h⟩ := bind_run_eq_ok.1 h
  obtain ⟨hpar,-,hwritten⟩ := propertyColumn_run_eq_ok hcol
  unfold fieldLayout
  cases hcl : ft.operand.classify with
  | null =>
    simp only [hcl] at h
    cases h
    simp [hwritten c hc, Piece.text]
  | sequence items =>
    simp only [hcl] at h
    split at h
    · cases h
    split at h
    · cases h
    obtain ⟨names,t2,hm,hp⟩ := bind_run_eq_ok.1 h
    cases hp
    obtain ⟨rfl,hcache⟩ := mapM_bind_run_eq_ok hm
    rw [hcache] at hc
    simp [hwritten c hc, hpar, Piece.text, Piece.concat_intercalate, Function.comp_def,
      String.append_assoc]
  | scalar =>
    simp only [hcl] at h
    obtain ⟨tok,t2,htok,h⟩ := bind_run_eq_ok.1 h
    obtain ⟨rfl,rfl⟩ := operatorToken_run_eq_ok htok
    obtain ⟨n,t3,hb,hp⟩ := bind_run_eq_ok.1 h
    cases hp
    obtain ⟨rfl,-,hcache⟩ := bind_run_eq_ok' hb
    rw [hcache] at hc
    simp [hwritten c hc, hpar, Piece.text, String.append_assoc]

theorem compare_text {ct : ColumnTest} {text : String} (h : (compare r ct).run s = .ok text t)
    (hc : Extends t.cache c) :
    text = Piece.concat (layout (Written.ofCache c) (.compare ct) s.params.size) := by
  rw [compare] at h
  obtain ⟨left,t1,hl,h⟩ := bind_run_eq_ok.1 h
  obtain ⟨right,t2,hr,h⟩ := bind_run_eq_ok.1 h
  obtain ⟨tok,t3,htok,hp⟩ := bind_run_eq_ok.1 h
  cases hp
  obtain ⟨rfl,rfl⟩ := operatorToken_run_eq_ok htok
  obtain ⟨-,-,hwl⟩ := propertyColumn_run_eq_ok hl
  obtain ⟨-,hext,hwr⟩ := propertyColumn_run_eq_ok hr
  simp [layout, hwl c (hext.trans hc), hwr c hc, Piece.text, String.append_assoc]

end Steps

mutual

/-- The text of a tree rendered successfully is its layout, numbered from the sink's size at
the start and written with any cache that extends the one the pass ends with. -/
theorem predicate_text (r : Resolver σ) :
    ∀ (p : Predicate) {s t : Pass σ} {text : String} {c : List (String × TableMap)},
      (predicate r p).run s = .ok text t → Extends t.cache c →
        text = Piece.concat (layout (Written.ofCache c) p s.params.size)
  | .absent, _, _, _, _, h, _ => by cases h
  | .field _, _, _, _, _, h, hc => field_text h hc
  | .compare _, _, _, _, _, h, hc => compare_text h hc
  | .group j cs, s, t, text, c, h, hc => by
    rw [predicate] at h
    split at h
    · cases h
    split at h
    · cases h
    obtain ⟨parts,t1,hch,hp⟩ := bind_run_eq_ok.1 h
    cases hp
    rw [children_text r cs hch hc]
    simp [layout, Piece.concat_intercalate, Piece.text, String.append_assoc]
  | .existential e inner n, s, t, text, c, h, hc => by
    rw [predicate] at h
    split at h
    · cases h
    obtain ⟨m,t1,hm,h⟩ := bind_run_eq_ok.1 h
    obtain ⟨body,t2,hb,hp⟩ := bind_run_eq_ok.1 h
    cases hp
    obtain ⟨hpar,-,-⟩ := resolve_run_eq_ok hm
    rw [predicate_text r inner hb hc, ← hpar]
    simp [layout, resolve_table hm ((predicate_run_eq_ok hb).2.trans hc), Piece.text,
      String.append_assoc]
  | .ref (.field _), _, _, _, _, h, hc => field_text h hc
  | .ref (.compare _), _, _, _, _, h, hc => compare_text h hc
  | .ref (.group j cs), _, _, _, _, h, hc => predicate_text r (.group j cs) h hc
  | .ref (.existential e inner n), _, _, _, _, h, hc => predicate_text r (.existential e inner n) h hc
  | .ref .absent, _, _, _, _, h, _ | .ref (.ref _), _, _, _, _, h, _
  | .ref (.nullRef _), _, _, _, _, h, _ | .ref (.foreign _), _, _, _, _, h, _ => by cases h
  | .nullRef _, _, _, _, _, h, _ => by cases h
  | .foreign _, _, _, _, _, h, _ => by cases h

theorem children_text (r : Resolver σ) :
    ∀ (cs : List Predicate) {s t : Pass σ} {texts : List String} {c : List (String × TableMap)},
      (children r cs).run s = .ok texts t → Extends t.cache c →
        texts = (layoutChildren (Written.ofCache c) cs s.params.size).map Piece.concat
  | [], _, _, _, _, h, _ => by
    cases h
    rfl
  | p :: cs, s, t, texts, c, h, hc => by
    rw [children] at h
    obtain ⟨x,t1,hx,h⟩ := bind_run_eq_ok.1 h
    obtain ⟨xs,t2,hxs,hp⟩ := bind_run_eq_ok.1 h
    cases hp
    rw [predicate_text r p hx ((children_run_eq_ok hxs).2.trans hc), children_text r cs hxs hc,
      size_of_predicate_run_eq_ok hx]
    rfl

end

theorem map_fst_named_sequence (k : Nat) (property : String) (items : List Value) :
    (named k (items.map (property, ·))).map Prod.fst =
      (List.range items.length).map fun i => paramName property (k + i) := by
  apply List.ext_getElem
  · simp [length_named]
  · intro i h1 h2
    simp [named]

theorem params_fieldLayout (w : Written) (ft : FieldTest) (k : Nat) :
    Piece.params (fieldLayout w ft k) = (named k ft.operands).map Prod.fst := by
  unfold fieldLayout FieldTest.operands
  cases ft.operand.classify with
  | null => simp [Piece.name?]
  | sequence items =>
    simp [Piece.name?, Piece.params_intercalate, map_fst_named_sequence, Function.comp_def,
      ← List.flatMap_def, ← List.map_eq_flatMap]
  | scalar => simp [Piece.name?]

mutual

/-- The parameters a tree is written with are the names of its operands, numbered from `k` on. -/
theorem params_layout (w : Written) :
    ∀ (p : Predicate) (k : Nat), Piece.params (layout w p k) = (named k p.operands).map Prod.fst
  | .absent, _ => rfl
  | .field ft, k => params_fieldLayout w ft k
  | .compare _, _ => by simp [layout, Piece.name?, Predicate.operands]
  | .group _ cs, k => by
    simp [layout, Predicate.operands, Piece.name?, Piece.params_intercalate, params_layoutChildren w cs k]
  | .existential _ inner _, k => by
    simp [layout, Predicate.operands, Piece.name?, params_layout w inner k]
  | .ref t, k => by
    by_cases h : t.isNode
    · simp [layout, Predicate.operands, h, params_layout w t k]
    · simp [layout, Predicate.operands, h]
  | .nullRef _, _ => rfl
  | .foreign _, _ => rfl

theorem params_layoutChildren (w : Written) :
    ∀ (cs : List Predicate) (k : Nat),
      ((layoutChildren w cs k).map Piece.params).flatten =
        (named k (Predicate.childOperands cs)).map Prod.fst
  | [], _ => rfl
  | c :: cs, k => by
    simp [layoutChildren, Predicate.childOperands, named_append, params_layout w c k,
      params_layoutChildren w cs (k + c.operands.length)]

end

mutual

theorem layout_skeleton (w : Written) :
    ∀ (p : Predicate) (k : Nat), layout w p.skeleton k = layout w p k
  | .field t, k => by
    simp only [Predicate.skeleton, layout, fieldLayout, Value.classify_skeleton]
    cases t.operand.classify <;> simp [Operand.skeleton]
  | .group j cs, k => by simp [Predicate.skeleton, layout, layoutChildren_skeleton w cs k]
  | .existential e inner n, k => by simp [Predicate.skeleton, layout, layout_skeleton w inner k]
  | .ref t, k => by
    by_cases hn : t.isNode <;> simp [Predicate.skeleton, layout, hn, layout_skeleton w t k]
  | .absent, _ | .compare _, _ | .nullRef _, _ | .foreign _, _ => rfl

theorem layoutChildren_skeleton (w : Written) :
    ∀ (cs : List Predicate) (k : Nat),
      layoutChildren w (Predicate.childSkeletons cs) k = layoutChildren w cs k
  | [], _ => rfl
  | c :: cs, k => by
    simp [Predicate.childSkeletons, layoutChildren, layout_skeleton w c k,
      Predicate.length_operands_skeleton, layoutChildren_skeleton w cs]

end

/-- Two trees of one skeleton render from one state the same text, resolving the same mappings
and binding under the same names. -/
theorem predicate_text_of_skeleton {r : Resolver σ} {p q : Predicate} (hq : q.skeleton = p.skeleton)
    {s t : Pass σ} {text : String} (h : (predicate r p).run s = .ok text t) :
    ∃ t', (predicate r q).run s = .ok text t' ∧ t'.world = t.world ∧ t'.cache = t.cache ∧
      t'.params.names = t.params.names := by
  have halike := predicate_alike (r := r) hq s
  rw [← predicate_effects r p s, ← predicate_effects r q s, h] at halike
  cases hrun : (predicate r q).run s with
  | ok text' t' =>
    rw [hrun] at halike
    obtain ⟨-, ht⟩ := halike
    refine ⟨t', ?_, ht.world.symm, ht.cache.symm, ht.names.symm⟩
    rw [predicate_text r q hrun (Extends.refl _), predicate_text r p h (Extends.refl _), ← ht.cache,
      ← layout_skeleton _ q, hq, layout_skeleton]
  | error e t' =>
    rw [hrun] at halike
    exact halike.elim

/-- Rendering a tree from a sink of size `k` writes the text of its layout at `k`, columns and
tables written from the mappings the pass resolved. The text does not depend on the values of the
operands: a tree of the same skeleton renders the same text from the same state, resolving the
same mappings and binding under the same names. -/
theorem render_text_is_layout {r : Resolver σ} {p : Predicate} {s t : Pass σ} {text : String}
    (h : (predicate r p).run s = .ok text t) :
    text = Piece.concat (layout (Written.ofCache t.cache) p s.params.size) ∧
      ∀ q : Predicate, q.skeleton = p.skeleton → ∃ t', (predicate r q).run s = .ok text t' ∧
        t'.world = t.world ∧ t'.cache = t.cache ∧ t'.params.names = t.params.names :=
  ⟨predicate_text r p h (Extends.refl _), fun _ hq => predicate_text_of_skeleton hq h⟩

theorem render_text_of_exists_and_reference :
    let users : TableMap := ⟨.named "User", "dbo", "users", [⟨"Id", "id", .identity, false⟩]⟩
    let p : Predicate := .group "OR" [.compare ⟨.named "User", "Id", "gt", .named "User", "Id", true⟩,
      .existential (.named "User")
        (.ref (.field ⟨.named "User", "Id", "eq", .list .dynamic [.int .int 1, .int .int 2], false⟩))
        false]
    let text := "(([users].[id] <= [users].[id]) OR " ++
      "(EXISTS (SELECT 1 FROM [dbo].[users] WHERE ([users].[id] IN (@Id_0, @Id_1)))))"
    let t : Pass Unit := ⟨(), ⟨[("@Id_0", .int .int 1), ("@Id_1", .int .int 2)]⟩, [("User", users)]⟩
    (predicate (Resolver.fixed [users]) p).run ⟨(), ⟨[]⟩, []⟩ = .ok text t ∧
      text = Piece.concat (layout (Written.ofCache t.cache) p 0) := by
  intro users p text t
  have h : (predicate (Resolver.fixed [users]) p).run ⟨(), ⟨[]⟩, []⟩ = .ok text t := by
    simp only [users, p, text, t]
    rfl
  exact ⟨h, (render_text_is_layout h).1⟩

/-- Rendering a tree into a sink of size `k` appends the tree's operands to the sink, the `i`-th
under the name its property gets at ordinal `k + i`, after the bindings the sink held; and the
text is written around exactly the new names, in the same order. -/
theorem render_binds_operands_in_order {r : Resolver σ} {p : Predicate} {ps ps' : Params} {w w' : σ}
    {text : String} (h : Render.run (predicate r p) (some ps) w = ⟨.ok text, ps', w'⟩) :
    ps'.entries =
        ps.entries ++ p.operands.mapIdx (fun i b => (paramName b.1 (ps.size + i), b.2)) ∧
      ∃ pieces : List Piece, text = Piece.concat pieces ∧
        Piece.params pieces = p.operands.mapIdx (fun i b => paramName b.1 (ps.size + i)) := by
  obtain ⟨t,ht,rfl,-⟩ := run_eq_ok_iff.1 h
  refine ⟨(predicate_run_eq_ok ht).1, layout (Written.ofCache t.cache) p ps.size,
    predicate_text r p ht (Extends.refl _), ?_⟩
  rw [params_layout, named]
  apply List.ext_getElem <;> simp

theorem render_binds_operands_of_group :
    let users : TableMap :=
      ⟨.named "User", "", "users", [⟨"Id", "id", .notAKey, false⟩, ⟨"Name", "name", .notAKey, false⟩]⟩
    let p : Predicate := .group "AND" [.field ⟨.named "User", "Id", "eq", .int .int 7, false⟩,
      .field ⟨.named "User", "Name", "eq", .list .dynamic [.text "a", .text "b"], true⟩]
    let ps : Params := ⟨[("@X_0", .bool true)]⟩
    let ps' : Params :=
      ⟨[("@X_0", .bool true), ("@Id_1", .int .int 7), ("@Name_2", .text "a"), ("@Name_3", .text "b")]⟩
    let text := "(([users].[id] = @Id_1) AND ([users].[name] NOT IN (@Name_2, @Name_3)))"
    Render.run (predicate (Resolver.fixed [users]) p) (some ps) () = ⟨.ok text, ps', ()⟩ ∧
      ps'.entries =
          ps.entries ++ p.operands.mapIdx (fun i b => (paramName b.1 (ps.size + i), b.2)) ∧
        ∃ pieces : List Piece, text = Piece.concat pieces ∧
          Piece.params pieces = p.operands.mapIdx (fun i b => paramName b.1 (ps.size + i)) := by
  intro users p ps ps' text
  have h : Render.run (predicate (Resolver.fixed [users]) p) (some ps) () = ⟨.ok text, ps', ()⟩ := by
    simp only [users, p, ps, ps', text]
    rfl
  exact ⟨h, render_binds_operands_in_order h⟩

end PredicateSql.Render
