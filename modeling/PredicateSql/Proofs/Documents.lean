import Mathlib
import PredicateSql.Load.Predicate
import PredicateSql.Proofs.MintedNames

/-! Reading predicate documents. Reading succeeds exactly on the documents of the node grammar and
gives the tree translated node by node; otherwise it fails at the first ill-formed node in
pre-order. A translated tree passes every structural check of rendering. -/
namespace PredicateSql

namespace PredicateEntry

/-! ### The grammar and the translation -/

/-- Whether an operator text is one a node may give: empty, or a spelling of a comparison. -/
def opAccepted (op : String) : Bool := op == "" || (Comparison.parse? op).isSome

/-- The stored name of the comparison an operator text stands for; equality when it is empty. -/
def opName (op : String) : String :=
  if op == "" then Comparison.eq.name else ((Comparison.parse? op).map Comparison.name).getD op

theorem operator_eq (path op : String) :
    operator path op = if opAccepted op then .ok (opName op)
      else .error (.within (.path path) (.invalidOperator op .unknownComparison)) := by
  unfold operator opAccepted opName
  by_cases h : op = ""
  · simp [h]
  · have h' : (op == "") = false := by simpa using h
    cases Comparison.parse? op <;> simp [h']

theorem isValid_opName {op : String} (h : opAccepted op = true) :
    Comparison.isValid (opName op) = true := by
  unfold opAccepted at h
  unfold opName
  by_cases he : op = ""
  · simp [he, Comparison.isValid]
  · have he' : (op == "") = false := by simpa using he
    rw [he', Bool.false_or] at h
    obtain ⟨cmp, hc⟩ := Option.isSome_iff_exists.1 h
    simp [he', hc, Comparison.isValid]

end PredicateEntry

open PredicateEntry in
/-- The leaf a `field` node stands for. -/
def FieldEntry.test (f : FieldEntry) : FieldTest :=
  ⟨Entity.named f.entity, f.property, opName f.op, f.value, f.negated⟩

open PredicateEntry in
/-- The leaf a `property` node stands for. -/
def ColumnEntry.test (c : ColumnEntry) : ColumnTest :=
  ⟨Entity.named c.entity, c.property, opName c.op, Entity.named c.entity2, c.property2, c.negated⟩

namespace PredicateEntry

mutual

/-- Whether a tree is in the grammar of predicate documents. -/
def grammatical : PredicateEntry → Bool
  | .node f c a o e =>
    [f.isSome, c.isSome, a.isSome, o.isSome, e.isSome].countP id == 1 && match f, c, a, o, e with
      | some f, _, _, _, _ => [f.entity, f.property].all (· != "") && opAccepted f.op
      | none, some c, _, _, _ =>
        [c.entity, c.property, c.entity2, c.property2].all (· != "") && opAccepted c.op
      | none, none, some xs, _, _ => !xs.isEmpty && allGrammatical xs
      | none, none, none, some xs, _ => !xs.isEmpty && allGrammatical xs
      | none, none, none, none, some (entity, _, inner) => entity != "" && optionGrammatical inner
      | none, none, none, none, none => false

/-- Whether a node that may be absent is present and in the grammar. -/
def optionGrammatical : Option PredicateEntry → Bool
  | none => false
  | some x => grammatical x

/-- Whether every node of a list is in the grammar. -/
def allGrammatical : List PredicateEntry → Bool
  | [] => true
  | x :: xs => grammatical x && allGrammatical xs

end

mutual

/-- The tree a document stands for, node by node. -/
def translate : PredicateEntry → Predicate
  | .node f c a o e => match f, c, a, o, e with
    | some f, _, _, _, _ => .field f.test
    | none, some c, _, _, _ => .compare c.test
    | none, none, some xs, _, _ => .group "AND" (translateList xs)
    | none, none, none, some xs, _ => .group "OR" (translateList xs)
    | none, none, none, none, some (entity, negated, inner) =>
      .existential (Entity.named entity) (translateOption inner) negated
    | none, none, none, none, none => .absent

/-- The tree a node that may be absent stands for. -/
def translateOption : Option PredicateEntry → Predicate
  | none => .absent
  | some x => translate x

/-- The trees the nodes of a list stand for, in order. -/
def translateList : List PredicateEntry → List Predicate
  | [] => []
  | x :: xs => translate x :: translateList xs

end

/-! ### Faults of nodes, in pre-order -/

end PredicateEntry

/-- The path of a document node that an error names, if it names one. -/
def Error.documentPath? : Error → Option String
  | .invalidPredicate (.document path _) => some path
  | .within (.path path) _ => some path
  | _ => none

namespace PredicateEntry

/-- What is wrong with a leaf node at its path, if anything: a name not given, else an unknown
operator. -/
def leafFault (names : List String) (fault : DocumentFault) (op path : String) : Option Error :=
  if names.contains "" then some (.invalidPredicate (.document path fault))
  else if opAccepted op then none
  else some (.within (.path path) (.invalidOperator op .unknownComparison))

/-- What is wrong with a node itself at its path, its children aside: a missing node, a node that
does not set exactly one part, a leaf without its names or with an unknown operator, an empty list
of children, an `exists` node without an entity. -/
def fault : Option PredicateEntry → String → Option Error
  | none, path => some (.invalidPredicate (.document path .missing))
  | some (.node f c a o e), path =>
    if [f.isSome, c.isSome, a.isSome, o.isSome, e.isSome].countP id != 1 then
      some (.invalidPredicate (.document path .notExactlyOne))
    else match f, c, a, o, e with
      | some f, _, _, _, _ => leafFault [f.entity, f.property] .fieldNames f.op (path ++ ".field")
      | none, some c, _, _, _ =>
        leafFault [c.entity, c.property, c.entity2, c.property2] .propertyNames c.op
          (path ++ ".property")
      | none, none, some xs, _, _ =>
        if xs.isEmpty then some (.within (.path (path ++ ".and")) (.invalidPredicate (.noChildren "AND")))
        else none
      | none, none, none, some xs, _ =>
        if xs.isEmpty then some (.within (.path (path ++ ".or")) (.invalidPredicate (.noChildren "OR")))
        else none
      | none, none, none, none, some (entity, _, _) =>
        if entity == "" then some (.invalidPredicate (.document (path ++ ".exists") .existsEntity))
        else none
      | none, none, none, none, none => some (.invalidPredicate (.document path .notExactlyOne))

mutual

/-- The nodes of a tree with their paths, in pre-order; a missing `where` node is listed as a
missing node. -/
def nodesAt : PredicateEntry → String → List (String × Option PredicateEntry)
  | .node f c a o e, path => (path, some (.node f c a o e)) :: match f, c, a, o, e with
    | some _, _, _, _, _ => []
    | none, some _, _, _, _ => []
    | none, none, some xs, _, _ => listNodesAt (path ++ ".and") 0 xs
    | none, none, none, some xs, _ => listNodesAt (path ++ ".or") 0 xs
    | none, none, none, none, some (_, _, inner) => optionNodesAt inner (path ++ ".exists.where")
    | none, none, none, none, none => []

/-- The nodes under a node that may be missing, in pre-order. -/
def optionNodesAt : Option PredicateEntry → String → List (String × Option PredicateEntry)
  | none, path => [(path, none)]
  | some x, path => nodesAt x path

/-- The nodes under the nodes of a list, each at its position under the path, in pre-order. -/
def listNodesAt (path : String) : Nat → List PredicateEntry → List (String × Option PredicateEntry)
  | _, [] => []
  | i, x :: xs => nodesAt x (path ++ "[" ++ toString i ++ "]") ++ listNodesAt path (i + 1) xs

end

/-- The fault of the first ill-formed node of a list, in order. -/
def firstFault (l : List (String × Option PredicateEntry)) : Option Error :=
  l.findSome? fun b => fault b.2 b.1

/-- A fault as an error, or a result when there is none. -/
def unlessFault {α : Type} : Option Error → α → Except Error α
  | some e, _ => .error e
  | none, a => .ok a

@[simp] theorem firstFault_nil : firstFault [] = none := rfl

theorem firstFault_cons (b : String × Option PredicateEntry) (l : List (String × Option PredicateEntry)) :
    firstFault (b :: l) = (fault b.2 b.1).or (firstFault l) := by
  unfold firstFault
  rw [List.findSome?_cons]
  cases fault b.2 b.1 <;> rfl

theorem firstFault_append (l l' : List (String × Option PredicateEntry)) :
    firstFault (l ++ l') = (firstFault l).or (firstFault l') := by
  unfold firstFault
  rw [List.findSome?_append]

theorem unlessFault_bind {α β : Type} (e : Option Error) (a : α) (g : α → β) :
    (unlessFault e a >>= fun b => pure (g b)) = unlessFault e (g a) := by
  cases e <;> rfl

theorem unlessFault_cons {α : Type} (e e' : Option Error) (a : α) (as : List α) :
    (do let b ← unlessFault e a; let bs ← unlessFault e' as; pure (b :: bs)) =
      unlessFault (e.or e') (a :: as) := by
  cases e <;> cases e' <;> rfl

/-! ### Reading a document is reading its first fault -/

theorem leafPredicate_eq (names : List String) (fault : DocumentFault) (op : String)
    (leaf : String → Predicate) (path : String) :
    leafPredicate names fault op leaf path = unlessFault (leafFault names fault op path) (leaf (opName op)) := by
  unfold leafPredicate leafFault
  rw [operator_eq]
  cases names.contains "" with
  | true => rfl
  | false => cases opAccepted op <;> rfl

@[simp] theorem translateList_isEmpty (xs : List PredicateEntry) :
    (translateList xs).isEmpty = xs.isEmpty := by
  cases xs <;> rfl

theorem parts_cases {motive : Option FieldEntry → Option ColumnEntry → Option (List PredicateEntry) →
      Option (List PredicateEntry) → Option (String × Bool × Option PredicateEntry) → Prop}
    (field : ∀ f c a o e, motive (some f) c a o e)
    (column : ∀ c a o e, motive none (some c) a o e)
    (conj : ∀ xs o e, motive none none (some xs) o e)
    (disj : ∀ xs e, motive none none none (some xs) e)
    (existential : ∀ entity negated inner, motive none none none none (some (entity, negated, inner)))
    (blank : motive none none none none none) :
    ∀ f c a o e, motive f c a o e
  | some f, c, a, o, e => field f c a o e
  | none, some c, a, o, e => column c a o e
  | none, none, some xs, o, e => conj xs o e
  | none, none, none, some xs, e => disj xs e
  | none, none, none, none, some (entity, negated, inner) => existential entity negated inner
  | none, none, none, none, none => blank

theorem translate_isAbsent_of_fault (x : PredicateEntry) (path : String)
    (h : fault (some x) path = none) : (translate x).isAbsent = false := by
  obtain ⟨f, c, a, o, e⟩ := x
  induction f, c, a, o, e using parts_cases with
  | blank => simp [fault] at h
  | _ => rfl

theorem nodesAt_head (x : PredicateEntry) (path : String) :
    ∃ l, nodesAt x path = (path, some x) :: l := by
  rw [nodesAt.eq_def]
  obtain ⟨f, c, a, o, e⟩ := x
  exact ⟨_, rfl⟩

theorem fault_of_firstFault_nodesAt {x : PredicateEntry} {path : String}
    (h : firstFault (nodesAt x path) = none) : fault (some x) path = none := by
  obtain ⟨l, hl⟩ := nodesAt_head x path
  rw [hl, firstFault_cons, Option.or_eq_none_iff] at h
  exact h.1

theorem firstAbsent_translateList (path : String) :
    ∀ (i : Nat) (xs : List PredicateEntry), firstFault (listNodesAt path i xs) = none →
      Predicate.firstAbsent (translateList xs) = none
  | _, [] => fun _ => rfl
  | i, x :: xs => fun h => by
    rw [listNodesAt, firstFault_append, Option.or_eq_none_iff] at h
    have hx := fault_of_firstFault_nodesAt h.1
    have hrest := firstAbsent_translateList path (i + 1) xs h.2
    simp only [Predicate.firstAbsent, List.findIdx?_eq_none_iff] at hrest ⊢
    intro y hy
    rcases List.mem_cons.1 hy with rfl | hy
    · simp [translate_isAbsent_of_fault x _ hx]
    · exact hrest y hy

theorem join_children_eq (j path : String) (xs : List PredicateEntry)
    (hj : (Junction.ofKeyword? j).isSome = true) :
    (do
      let children ← unlessFault (firstFault (listNodesAt path 0 xs)) (translateList xs)
      (Predicate.join j children).mapError (.within (.path path))) =
      unlessFault
        ((if xs.isEmpty then some (.within (.path path) (.invalidPredicate (.noChildren j)))
          else none).or (firstFault (listNodesAt path 0 xs)))
        (.group j (translateList xs)) := by
  have hj' : Junction.ofKeyword? j ≠ none := Option.ne_none_iff_isSome.2 hj
  cases xs with
  | nil =>
    simp [listNodesAt, translateList, unlessFault, Predicate.join, hj', bind, Except.bind,
      Except.mapError]
  | cons x xs =>
    cases hf : firstFault (listNodesAt path 0 (x :: xs)) with
    | some err => rfl
    | none =>
      have habsent := firstAbsent_translateList path 0 (x :: xs) hf
      simp [unlessFault, Predicate.join, hj', habsent, bind, Except.bind, Except.mapError]

variable {f : Option FieldEntry} {c : Option ColumnEntry} {a o : Option (List PredicateEntry)}
  {e : Option (String × Bool × Option PredicateEntry)} {path : String}

theorem fault_of_count (hn : ([f.isSome, c.isSome, a.isSome, o.isSome, e.isSome].countP id != 1) = true) :
    fault (some (.node f c a o e)) path = some (.invalidPredicate (.document path .notExactlyOne)) := by
  simp [fault, hn]

theorem nodePredicate_of_count (hn : ([f.isSome, c.isSome, a.isSome, o.isSome, e.isSome].countP id != 1) = true) :
    nodePredicate (.node f c a o e) path =
      unlessFault (firstFault (nodesAt (.node f c a o e) path)) (translate (.node f c a o e)) := by
  obtain ⟨l, hl⟩ := nodesAt_head (.node f c a o e) path
  rw [hl, firstFault_cons, fault_of_count hn, nodePredicate.eq_def]
  simp only [hn, ↓reduceIte]
  rfl

theorem nodePredicate_of_one
    (hn : ¬([f.isSome, c.isSome, a.isSome, o.isSome, e.isSome].countP id != 1) = true)
    (ha : ∀ xs, a = some xs → childPredicates (path ++ ".and") 0 xs =
      unlessFault (firstFault (listNodesAt (path ++ ".and") 0 xs)) (translateList xs))
    (ho : ∀ xs, o = some xs → childPredicates (path ++ ".or") 0 xs =
      unlessFault (firstFault (listNodesAt (path ++ ".or") 0 xs)) (translateList xs))
    (he : ∀ entity negated inner, e = some (entity, negated, inner) →
      toPredicate inner (path ++ ".exists.where") =
        unlessFault (firstFault (optionNodesAt inner (path ++ ".exists.where"))) (translateOption inner)) :
    nodePredicate (.node f c a o e) path =
      unlessFault (firstFault (nodesAt (.node f c a o e) path)) (translate (.node f c a o e)) := by
  induction f, c, a, o, e using parts_cases with
  | field f c a o e =>
    rw [nodePredicate, nodesAt, translate, firstFault_cons, fault, if_neg hn, if_neg hn,
      fieldPredicate, leafPredicate_eq, firstFault_nil, Option.or_none]
    rfl
  | column c a o e =>
    rw [nodePredicate, nodesAt, translate, firstFault_cons, fault, if_neg hn, if_neg hn,
      columnPredicate, leafPredicate_eq, firstFault_nil, Option.or_none]
    rfl
  | conj xs o e =>
    rw [nodePredicate, nodesAt, translate, firstFault_cons, fault, if_neg hn, if_neg hn,
      ha xs rfl]
    exact join_children_eq "AND" _ xs rfl
  | disj xs e =>
    rw [nodePredicate, nodesAt, translate, firstFault_cons, fault, if_neg hn, if_neg hn,
      ho xs rfl]
    exact join_children_eq "OR" _ xs rfl
  | existential entity negated inner =>
    -- the entity is checked before the `where` node is read
    rw [nodePredicate, nodesAt, translate, firstFault_cons, fault, if_neg hn, if_neg hn,
      he entity negated inner rfl]
    by_cases hent : entity = ""
    · simp [hent, refuse, unlessFault]
    · simp only [hent, beq_iff_eq, ↓reduceIte, Option.none_or]
      exact unlessFault_bind _ _ _
  | blank => simp at hn

mutual

theorem nodePredicate_eq : ∀ (x : PredicateEntry) (path : String),
    nodePredicate x path = unlessFault (firstFault (nodesAt x path)) (translate x)
  | .node f c a o e, path => by
    by_cases hn : ([f.isSome, c.isSome, a.isSome, o.isSome, e.isSome].countP id != 1) = true
    · exact nodePredicate_of_count hn
    · refine nodePredicate_of_one hn ?_ ?_ ?_
      · intro ys hys
        match a, hys with
        | some xs, rfl => exact childPredicates_eq (path ++ ".and") 0 xs
      · intro ys hys
        match o, hys with
        | some xs, rfl => exact childPredicates_eq (path ++ ".or") 0 xs
      · intro entity negated body hbody
        match e, hbody with
        | some (_, _, inner), rfl => exact toPredicate_eq inner (path ++ ".exists.where")

theorem toPredicate_eq : ∀ (x : Option PredicateEntry) (path : String),
    toPredicate x path = unlessFault (firstFault (optionNodesAt x path)) (translateOption x)
  | none, _ => rfl
  | some x, path => nodePredicate_eq x path

theorem childPredicates_eq (path : String) : ∀ (i : Nat) (xs : List PredicateEntry),
    childPredicates path i xs = unlessFault (firstFault (listNodesAt path i xs)) (translateList xs)
  | _, [] => rfl
  | i, x :: xs => by
    rw [childPredicates, listNodesAt, translateList, firstFault_append,
      nodePredicate_eq x, childPredicates_eq path (i + 1) xs]
    exact unlessFault_cons _ _ _ _

end

/-! ### The grammar is the absence of faults -/

theorem leafFault_eq_none_iff (names : List String) (fault : DocumentFault) (op path : String) :
    leafFault names fault op path = none ↔ (names.all (· != "") && opAccepted op) = true := by
  unfold leafFault
  rw [List.all_bne']
  cases names.contains "" <;> cases opAccepted op <;> simp

theorem grammatical_node_iff
    (ha : ∀ xs, a = some xs →
      (allGrammatical xs = true ↔ firstFault (listNodesAt (path ++ ".and") 0 xs) = none))
    (ho : ∀ xs, o = some xs →
      (allGrammatical xs = true ↔ firstFault (listNodesAt (path ++ ".or") 0 xs) = none))
    (he : ∀ entity negated inner, e = some (entity, negated, inner) →
      (optionGrammatical inner = true ↔
        firstFault (optionNodesAt inner (path ++ ".exists.where")) = none)) :
    grammatical (.node f c a o e) = true ↔ firstFault (nodesAt (.node f c a o e) path) = none := by
  by_cases hn : ([f.isSome, c.isSome, a.isSome, o.isSome, e.isSome].countP id != 1) = true
  · obtain ⟨l, hl⟩ := nodesAt_head (.node f c a o e) path
    have hg : grammatical (.node f c a o e) = false := by
      rw [grammatical.eq_def]
      simp only [bne_iff_ne, ne_eq] at hn
      simp [hn]
    rw [hl, firstFault_cons, fault_of_count hn, hg]
    simp
  · have h1 : ([f.isSome, c.isSome, a.isSome, o.isSome, e.isSome].countP id == 1) = true := by
      simpa using hn
    induction f, c, a, o, e using parts_cases with
    | field f c a o e =>
      rw [grammatical, nodesAt, firstFault_cons, fault, if_neg hn, h1, Bool.true_and,
        firstFault_nil, Option.or_none, leafFault_eq_none_iff]
    | column c a o e =>
      rw [grammatical, nodesAt, firstFault_cons, fault, if_neg hn, h1, Bool.true_and,
        firstFault_nil, Option.or_none, leafFault_eq_none_iff]
    | conj xs o e =>
      rw [grammatical, nodesAt, firstFault_cons, fault, if_neg hn, h1, Bool.true_and,
        Bool.and_eq_true, Option.or_eq_none_iff, ← ha xs rfl]
      cases xs <;> simp
    | disj xs e =>
      rw [grammatical, nodesAt, firstFault_cons, fault, if_neg hn, h1, Bool.true_and,
        Bool.and_eq_true, Option.or_eq_none_iff, ← ho xs rfl]
      cases xs <;> simp
    | existential entity negated inner =>
      rw [grammatical, nodesAt, firstFault_cons, fault, if_neg hn, h1, Bool.true_and,
        Bool.and_eq_true, Option.or_eq_none_iff, ← he entity negated inner rfl]
      by_cases hent : entity = "" <;> simp [hent]
    | blank => simp at hn

mutual

/-- A tree is in the grammar exactly when none of its nodes has a fault. -/
theorem grammatical_iff : ∀ (x : PredicateEntry) (path : String),
    grammatical x = true ↔ firstFault (nodesAt x path) = none
  | .node f c a o e, path => by
    refine grammatical_node_iff ?_ ?_ ?_
    · intro ys hys
      match a, hys with
      | some xs, rfl => exact allGrammatical_iff (path ++ ".and") 0 xs
    · intro ys hys
      match o, hys with
      | some xs, rfl => exact allGrammatical_iff (path ++ ".or") 0 xs
    · intro entity negated body hbody
      match e, hbody with
      | some (_, _, inner), rfl => exact optionGrammatical_iff inner (path ++ ".exists.where")

theorem optionGrammatical_iff : ∀ (x : Option PredicateEntry) (path : String),
    optionGrammatical x = true ↔ firstFault (optionNodesAt x path) = none
  | none, path => by simp [optionGrammatical, optionNodesAt, firstFault_cons, fault]
  | some x, path => grammatical_iff x path

theorem allGrammatical_iff (path : String) : ∀ (i : Nat) (xs : List PredicateEntry),
    allGrammatical xs = true ↔ firstFault (listNodesAt path i xs) = none
  | _, [] => by simp [allGrammatical, listNodesAt]
  | i, x :: xs => by
    rw [allGrammatical, listNodesAt, firstFault_append, Option.or_eq_none_iff, Bool.and_eq_true,
      grammatical_iff x, allGrammatical_iff path (i + 1) xs]

end

theorem translate_isAbsent_of_grammatical {x : PredicateEntry} (h : grammatical x = true) :
    (translate x).isAbsent = false :=
  translate_isAbsent_of_fault x "" (fault_of_firstFault_nodesAt ((grammatical_iff x "").1 h))

theorem translateOption_isAbsent_of_grammatical {x : Option PredicateEntry}
    (h : optionGrammatical x = true) : (translateOption x).isAbsent = false := by
  cases x with
  | none => cases h
  | some x => exact translate_isAbsent_of_grammatical h

/-! ### Faults name their nodes -/

theorem leafFault_path {names : List String} {fault : DocumentFault} {op path : String}
    {err : Error} (h : leafFault names fault op path = some err) : err.documentPath? = some path := by
  unfold leafFault at h
  split at h
  · cases h; rfl
  · split at h
    · cases h
    · cases h; rfl

/-- The keys after a node's path that a fault of the node may name: none, or the part it is
about. -/
def faultKeys : List String := ["", ".field", ".property", ".and", ".or", ".exists"]

/-- Every fault names the path of its node, or of the part of the node it is about. -/
theorem fault_path {x : Option PredicateEntry} {path : String} {err : Error}
    (h : fault x path = some err) : ∃ key ∈ faultKeys, err.documentPath? = some (path ++ key) := by
  rw [fault.eq_def] at h
  split at h
  · cases h
    exact ⟨"", by simp [faultKeys], by simp [Error.documentPath?]⟩
  · split at h
    · cases h
      exact ⟨"", by simp [faultKeys], by simp [Error.documentPath?]⟩
    · split at h
      · exact ⟨".field", by simp [faultKeys], leafFault_path h⟩
      · exact ⟨".property", by simp [faultKeys], leafFault_path h⟩
      · split at h
        · cases h
          exact ⟨".and", by simp [faultKeys], rfl⟩
        · cases h
      · split at h
        · cases h
          exact ⟨".or", by simp [faultKeys], rfl⟩
        · cases h
      · split at h
        · cases h
          exact ⟨".exists", by simp [faultKeys], rfl⟩
        · cases h
      · cases h
        exact ⟨"", by simp [faultKeys], by simp [Error.documentPath?]⟩

end PredicateEntry

/-- The errors compiling a tree read from a document can still meet: an entity without a mapping,
a property its mapping lacks, a parameter name already taken, and the two checks on sequence
operands. -/
inductive Error.Residual : Error → Prop
  | mappingNotFound (entity : String) : Error.Residual (.mappingNotFound entity)
  | unknownProperty (entity property : String) : Error.Residual (.unknownProperty entity property)
  | duplicateParameter (name : String) : Error.Residual (.duplicateParameter name)
  | sequenceNeedsEq (op : String) : Error.Residual (.invalidOperator op .sequenceNeedsEq)
  | emptySequence (entity property : String) :
      Error.Residual (.invalidPredicate (.emptySequence entity property))

namespace Render

/-- A check that can fail only on a lookup, a binding or a sequence operand: a guard holds unless it
is one of the checks on a sequence operand, and entities are known by name only. -/
def Check.Passable : Check → Prop
  | .guard holds err => holds = true ∨ (∃ op, err = .invalidOperator op .sequenceNeedsEq) ∨
      ∃ entity property, err = .invalidPredicate (.emptySequence entity property)
  | .resolve e => e.record = none
  | .column e _ => e.record = none
  | .bind _ _ => True

theorem resolve_registry_eq_error {e : Entity} {s t : Pass Registry} {err : Error}
    (he : e.record = none) (h : (resolve Registry.resolver e).run s = .error err t) :
    err = .mappingNotFound e.name := by
  simp only [resolve, EStateM.run] at h
  split at h
  · cases h
  · cases hf : s.world.find? e.name with
    | some m => simp [Registry.resolver, Registry.resolve_of_find? hf] at h
    | none =>
      simp only [Registry.resolver, Registry.resolve_of_unbound hf (.inr he)] at h
      cases h
      rfl

theorem Check.run_residual {ch : Check} {s t : Pass Registry} {err : Error} (hp : ch.Passable)
    (h : (ch.run Registry.resolver).run s = .error err t) : err.Residual := by
  cases ch with
  | guard holds e =>
    obtain ⟨rfl, rfl⟩ := guard_run_eq_error h
    rcases hp with hp | ⟨op, rfl⟩ | ⟨entity, property, rfl⟩
    · cases hp
    · exact .sequenceNeedsEq op
    · exact .emptySequence entity property
  | resolve e =>
    rcases bind_run_eq_error.1 h with hr | ⟨_, _, _, hpure⟩
    · rw [resolve_registry_eq_error hp hr]
      exact .mappingNotFound _
    · cases hpure
  | column e property =>
    rcases bind_run_eq_error.1 h with hr | ⟨m, u, _, hc⟩
    · rw [resolve_registry_eq_error hp hr]
      exact .mappingNotFound _
    · by_cases hm : (m.find? property).isNone = true
      · simp only [hm, ↓reduceIte] at hc
        cases hc
        exact .unknownProperty _ _
      · simp only [hm] at hc
        cases hc
  | bind property v =>
    obtain ⟨name, rfl⟩ := bindCheck_run_eq_error h
    exact .duplicateParameter name

theorem predicate_run_residual {p : Predicate} {ps ps' : Params} {w w' : Registry} {err : Error}
    (hp : ∀ ch ∈ checks p, ch.Passable)
    (h : Render.run (predicate Registry.resolver p) (some ps) w = ⟨.error err, ps', w'⟩) :
    err.Residual := by
  obtain ⟨t, ht, -, -⟩ := run_eq_error_iff.1 h
  obtain ⟨pre, c, post, u, hsplit, -, hc⟩ :=
    walk_run_eq_error.1 ((predicate_effects Registry.resolver p).run_eq_error.1 ht)
  exact Check.run_residual (hp c (by simp [hsplit])) hc

theorem fieldChecks_passable {t : FieldTest} (he : t.entity.record = none)
    (hop : Comparison.isValid t.operator = true) : ∀ ch ∈ fieldChecks t, ch.Passable := by
  intro ch hch
  rcases mem_fieldChecks hch with rfl | rfl | ⟨_, rfl⟩ | rfl | ⟨_, rfl⟩
  · exact he
  · exact .inr (.inl ⟨_, rfl⟩)
  · exact .inr (.inr ⟨_, _, rfl⟩)
  · exact .inl hop
  · trivial

theorem compareChecks_passable {t : ColumnTest} (he : t.entity.record = none)
    (he2 : t.entity2.record = none) (hop : Comparison.isValid t.operator = true) :
    ∀ ch ∈ compareChecks t, ch.Passable := by
  intro ch hch
  simp only [compareChecks, List.mem_cons, List.not_mem_nil, or_false] at hch
  rcases hch with rfl | rfl | rfl
  · exact he
  · exact he2
  · exact .inl hop

theorem groupChecks_passable {j : String} {cs : List Predicate}
    (hj : (Junction.ofKeyword? j).isSome = true) (hne : cs.isEmpty = false)
    (hc : ∀ ch ∈ childChecks cs, ch.Passable) : ∀ ch ∈ checks (.group j cs), ch.Passable := by
  intro ch hch
  rw [checks, List.mem_cons, List.mem_cons] at hch
  rcases hch with rfl | rfl | hch
  · exact .inl hj
  · exact .inl (by simp [hne])
  · exact hc ch hch

end Render

namespace PredicateEntry

variable {f : Option FieldEntry} {c : Option ColumnEntry} {a o : Option (List PredicateEntry)}
  {e : Option (String × Bool × Option PredicateEntry)}

theorem checks_passable_node (hg : grammatical (.node f c a o e) = true)
    (ha : ∀ xs, a = some xs → allGrammatical xs = true →
      ∀ ch ∈ Render.childChecks (translateList xs), ch.Passable)
    (ho : ∀ xs, o = some xs → allGrammatical xs = true →
      ∀ ch ∈ Render.childChecks (translateList xs), ch.Passable)
    (he : ∀ entity negated inner, e = some (entity, negated, inner) →
      optionGrammatical inner = true → ∀ ch ∈ Render.checks (translateOption inner), ch.Passable) :
    ∀ ch ∈ Render.checks (translate (.node f c a o e)), ch.Passable := by
  induction f, c, a, o, e using parts_cases with
  | field f c a o e =>
    rw [grammatical, Bool.and_eq_true, Bool.and_eq_true] at hg
    rw [translate, Render.checks]
    exact Render.fieldChecks_passable rfl (isValid_opName hg.2.2)
  | column c a o e =>
    rw [grammatical, Bool.and_eq_true, Bool.and_eq_true] at hg
    rw [translate, Render.checks]
    exact Render.compareChecks_passable rfl rfl (isValid_opName hg.2.2)
  | conj xs o e =>
    rw [grammatical, Bool.and_eq_true, Bool.and_eq_true, Bool.not_eq_true'] at hg
    rw [translate]
    exact Render.groupChecks_passable rfl (by simpa using hg.2.1) (ha xs rfl hg.2.2)
  | disj xs e =>
    rw [grammatical, Bool.and_eq_true, Bool.and_eq_true, Bool.not_eq_true'] at hg
    rw [translate]
    exact Render.groupChecks_passable rfl (by simpa using hg.2.1) (ho xs rfl hg.2.2)
  | existential entity negated inner =>
    rw [grammatical, Bool.and_eq_true, Bool.and_eq_true] at hg
    have hinner := hg.2.2
    rw [translate, Render.checks]
    intro ch hch
    rw [List.mem_cons, List.mem_cons] at hch
    rcases hch with rfl | rfl | hch
    · exact .inl (by simp [translateOption_isAbsent_of_grammatical hinner])
    · rfl
    · exact he entity negated inner rfl hinner ch hch
  | blank => simp [grammatical] at hg

mutual

/-- Every check of a tree in the grammar can fail only on a lookup, a binding or a sequence
operand. -/
theorem checks_passable : ∀ x : PredicateEntry, grammatical x = true →
    ∀ ch ∈ Render.checks (translate x), ch.Passable
  | .node f c a o e, hg => by
    refine checks_passable_node hg ?_ ?_ ?_
    · intro ys hys
      match a, hys with
      | some xs, rfl => exact childChecks_passable xs
    · intro ys hys
      match o, hys with
      | some xs, rfl => exact childChecks_passable xs
    · intro entity negated body hbody
      match e, hbody with
      | some (_, _, inner), rfl => exact optionChecks_passable inner

theorem optionChecks_passable : ∀ x : Option PredicateEntry, optionGrammatical x = true →
    ∀ ch ∈ Render.checks (translateOption x), ch.Passable
  | none, h => by cases h
  | some x, h => checks_passable x h

theorem childChecks_passable : ∀ xs : List PredicateEntry, allGrammatical xs = true →
    ∀ ch ∈ Render.childChecks (translateList xs), ch.Passable
  | [], _ => by simp [translateList, Render.childChecks]
  | x :: xs, h => by
    rw [allGrammatical, Bool.and_eq_true] at h
    rw [translateList, Render.childChecks]
    intro ch hch
    rcases List.mem_append.1 hch with hch | hch
    · exact checks_passable x h.1 ch hch
    · exact childChecks_passable xs h.2 ch hch

end

/-! ### Reading documents -/

theorem nodePredicate_eq_ok_iff (x : PredicateEntry) (path : String) (p : Predicate) :
    nodePredicate x path = .ok p ↔ grammatical x = true ∧ p = translate x := by
  rw [nodePredicate_eq, grammatical_iff x path]
  cases firstFault (nodesAt x path) <;> simp [unlessFault, eq_comm]

theorem nodePredicate_eq_error_iff (x : PredicateEntry) (path : String) (err : Error) :
    nodePredicate x path = .error err ↔
      ∃ pre q post, nodesAt x path = pre ++ q :: post ∧ (∀ b ∈ pre, fault b.2 b.1 = none) ∧
        fault q.2 q.1 = some err := by
  have hfirst : unlessFault (firstFault (nodesAt x path)) (translate x) = .error err ↔
      firstFault (nodesAt x path) = some err := by
    cases firstFault (nodesAt x path) <;> simp [unlessFault]
  rw [nodePredicate_eq, hfirst, firstFault, List.findSome?_eq_some_iff]
  constructor
  · rintro ⟨pre, q, post, hsplit, hq, hpre⟩
    exact ⟨pre, q, post, hsplit, hpre, hq⟩
  · rintro ⟨pre, q, post, hsplit, hpre, hq⟩
    exact ⟨pre, q, post, hsplit, hq, hpre⟩

/- Of two children of an `and` node, the second gives an unknown operator: the error names its
`field` part. -/
example : nodePredicate
    (.node none none (some [.node (some { entity := "Order", property := "Total" }) none none none none,
      .node (some { entity := "Order", property := "Total", op := "~" }) none none none none])
      none none) "$" =
    .error (.within (.path "$.and[1].field") (.invalidOperator "~" .unknownComparison)) := by
  rfl

/-- Reading a predicate document accepts exactly the trees of its grammar and gives their
translation. Otherwise it fails with the fault of the first ill-formed node in pre-order, and the
error names that node's path. A tree it gives passes every guard of rendering but those on sequence
operands, so compiling it against a registry fails only for want of a mapping or a property, on a
taken parameter name, or on a sequence operand. -/
theorem reading_accepts_exactly_the_grammar (x : PredicateEntry) (path : String) :
    (∀ p, nodePredicate x path = .ok p ↔ grammatical x = true ∧ p = translate x) ∧
    (∀ err, nodePredicate x path = .error err ↔
      ∃ pre q post, nodesAt x path = pre ++ q :: post ∧ (∀ b ∈ pre, fault b.2 b.1 = none) ∧
        fault q.2 q.1 = some err ∧ ∃ key ∈ faultKeys, err.documentPath? = some (q.1 ++ key)) ∧
    (grammatical x = true →
      (∀ holds err, Render.Check.guard holds err ∈ Render.checks (translate x) →
        holds = true ∨ (∃ op, err = .invalidOperator op .sequenceNeedsEq) ∨
          ∃ entity property, err = .invalidPredicate (.emptySequence entity property)) ∧
      ∀ (ps ps' : Params) (r r' : Registry) (err : Error),
        Render.run (Render.predicate Registry.resolver (translate x)) (some ps) r =
          ⟨.error err, ps', r'⟩ → err.Residual) := by
  refine ⟨nodePredicate_eq_ok_iff x path, fun err => ?_, fun hg => ⟨?_, ?_⟩⟩
  · rw [nodePredicate_eq_error_iff]
    constructor
    · rintro ⟨pre, q, post, hsplit, hpre, hq⟩
      exact ⟨pre, q, post, hsplit, hpre, hq, fault_path hq⟩
    · rintro ⟨pre, q, post, hsplit, hpre, hq, -⟩
      exact ⟨pre, q, post, hsplit, hpre, hq⟩
  · intro holds err hmem
    exact checks_passable x hg _ hmem
  · intro ps ps' r r' err h
    exact Render.predicate_run_residual (checks_passable x hg) h

end PredicateEntry

end PredicateSql
