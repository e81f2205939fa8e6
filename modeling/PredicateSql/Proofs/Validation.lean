import Mathlib
import PredicateSql.Registry
import PredicateSql.Proofs.Sink
import PredicateSql.Proofs.WellFormed

/-! Validation reports exactly the conflicts of the stored mappings: a missing table, a column used
twice ignoring case, and more than one identity key, mapping by mapping in the order of their
names. -/
namespace PredicateSql

/-! ### The byte order of texts -/

namespace Text

theorem bytesLe_total : ∀ a b : List UInt8, (bytesLe a b || bytesLe b a) = true
  | [], _ => by simp [bytesLe]
  | _ :: _, [] => by simp [bytesLe]
  | x :: xs, y :: ys => by
    have ih := bytesLe_total xs ys
    simp only [bytesLe, Bool.or_eq_true, Bool.and_eq_true, beq_iff_eq, decide_eq_true_eq] at ih ⊢
    rcases Nat.lt_trichotomy x.toNat y.toNat with h | h | h
    · exact .inl (.inl (UInt8.lt_iff_toNat_lt.2 h))
    · obtain rfl := UInt8.toNat_inj.1 h
      rcases ih with ih | ih
      · exact .inl (.inr ⟨rfl, ih⟩)
      · exact .inr (.inr ⟨rfl, ih⟩)
    · exact .inr (.inl (UInt8.lt_iff_toNat_lt.2 h))

theorem bytesLe_trans : ∀ {a b c : List UInt8}, bytesLe a b = true → bytesLe b c = true →
    bytesLe a c = true
  | [], _, _, _, _ => rfl
  | _ :: _, [], _, hab, _ => by simp [bytesLe] at hab
  | _ :: _, _ :: _, [], _, hbc => by simp [bytesLe] at hbc
  | x :: xs, y :: ys, z :: zs, hab, hbc => by
    simp only [bytesLe, Bool.or_eq_true, Bool.and_eq_true, beq_iff_eq, decide_eq_true_eq]
      at hab hbc ⊢
    rcases hab with hxy | ⟨rfl, hxs⟩ <;> rcases hbc with hyz | ⟨rfl, hys⟩
    · exact .inl (UInt8.lt_trans hxy hyz)
    · exact .inl hxy
    · exact .inl hyz
    · exact .inr ⟨rfl, bytesLe_trans hxs hys⟩

theorem byteLe_total (a b : String) : (byteLe a b || byteLe b a) = true :=
  bytesLe_total (bytes a) (bytes b)

theorem byteLe_trans {a b c : String} (hab : byteLe a b = true) (hbc : byteLe b c = true) :
    byteLe a c = true :=
  bytesLe_trans hab hbc

end Text

/-! ### What validation should report for one mapping -/

namespace TableMap

/-- The first of some properties whose column equals that of `p`, ignoring case. -/
def firstSharing (earlier : List ColumnMap) (p : ColumnMap) : Option ColumnMap :=
  earlier.find? fun q => Text.lower q.column == Text.lower p.column

/-- The number of identity keys of a mapping. -/
def identityCount (m : TableMap) : Nat := (m.properties.filter (·.key == .identity)).length

/-- A mapping without conflicts: it has a table, its columns differ ignoring case, and it has at
most one identity key. -/
structure Clean (m : TableMap) : Prop where
  table : m.table ≠ ""
  columns : (m.properties.map (Text.lower ·.column)).Nodup
  identity : m.identityCount ≤ 1

theorem firstSharing_eq_none_iff {earlier : List ColumnMap} {p : ColumnMap} :
    firstSharing earlier p = none ↔ Text.lower p.column ∉ earlier.map (Text.lower ·.column) := by
  simp only [firstSharing, List.find?_eq_none, beq_iff_eq, List.mem_map, not_exists, not_and]

end TableMap

namespace Registry

open TableMap

/-- The problem of a mapping without a table. -/
def noTableProblem (name : String) : String := name ++ ": no table name"

/-- The problem of a property whose column an earlier one, the first given, already uses. -/
def shareProblem (name : String) (first p : ColumnMap) : String :=
  name ++ ": properties " ++ first.name ++ " and " ++ p.name ++ " share column " ++ p.column

/-- The problem of a mapping with more than one identity key. -/
def identityProblem (name : String) (count : Nat) : String :=
  name ++ ": " ++ toString count ++ " identity keys, at most one is allowed"

/-- One problem for each property whose column, ignoring case, an earlier property already uses,
naming the first such property. -/
def shareProblems (name : String) (ps : List ColumnMap) : List String :=
  ps.zipIdx.filterMap fun pj => (firstSharing (ps.take pj.2) pj.1).map (shareProblem name · pj.1)

/-- What validation should report for a mapping: a missing table, then the properties that share
a column with an earlier one, then more than one identity key. -/
def report (name : String) (m : TableMap) : List String :=
  (if m.table = "" then [noTableProblem name] else []) ++ shareProblems name m.properties ++
    (if 1 < m.identityCount then [identityProblem name m.identityCount] else [])

/-- The number of properties whose column, ignoring case, an earlier property already uses. -/
def sharingCount (ps : List ColumnMap) : Nat :=
  ps.zipIdx.countP fun pj => (firstSharing (ps.take pj.2) pj.1).isSome

/-- The number of problems validation should report for a mapping. -/
def problemCount (m : TableMap) : Nat :=
  (if m.table = "" then 1 else 0) + sharingCount m.properties +
    (if 1 < m.identityCount then 1 else 0)

theorem length_report (name : String) (m : TableMap) :
    (report name m).length = problemCount m := by
  unfold report problemCount sharingCount shareProblems
  simp only [List.length_append, List.length_filterMap_eq_countP, Option.isSome_map]
  split <;> split <;> simp

theorem shareProblems_append_singleton (name : String) (ps : List ColumnMap) (p : ColumnMap) :
    shareProblems name (ps ++ [p]) =
      shareProblems name ps ++ ((firstSharing ps p).map (shareProblem name · p)).toList := by
  unfold shareProblems
  rw [List.zipIdx_append, List.filterMap_append]
  congr 1
  · -- an earlier property sees only the properties before it
    refine List.filterMap_congr fun pj hpj => ?_
    have hlt := (List.mem_zipIdx hpj).2.1
    rw [List.take_append_of_le_length (by omega)]
  · cases h : firstSharing ps p <;> simp [h]

theorem shareProblems_eq_nil_iff (name : String) (ps : List ColumnMap) :
    shareProblems name ps = [] ↔ (ps.map (Text.lower ·.column)).Nodup := by
  induction ps using List.reverseRecOn with
  | nil => simp [shareProblems]
  | append_singleton ps p ih =>
    rw [shareProblems_append_singleton, List.append_eq_nil_iff, ih, List.map_append,
      List.map_singleton, ← List.concat_eq_append, List.nodup_concat, and_comm,
      ← firstSharing_eq_none_iff]
    cases firstSharing ps p <;> simp

theorem report_eq_nil_iff (name : String) (m : TableMap) : report name m = [] ↔ m.Clean := by
  unfold report
  simp only [List.append_eq_nil_iff, ite_eq_right_iff, List.cons_ne_nil, imp_false, not_lt,
    shareProblems_eq_nil_iff]
  exact ⟨fun ⟨⟨ht, hc⟩, hi⟩ => ⟨ht, hc, hi⟩, fun h => ⟨⟨h.table, h.columns⟩, h.identity⟩⟩

/-! A column check, given by what it does when the column of a property was seen and when it was
not. It keeps the first property of each column seen, and the problems found so far. -/

section ColumnCheck

variable (name : String)
  {f : List (String × String) × List String → ColumnMap → List (String × String) × List String}
  (hseen : ∀ acc p prev, acc.1.lookup (Text.lower p.column) = some prev →
    f acc p = (acc.1, acc.2 ++
      [name ++ ": properties " ++ prev ++ " and " ++ p.name ++ " share column " ++ p.column]))
  (hnew : ∀ acc p, acc.1.lookup (Text.lower p.column) = none →
    f acc p = (acc.1 ++ [(Text.lower p.column, p.name)], acc.2))
include hseen hnew

theorem columnCheck_step {ps : List ColumnMap} {acc : List (String × String) × List String}
    (hat : ∀ k, acc.1.lookup k = (ps.find? fun q => Text.lower q.column == k).map (·.name))
    (hout : acc.2 = shareProblems name ps) (p : ColumnMap) :
    (∀ k, (f acc p).1.lookup k =
      ((ps ++ [p]).find? fun q => Text.lower q.column == k).map (·.name)) ∧
      (f acc p).2 = shareProblems name (ps ++ [p]) := by
  rw [shareProblems_append_singleton]
  have hfirst : (firstSharing ps p).map (·.name) = acc.1.lookup (Text.lower p.column) := by
    rw [hat]
    rfl
  cases h : firstSharing ps p with
  | some q =>
    rw [h] at hfirst
    rw [hseen _ _ _ hfirst.symm]
    refine ⟨fun k => ?_, by simp [hout, shareProblem]⟩
    rw [hat, List.find?_append]
    cases hk : ps.find? (fun q => Text.lower q.column == k) with
    | some q' => rfl
    | none =>
      have hne : Text.lower p.column ≠ k := by
        rintro rfl
        rw [firstSharing] at h
        rw [h] at hk
        cases hk
      simp [hne]
  | none =>
    rw [h] at hfirst
    rw [hnew _ _ hfirst.symm]
    refine ⟨fun k => ?_, by simp [hout]⟩
    rw [List.lookup_append, hat, List.find?_append]
    cases hk : ps.find? (fun q => Text.lower q.column == k) with
    | some q' => rfl
    | none =>
      by_cases hkp : Text.lower p.column = k
      · subst hkp
        simp
      · simp [List.lookup_cons, hkp, beq_false_of_ne (Ne.symm hkp)]

theorem foldl_columnCheck (ps : List ColumnMap) :
    (ps.foldl f ([], [])).2 = shareProblems name ps := by
  -- the invariant: the columns seen name the first property of each column so far
  suffices h : (∀ k, (ps.foldl f ([], [])).1.lookup k =
      (ps.find? fun q => Text.lower q.column == k).map (·.name)) ∧
      (ps.foldl f ([], [])).2 = shareProblems name ps from h.2
  induction ps using List.reverseRecOn with
  | nil => simp [shareProblems]
  | append_singleton ps p ih =>
    rw [List.foldl_append, List.foldl_cons, List.foldl_nil]
    exact columnCheck_step name hseen hnew ih.1 ih.2 p

end ColumnCheck

theorem problems_eq_report (name : String) (m : TableMap) : problems name m = report name m := by
  unfold problems report
  simp only [beq_iff_eq, gt_iff_lt]
  rw [foldl_columnCheck name (fun acc p prev h => by simp only [h])
    (fun acc p h => by simp only [h])]
  rfl

/-- The bindings of a registry in ascending order of their names' bytes. -/
def sortedBindings (r : Registry) : List (String × TableMap) :=
  r.maps.mergeSort fun a b => Text.byteLe a.1 b.1

theorem sortedBindings_perm (r : Registry) : r.sortedBindings.Perm r.maps :=
  List.mergeSort_perm _ _

theorem sortedBindings_sorted (r : Registry) :
    r.sortedBindings.Pairwise fun a b => Text.byteLe a.1 b.1 = true := by
  have htrans : ∀ a b c : String × TableMap, Text.byteLe a.1 b.1 = true →
      Text.byteLe b.1 c.1 = true → Text.byteLe a.1 c.1 = true :=
    fun _ _ _ => Text.byteLe_trans
  have htotal : ∀ a b : String × TableMap, (Text.byteLe a.1 b.1 || Text.byteLe b.1 a.1) = true :=
    fun a b => Text.byteLe_total a.1 b.1
  exact List.pairwise_mergeSort htrans htotal r.maps

theorem entities_eq_sortedBindings (r : Registry) : r.entities = r.sortedBindings.map (·.1) := by
  unfold entities sortedBindings
  exact (@List.map_mergeSort (String × TableMap) String (fun a b => Text.byteLe a.1 b.1)
    Text.byteLe (·.1) r.maps fun _ _ _ _ => rfl).symm

/-- Validation goes through the bindings in ascending order of their names and reports what it
should for each, provided no two bindings share a name, as in a table keyed by name. -/
theorem validate_eq (r : Registry) (hd : (r.maps.map (·.1)).Nodup) :
    r.validate = r.sortedBindings.flatMap fun b => report b.1 b.2 := by
  unfold validate
  rw [entities_eq_sortedBindings, List.flatMap_map]
  refine List.flatMap_congr fun b hb => ?_
  have hfind : r.find? b.1 = some b.2 :=
    lookup_of_mem hd ((sortedBindings_perm r).subset hb)
  rw [hfind]
  exact problems_eq_report b.1 b.2

theorem validate_eq_nil_iff (r : Registry) (hd : (r.maps.map (·.1)).Nodup) :
    r.validate = [] ↔ ∀ b ∈ r.maps, b.2.Clean := by
  rw [validate_eq r hd, List.flatMap_eq_nil_iff]
  simp only [report_eq_nil_iff]
  exact ⟨fun h b hb => h b ((sortedBindings_perm r).mem_iff.2 hb),
    fun h b hb => h b ((sortedBindings_perm r).mem_iff.1 hb)⟩

theorem length_validate (r : Registry) (hd : (r.maps.map (·.1)).Nodup) :
    r.validate.length = (r.maps.map fun b => problemCount b.2).sum := by
  rw [validate_eq r hd, List.length_flatMap]
  simp only [length_report]
  exact ((sortedBindings_perm r).map _).sum_eq

/-- Validation reports exactly the conflicts of the stored mappings, for a registry whose bindings
have distinct names, as a table keyed by name has. It reports nothing exactly when every stored
mapping is clean. It reports, binding by binding in ascending order of names, a missing table, each
property whose column an earlier one already uses ignoring case (naming the first), and more than
one identity key. The number of problems is the sum of those counts. -/
theorem validate_reports_exactly_the_conflicts (r : Registry) (hd : (r.maps.map (·.1)).Nodup) :
    (r.validate = [] ↔ ∀ b ∈ r.maps, b.2.Clean) ∧
    (∃ bs : List (String × TableMap), bs.Perm r.maps ∧
      bs.Pairwise (fun a b => Text.byteLe a.1 b.1 = true) ∧
      r.validate = bs.flatMap fun b => report b.1 b.2) ∧
    r.validate.length = (r.maps.map fun b => problemCount b.2).sum :=
  ⟨validate_eq_nil_iff r hd,
    ⟨r.sortedBindings, sortedBindings_perm r, sortedBindings_sorted r, validate_eq r hd⟩,
    length_validate r hd⟩

/-- Validation of a registry with a mapping whose columns `id` and `ID` clash and a mapping without
a table and with two identity keys. -/
theorem validate_reports_conflicts_of_two_mappings :
    let orders : TableMap := ⟨.named "Order", "", "orders",
      [⟨"Id", "id", .identity, false⟩, ⟨"Code", "ID", .notAKey, false⟩]⟩
    let users : TableMap := ⟨.named "User", "", "",
      [⟨"Id", "id", .identity, false⟩, ⟨"Seq", "seq", .identity, false⟩]⟩
    let r : Registry := { maps := [("User", users), ("Order", orders)] }
    (r.maps.map (·.1)).Nodup ∧
      (r.validate = [] ↔ ∀ b ∈ r.maps, b.2.Clean) ∧
      (∃ bs : List (String × TableMap), bs.Perm r.maps ∧
        bs.Pairwise (fun a b => Text.byteLe a.1 b.1 = true) ∧
        r.validate = bs.flatMap fun b => report b.1 b.2) ∧
      r.validate.length = (r.maps.map fun b => problemCount b.2).sum :=
  ⟨by decide, validate_reports_exactly_the_conflicts _ (by decide)⟩

/-! ### A registry a program reaches binds each name once

Registering, loading and resolving bind only names that are unbound, and a schema's registry is
registered into an empty one, so the names of every registry a program reaches are distinct: the
characterisation of validation above holds for each of them. -/

theorem not_mem_of_lookup_eq_none {l : List (String × TableMap)} {n : String}
    (h : l.lookup n = none) : n ∉ l.map (·.1) := by
  intro hn
  obtain ⟨b, hb, rfl⟩ := List.mem_map.1 hn
  have hne := List.lookup_eq_none_iff.1 h b hb
  simp at hne

theorem nodup_extend {r : Registry} (hd : (r.maps.map (·.1)).Nodup) {ts : List TableMap}
    (hts : (ts.map (·.entity.name)).Nodup) (hfree : ∀ t ∈ ts, r.find? t.entity.name = none) :
    ((r.extend ts).maps.map (·.1)).Nodup := by
  simp only [extend, List.map_append, List.map_map, Function.comp_def]
  refine List.nodup_append.2 ⟨hd, hts, ?_⟩
  rintro a ha b hb rfl
  obtain ⟨t, ht, rfl⟩ := List.mem_map.1 hb
  exact not_mem_of_lookup_eq_none (hfree t ht) ha

theorem nodup_resolve {r : Registry} (hd : (r.maps.map (·.1)).Nodup) (e : Entity) :
    ((r.resolve e).2.maps.map (·.1)).Nodup := by
  unfold Registry.resolve
  cases hf : r.find? e.name with
  | some m => exact hd
  | none =>
    simp only
    split
    · exact hd
    · unfold Registry.resolveLocked
      rw [hf]
      cases hb : (Mapper.ofEntity e).withAutoMap.build with
      | error err => exact hd
      | ok m =>
        simp only [List.map_append, List.map_singleton]
        exact List.nodup_append.2 ⟨hd, List.nodup_singleton _, by
          rintro a ha b hb rfl
          exact not_mem_of_lookup_eq_none hf (List.mem_singleton.1 hb ▸ ha)⟩

theorem Reachable.nodup {r : Registry} (h : r.Reachable) : (r.maps.map (·.1)).Nodup := by
  induction h with
  | new a => simp [Registry.empty]
  | schema s a hs =>
    cases s with
    | none => cases hs
    | some s =>
      obtain ⟨ts, -, hnd, hfree, rfl⟩ := register_eq_ok.1 hs
      exact nodup_extend (by simp [Registry.empty]) hnd hfree
  | register _ _ hreg ih =>
    obtain ⟨ts, -, hnd, hfree, rfl⟩ := register_eq_ok.1 hreg
    exact nodup_extend ih hnd hfree
  | load text _ hl ih =>
    obtain ⟨-, -, ts, -, -, -, hnd, hfree, rfl⟩ := loadMappings_eq_ok.1 hl
    exact nodup_extend ih hnd hfree
  | resolve _ _ ih => exact nodup_resolve ih _

end Registry

end PredicateSql
