import Mathlib
import PredicateSql.Proofs.Pass

/-! The parameter sink under binding. A sink filled from empty lists each name once, in the order
first bound, looks a name up to the value last bound to it, and hands out its arguments in that
order without the leading `@`. -/
namespace PredicateSql

/-! ### Names kept once -/

theorem eraseDups_concat {α : Type} [BEq α] [LawfulBEq α] (l : List α) (a : α) :
    (l ++ [a]).eraseDups = if a ∈ l then l.eraseDups else l.eraseDups ++ [a] := by
  rw [List.eraseDups_append]
  by_cases ha : a ∈ l <;> simp [List.removeAll, ha, List.eraseDups_cons]

theorem nodup_eraseDups {α : Type} [BEq α] [LawfulBEq α] (l : List α) : l.eraseDups.Nodup := by
  induction l using List.reverseRecOn with
  | nil => simp
  | append_singleton l a ih =>
    rw [eraseDups_concat]
    split
    · exact ih
    · next ha =>
      refine List.nodup_append.2 ⟨ih, List.nodup_singleton a, ?_⟩
      rintro x hx y hy rfl
      rw [List.mem_singleton] at hy
      exact ha (hy ▸ List.mem_eraseDups.1 hx)

theorem lookup_of_mem {β : Type} {bs : List (String × β)} (hd : (bs.map (·.1)).Nodup)
    {b : String × β} (hb : b ∈ bs) : bs.lookup b.1 = some b.2 := by
  induction bs with
  | nil => cases hb
  | cons c bs ih =>
    obtain ⟨n, m⟩ := c
    rw [List.map_cons, List.nodup_cons] at hd
    rcases List.mem_cons.1 hb with rfl | hb
    · simp
    · -- a later binding has a name other than the head's
      have hne : b.1 ≠ n := fun he => hd.1 (List.mem_map.2 ⟨b, hb, he⟩)
      simp [List.lookup_cons, beq_false_of_ne hne, ih hd.2 hb]

namespace Params

/-! ### One binding -/

theorem contains_iff {p : Params} {n : String} : p.contains n = true ↔ n ∈ p.names := by
  simp [contains]

theorem size_eq_length_names (p : Params) : p.size = p.names.length := by
  simp [size, names]

theorem lookup_replace_self (name : String) (v : Value) :
    ∀ es : List (String × Value), name ∈ es.map (·.1) →
      (replace name v es).lookup name = some v
  | [], h => by simp at h
  | (n, w) :: rest, h => by
    by_cases hn : n = name
    · simp [replace, hn]
    · have hr : name ∈ rest.map (·.1) := by simpa [Ne.symm hn] using h
      simp [replace, hn, List.lookup_cons, beq_false_of_ne (Ne.symm hn),
        lookup_replace_self name v rest hr]

theorem lookup_replace_of_ne {name m : String} (v : Value) (hm : m ≠ name) :
    ∀ es : List (String × Value), (replace name v es).lookup m = es.lookup m
  | [] => rfl
  | (n, w) :: rest => by
    by_cases hn : n = name
    · subst hn
      simp [replace, List.lookup_cons, beq_false_of_ne hm]
    · simp [replace, hn, List.lookup_cons, lookup_replace_of_ne v hm rest]

theorem get?_set (p : Params) (n : String) (v : Value) (m : String) :
    (p.set n v).get? m = if m = n then some v else p.get? m := by
  unfold set get?
  by_cases hc : p.contains n = true
  · rw [if_pos hc]
    split
    · next hm =>
      subst hm
      exact lookup_replace_self m v _ (contains_iff.1 hc)
    · next hm => exact lookup_replace_of_ne v hm _
  · rw [if_neg hc, List.lookup_append]
    split
    · next hm =>
      subst hm
      have hnone := Render.Params.get?_of_not_contains (Bool.eq_false_iff.2 hc)
      simp only [get?] at hnone
      simp [hnone]
    · next hm => cases h : p.entries.lookup m <;> simp [List.lookup_cons, beq_false_of_ne hm]

/-! ### A sequence of bindings -/

/-- Binds the names of a list to their values, one after another. -/
def setAll (p : Params) (calls : List (String × Value)) : Params :=
  calls.foldl (fun q b => q.set b.1 b.2) p

@[simp] theorem setAll_nil (p : Params) : p.setAll [] = p := rfl

@[simp] theorem setAll_concat (p : Params) (calls : List (String × Value)) (b : String × Value) :
    p.setAll (calls ++ [b]) = (p.setAll calls).set b.1 b.2 := by
  simp [setAll]

/-- The names of a sink filled from empty are the names bound, each once, in the order they were
first bound. -/
theorem names_setAll (calls : List (String × Value)) :
    (empty.setAll calls).names = (calls.map (·.1)).eraseDups := by
  induction calls using List.reverseRecOn with
  | nil => rfl
  | append_singleton calls b ih =>
    have hmem : (empty.setAll calls).contains b.1 = true ↔ b.1 ∈ calls.map (·.1) := by
      rw [contains_iff, ih, List.mem_eraseDups]
    rw [setAll_concat, names_set, List.map_append, List.map_singleton, eraseDups_concat, ih]
    by_cases hb : b.1 ∈ calls.map (·.1)
    · simp [hmem.2 hb, hb]
    · simp [hb, Bool.eq_false_iff.2 fun h => hb (hmem.1 h)]

/-- A name looks up the value last bound to it, or what it looked up before any of the bindings. -/
theorem get?_setAll (p : Params) (calls : List (String × Value)) (m : String) :
    (p.setAll calls).get? m = (calls.reverse.lookup m).or (p.get? m) := by
  induction calls using List.reverseRecOn with
  | nil => simp
  | append_singleton calls b ih =>
    obtain ⟨k, w⟩ := b
    rw [setAll_concat, get?_set, ih, List.reverse_append, List.reverse_singleton,
      List.singleton_append]
    by_cases hm : m = k
    · simp [hm]
    · simp [hm, List.lookup_cons, beq_false_of_ne hm]

/-! ### Arguments -/

/-- The name a binding is passed under as an argument: its name without one leading `@`. -/
def argName (n : String) : String :=
  match n.toList with
  | '@' :: r => String.ofList r
  | _ => n

theorem namedArgs_eq (p : Params) : p.namedArgs = p.entries.map fun b => (argName b.1, b.2) := rfl

/-- A sink whose names are distinct hands out, for each name in order, the argument of that name
with the value the name looks up. -/
theorem namedArgs_of_nodup {p : Params} (hd : p.names.Nodup) :
    p.namedArgs.map (fun a => (a.1, some a.2)) = p.names.map fun n => (argName n, p.get? n) := by
  rw [namedArgs_eq, List.map_map, names, List.map_map]
  refine List.map_congr_left fun b hb => ?_
  simp [get?, lookup_of_mem hd hb]

/-! ### A sink filled from empty -/

/-- A sink filled by bindings from empty keeps its representation (the zero sink is the empty
one). Its names are distinct: they are the names bound, each listed once in the order it was
first bound, so binding a bound name again keeps its place, and their number is the number of
distinct names bound. A name looks up the value last bound to it and is present exactly when it
was bound. The arguments it hands out are its names in order, each without its leading `@`, with
the value it looks up. -/
theorem filled_sink_keeps_its_representation (calls : List (String × Value)) :
    (empty.setAll calls).names.Nodup ∧
    (empty.setAll calls).names = (calls.map (·.1)).eraseDups ∧
    (∀ n, n ∈ (empty.setAll calls).names ↔ ∃ v, (n, v) ∈ calls) ∧
    (∀ n v, (empty.setAll calls).contains n = true →
      ((empty.setAll calls).set n v).names = (empty.setAll calls).names) ∧
    (empty.setAll calls).size = (calls.map (·.1)).toFinset.card ∧
    (∀ n, (empty.setAll calls).get? n = calls.reverse.lookup n) ∧
    (∀ n, (empty.setAll calls).contains n = true ↔ ∃ v, (n, v) ∈ calls) ∧
    (empty.setAll calls).namedArgs.map (fun a => (a.1, some a.2)) =
      (empty.setAll calls).names.map fun n => (argName n, (empty.setAll calls).get? n) := by
  have hnames := names_setAll calls
  have hnodup : (empty.setAll calls).names.Nodup := hnames ▸ nodup_eraseDups _
  have hmem : ∀ n, n ∈ (empty.setAll calls).names ↔ ∃ v, (n, v) ∈ calls := by
    intro n
    simp [hnames, List.mem_eraseDups]
  refine ⟨hnodup, hnames, hmem, fun n v hc => by simp [hc], ?_, fun n => ?_,
    fun n => contains_iff.trans (hmem n), namedArgs_of_nodup hnodup⟩
  · -- distinct names, so the size counts them
    rw [size_eq_length_names, ← List.toFinset_card_of_nodup hnodup, hnames]
    congr 1
    ext n
    simp [List.mem_eraseDups]
  · rw [get?_setAll]
    exact Option.or_none

end Params

end PredicateSql
