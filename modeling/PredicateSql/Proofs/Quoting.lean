import Mathlib
import PredicateSql.Sql.Render

/-! Bracket quoting cannot be broken out of. Whatever follows a quoted name, a reader of bracketed
identifiers never stops inside it, and when what follows does not start with `]` it reads back
exactly the name. So written columns and tables split back into their names one way only. -/
namespace PredicateSql.Identifier

theorem scanBody_escape_append (s rest : List Char) (h : rest.head? ≠ some ']') :
    scanBody (escape s ++ ']' :: rest) = some (s, rest) := by
  induction s with
  | nil =>
    -- the closing bracket stands alone, since nothing after it is a bracket
    cases rest with
    | nil => rfl
    | cons c r =>
      have hc : c ≠ ']' := by simpa using h
      simp [scanBody, hc]
  | cons c r ih =>
    by_cases hc : c = ']'
    · simp [escape, scanBody, hc, ih]
    · simp [escape, scanBody, hc, ih]

theorem scanBody_escape_append_bracket (s r : List Char) :
    scanBody (escape s ++ ']' :: ']' :: r) =
      (scanBody r).map fun (n, rest) => (s ++ ']' :: n, rest) := by
  induction s with
  | nil => simp [scanBody]
  | cons c r' ih =>
    by_cases hc : c = ']'
    · simp [escape, scanBody, hc, ih, Option.map_map, Function.comp_def]
    · simp [escape, scanBody, hc, ih, Option.map_map, Function.comp_def]

@[simp] theorem toList_quote (s : String) :
    (quote s).toList = '[' :: (escape s.toList ++ [']']) := by
  simp [quote]

theorem scan_quote_append_eq (s : String) (rest : List Char) :
    scan ((quote s).toList ++ rest) = scanBody (escape s.toList ++ ']' :: rest) := by
  simp [scan]

theorem scan_quote_append {s : String} {rest : List Char} (h : rest.head? ≠ some ']') :
    scan ((quote s).toList ++ rest) = some (s.toList, rest) := by
  rw [scan_quote_append_eq, scanBody_escape_append s.toList rest h]

theorem scan_quote_append_prefix {s : String} {rest n r : List Char}
    (h : scan ((quote s).toList ++ rest) = some (n, r)) : s.toList <+: n := by
  rw [scan_quote_append_eq] at h
  -- only a bracket right after the quoted name makes the reader go on
  cases rest with
  | nil =>
    rw [scanBody_escape_append _ _ (by simp)] at h
    cases h
    exact List.prefix_refl _
  | cons c r' =>
    by_cases hc : c = ']'
    · subst hc
      rw [scanBody_escape_append_bracket] at h
      obtain ⟨⟨n', r''⟩, -, he⟩ := Option.map_eq_some_iff.1 h
      cases he
      exact List.prefix_append _ _
    · rw [scanBody_escape_append _ _ (by simpa using hc)] at h
      cases h
      exact List.prefix_refl _

theorem quote_append_inj {s s' : String} {rest rest' : List Char} (h : rest.head? ≠ some ']')
    (h' : rest'.head? ≠ some ']') (he : (quote s).toList ++ rest = (quote s').toList ++ rest') :
    s = s' ∧ rest = rest' := by
  have hs := scan_quote_append (s := s) h
  rw [he, scan_quote_append h'] at hs
  obtain ⟨hn, hr⟩ := Prod.mk.inj (Option.some.inj hs)
  exact ⟨String.toList_inj.1 hn.symm, hr.symm⟩

theorem quote_injective : Function.Injective quote := by
  intro s s' he
  have hl : (quote s).toList ++ [] = (quote s').toList ++ [] := by rw [he]
  exact (quote_append_inj (by simp) (by simp) hl).1

/-- A closing bracket followed by a bracket is read as one bracket of the name, for every name: so
no text that starts with `]` can follow a quoted name and leave it whole. -/
theorem scan_quote_append_bracket_ne (s : String) (r : List Char) :
    scan ((quote s).toList ++ ']' :: r) ≠ some (s.toList, ']' :: r) := by
  rw [scan_quote_append_eq, scanBody_escape_append_bracket]
  intro h
  obtain ⟨⟨n, r'⟩, -, he⟩ := Option.map_eq_some_iff.1 h
  have hlen := congrArg (fun p => p.1.length) he
  simp at hlen

/-- The name `a` quoted and followed by `]` is not read back as `a` with the `]` left over. -/
theorem quoted_name_before_bracket_misread :
    scan ((quote "a").toList ++ "]".toList) ≠ some ("a".toList, "]".toList) :=
  scan_quote_append_bracket_ne "a" []

end PredicateSql.Identifier

namespace PredicateSql.Render

open Identifier

theorem toList_quote_dot_quote (a b : String) :
    (quote a ++ "." ++ quote b).toList = (quote a).toList ++ '.' :: (quote b).toList := by
  simp

/-- Two quoted names joined by a dot determine both names. -/
theorem quote_dot_quote_inj {a b a' b' : String}
    (h : quote a ++ "." ++ quote b = quote a' ++ "." ++ quote b') : a = a' ∧ b = b' := by
  have hl := congrArg String.toList h
  rw [toList_quote_dot_quote, toList_quote_dot_quote] at hl
  obtain ⟨ha, hb⟩ := quote_append_inj (by simp) (by simp) hl
  exact ⟨ha, quote_injective (String.toList_inj.1 (List.cons.inj hb).2)⟩

theorem quote_ne_quote_dot_quote (a b c : String) : quote a ≠ quote b ++ "." ++ quote c := by
  intro h
  have hl := congrArg String.toList h
  rw [toList_quote_dot_quote, ← List.append_nil (quote a).toList] at hl
  exact List.cons_ne_nil _ _ (quote_append_inj (by simp) (by simp) hl).2.symm

/-- A written column splits back into its table and column one way only. -/
theorem columnText_inj {m m' : TableMap} {c c' : String}
    (h : columnText m c = columnText m' c') : m.table = m'.table ∧ c = c' :=
  quote_dot_quote_inj h

/-- A written table splits back into its schema and table one way only; a table without a schema
is never written as one with a schema. -/
theorem tableText_inj {m m' : TableMap} (h : tableText m = tableText m') :
    m.schema = m'.schema ∧ m.table = m'.table := by
  unfold tableText at h
  by_cases hs : m.schema = "" <;> by_cases hs' : m'.schema = ""
  · simp only [hs, hs', beq_self_eq_true, if_true] at h
    exact ⟨hs.trans hs'.symm, quote_injective h⟩
  · simp only [hs, hs', beq_self_eq_true, if_true, beq_iff_eq, if_false] at h
    exact absurd h (quote_ne_quote_dot_quote _ _ _)
  · simp only [hs, hs', beq_self_eq_true, if_true, beq_iff_eq, if_false] at h
    exact absurd h.symm (quote_ne_quote_dot_quote _ _ _)
  · simp only [hs, hs', beq_iff_eq, if_false] at h
    exact quote_dot_quote_inj h

/-- Bracket quoting cannot be broken out of. Whatever text follows a quoted name, a name read
from the front starts with the quoted one; when the text does not start with `]`, the reader reads
back exactly the name and leaves exactly the text. So quoting is injective, and a written column
or table splits back into its names one way only. -/
theorem bracket_quoting_reads_back :
    (∀ (s : String) (rest n r : List Char),
      scan ((quote s).toList ++ rest) = some (n, r) → s.toList <+: n) ∧
    (∀ (s : String) (rest : List Char), rest.head? ≠ some ']' →
      scan ((quote s).toList ++ rest) = some (s.toList, rest)) ∧
    Function.Injective quote ∧
    (∀ (m m' : TableMap) (c c' : String),
      columnText m c = columnText m' c' → m.table = m'.table ∧ c = c') ∧
    (∀ m m' : TableMap, tableText m = tableText m' → m.schema = m'.schema ∧ m.table = m'.table) :=
  ⟨fun _ _ _ _ h => scan_quote_append_prefix h, fun _ _ h => scan_quote_append h, quote_injective,
    fun _ _ _ _ h => columnText_inj h, fun _ _ h => tableText_inj h⟩

theorem injected_name_reads_back :
    scan ((quote "x]; DROP TABLE y; --").toList ++ ".[c]".toList) =
      some ("x]; DROP TABLE y; --".toList, ".[c]".toList) :=
  bracket_quoting_reads_back.2.1 _ _ (by simp)

end PredicateSql.Render
