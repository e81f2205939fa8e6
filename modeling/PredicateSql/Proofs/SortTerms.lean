import Mathlib
import PredicateSql.Cli.Command
import PredicateSql.Proofs.Registration

/-! Sorting terms of the command line. A term reads as a sort exactly when it spells the entity, a
dot and the property, then nothing, a bare colon, or a colon and `asc` or `desc` in any case. An
entity whose name holds a dot therefore takes no sorting term at all. -/
namespace PredicateSql.Text

/-! ### Letters of the directions -/

theorem CaseRun.image?_eq_some {r : CaseRun} {n m : Nat} (h : r.image? n = some m) (hm : 0 < m) :
    (n : Int) + r.delta = m := by
  unfold CaseRun.image? at h
  split at h
  · cases h
    omega
  · cases h

/-- The letters of the sorting directions. -/
def directionLetters : List Char := ['a', 'c', 'd', 'e', 's']

/-- Whether a run maps to a letter only from its capital. -/
def CaseRun.lowersOnlyCapital (l : Char) (r : CaseRun) : Bool :=
  r.image? ((l.toNat : Int) - r.delta).toNat != some l.toNat ||
    ((l.toNat : Int) - r.delta).toNat + 32 == l.toNat

theorem lowerRuns_letters :
    directionLetters.all fun l => lowerRuns.all (CaseRun.lowersOnlyCapital l) := by
  decide +kernel

theorem lowerChar_ascii : ∀ c : Char, c.toNat < 128 → lowerChar c = c.toLower := by
  have h : ∀ k < 128, lowerChar (Char.ofNat k) = (Char.ofNat k).toLower := by decide +kernel
  intro c hc
  have := h c.toNat hc
  rwa [Char.ofNat_toNat] at this

theorem toLower_of_le {c : Char} (hc : 128 ≤ c.toNat) : c.toLower = c := by
  unfold Char.toLower
  rw [dif_neg]
  intro h
  have hz : c.val.toNat ≤ 90 := UInt32.le_iff_toNat_le.1 h.2
  change 128 ≤ c.val.toNat at hc
  omega

theorem letter_toNat {l : Char} (hl : l ∈ directionLetters) : 0 < l.toNat ∧ l.toNat < 128 := by
  simp only [directionLetters, List.mem_cons, List.not_mem_nil, or_false] at hl
  rcases hl with rfl | rfl | rfl | rfl | rfl <;> decide

theorem lt_of_lowerChar_eq {c l : Char} (hl : l ∈ directionLetters) (h : lowerChar c = l) :
    c.toNat < 128 := by
  have hlt := letter_toNat hl
  unfold lowerChar mapByRuns at h
  cases hf : lowerRuns.findSome? (·.image? c.toNat) with
  | none =>
    rw [hf] at h
    subst h
    exact hlt.2
  | some n =>
    rw [hf] at h
    -- the run's image is a valid code point: the letter's own
    have hn : n = l.toNat := by
      have := congrArg Char.toNat h
      rw [Char.toNat_ofNat] at this
      split at this <;> omega
    subst hn
    obtain ⟨r, hr, hri⟩ := List.exists_of_findSome?_eq_some hf
    have hsum := CaseRun.image?_eq_some hri hlt.1
    have hcheck := List.all_eq_true.1 (List.all_eq_true.1 lowerRuns_letters l hl) r hr
    have hc : c.toNat = ((l.toNat : Int) - r.delta).toNat := by omega
    simp only [CaseRun.lowersOnlyCapital, ← hc, hri, bne_self_eq_false, Bool.false_or,
      beq_iff_eq] at hcheck
    omega

theorem lowerChar_scrub_eq_iff {c l : Char} (hl : l ∈ directionLetters) :
    lowerChar (if (strayByte? c).isSome then '\uFFFD' else c) = l ↔ c.toLower = l := by
  by_cases hc : c.toNat < 128
  · have hs : strayByte? c = none := by
      unfold strayByte? strayBase
      rw [if_neg]
      simp only [Bool.and_eq_true, decide_eq_true_eq, not_and, not_le]
      omega
    rw [hs, Option.isSome_none, if_neg Bool.false_ne_true, lowerChar_ascii c hc]
  · have hlow : c.toLower = c := toLower_of_le (by omega)
    rw [hlow]
    constructor
    · intro h
      have h128 := lt_of_lowerChar_eq hl h
      split at h128
      · exact absurd h128 (by decide)
      · exact absurd h128 hc
    · rintro rfl
      exact absurd (letter_toNat hl).2 hc

theorem map_eq_iff_of_agree {α β : Type} {f g : α → β} {L : List β}
    (hfg : ∀ a, ∀ b ∈ L, f a = b ↔ g a = b) :
    ∀ {xs : List α} {w : List β}, (∀ b ∈ w, b ∈ L) → (xs.map f = w ↔ xs.map g = w)
  | [], _, _ => by simp
  | _ :: _, [], _ => by simp
  | a :: xs, b :: w, hw => by
    simp only [List.map_cons, List.cons.injEq]
    rw [hfg a b (hw b List.mem_cons_self),
      map_eq_iff_of_agree hfg fun c hc => hw c (List.mem_cons_of_mem b hc)]

/-- A text lowers to a word spelled with the letters of the directions exactly when it spells that
word in some mix of small and capital letters. -/
theorem lower_eq_iff {x w : String} (hw : ∀ l ∈ w.toList, l ∈ directionLetters) :
    lower x = w ↔ x.toList.map Char.toLower = w.toList := by
  rw [← String.toList_inj, lower, scrub, String.toList_map, String.toList_map, List.map_map]
  exact map_eq_iff_of_agree (fun c l hl => lowerChar_scrub_eq_iff hl) hw

end PredicateSql.Text

namespace PredicateSql.Cli

/-! ### Cutting at a character -/

theorem cutAt_of_not_mem {s : String} {c : Char} (h : c ∉ s.toList) :
    cutAt s c = (s, "", false) := by
  have hall : ∀ x ∈ s.toList, (x != c) = true := by
    intro x hx
    simp only [bne_iff_ne, ne_eq]
    rintro rfl
    exact h hx
  simp [cutAt, List.span_eq_takeWhile_dropWhile, List.takeWhile_eq_self_iff.2 hall,
    List.dropWhile_eq_nil_iff.2 hall]

theorem cutAt_of_toList {s : String} {c : Char} {l₁ l₂ : List Char}
    (hs : s.toList = l₁ ++ c :: l₂) (h : c ∉ l₁) :
    cutAt s c = (String.ofList l₁, String.ofList l₂, true) := by
  have hall : ∀ x ∈ l₁, (x != c) = true := by
    intro x hx
    simp only [bne_iff_ne, ne_eq]
    rintro rfl
    exact h hx
  simp [cutAt, hs, List.span_eq_takeWhile_dropWhile, List.takeWhile_append_of_pos hall,
    List.dropWhile_append_of_pos hall]

theorem cutAt_cases (s : String) (c : Char) :
    (c ∉ s.toList ∧ cutAt s c = (s, "", false)) ∨
      ∃ l₁ l₂, c ∉ l₁ ∧ s.toList = l₁ ++ c :: l₂ ∧
        cutAt s c = (String.ofList l₁, String.ofList l₂, true) := by
  by_cases hc : c ∈ s.toList
  · right
    have hsplit := List.takeWhile_append_dropWhile (p := (· != c)) (l := s.toList)
    cases hd : s.toList.dropWhile (· != c) with
    | nil =>
      rw [List.dropWhile_eq_nil_iff] at hd
      simp at hd
      exact absurd hc (fun h => hd c h rfl)
    | cons x l₂ =>
      have hx : x = c := by
        have := List.head_dropWhile_not (· != c) (l := s.toList) (by simp [hd])
        simp only [hd, List.head_cons, bne_eq_false_iff_eq] at this
        exact this
      subst hx
      have hnot : x ∉ s.toList.takeWhile (· != x) := fun hm => by
        simpa using List.mem_takeWhile_imp hm
      have hs : s.toList = s.toList.takeWhile (· != x) ++ x :: l₂ := by rw [← hd, hsplit]
      exact ⟨_, l₂, hnot, hs, cutAt_of_toList hs hnot⟩
  · exact Or.inl ⟨hc, cutAt_of_not_mem hc⟩

theorem cutAt_eq_true_iff {s a b : String} {c : Char} :
    cutAt s c = (a, b, true) ↔ c ∉ a.toList ∧ s.toList = a.toList ++ c :: b.toList := by
  constructor
  · intro h
    rcases cutAt_cases s c with ⟨-, hs⟩ | ⟨l₁, l₂, hc, hs, hcut⟩
    · rw [hs] at h
      simp at h
    · rw [hcut] at h
      simp only [Prod.mk.injEq, and_true] at h
      obtain ⟨rfl, rfl⟩ := h
      simpa using ⟨hc, hs⟩
  · rintro ⟨hc, hs⟩
    simpa using cutAt_of_toList hs hc

theorem cutAt_eq_false_iff {s a b : String} {c : Char} :
    cutAt s c = (a, b, false) ↔ c ∉ s.toList ∧ a = s ∧ b = "" := by
  constructor
  · intro h
    rcases cutAt_cases s c with ⟨hc, hs⟩ | ⟨l₁, l₂, -, -, hcut⟩
    · rw [hs] at h
      simp only [Prod.mk.injEq, and_true] at h
      exact ⟨hc, h.1.symm, h.2.symm⟩
    · rw [hcut] at h
      simp at h
  · rintro ⟨hc, rfl, rfl⟩
    exact cutAt_of_not_mem hc

/-! ### Spelling a sort -/

/-- How a sorting term spells its direction after the property, and whether it sorts ascending:
nothing, or a colon followed by nothing, `asc` or `desc` in any mix of small and capital
letters. -/
def SpellsDirection (d : String) (ascending : Bool) : Prop :=
  d = "" ∧ ascending = true ∨
    ∃ x, d = ":" ++ x ∧
      (x = "" ∧ ascending = true ∨
        x.toList.map Char.toLower = "asc".toList ∧ ascending = true ∨
        x.toList.map Char.toLower = "desc".toList ∧ ascending = false)

/-- How a sorting term on an entity spells a sort: the entity, a dot, the property and a direction,
where the entity is not empty and holds neither a dot nor a colon, and the property is not empty
and holds no colon. -/
def SpellsSort (entity term : String) (s : SortTerm) : Prop :=
  entity ≠ "" ∧ '.' ∉ entity.toList ∧ ':' ∉ entity.toList ∧
    s.property ≠ "" ∧ ':' ∉ s.property.toList ∧
    ∃ d, term = entity ++ "." ++ s.property ++ d ∧ SpellsDirection d s.ascending

/-- The direction a lowered direction word reads as: none, `asc` or `desc`. -/
def ReadsDirection (w : String) (ascending : Bool) : Prop :=
  w = "" ∧ ascending = true ∨ w = "asc" ∧ ascending = true ∨
    w = "desc" ∧ ascending = false

theorem parseSort_eq_ok_iff {entity term : String} {s : SortTerm} :
    parseSort entity term = .ok s ↔
      entity ≠ "" ∧ s.property ≠ "" ∧
        cutAt (cutAt term ':').1 '.' = (entity, s.property, true) ∧
        ReadsDirection (Text.lower (cutAt term ':').2.1) s.ascending := by
  unfold parseSort
  rcases cutAt term ':' with ⟨path, dir, found⟩
  rcases hp : cutAt path '.' with ⟨owner, prop, found'⟩
  simp only [Prod.mk.injEq]
  rw [hp]
  by_cases hcut : (!found' || owner == "" || prop == "") = true
  · rw [if_pos hcut]
    simp only [Bool.or_eq_true, Bool.not_eq_true', beq_iff_eq] at hcut
    simp only [reduceCtorEq, false_iff, not_and]
    rintro hE hP ⟨rfl, rfl, rfl⟩
    simp_all
  · rw [if_neg hcut]
    simp only [Bool.or_eq_true, Bool.not_eq_true', beq_iff_eq, not_or, Bool.not_eq_false] at hcut
    obtain ⟨⟨rfl, hE⟩, hP⟩ := hcut
    by_cases ho : owner = entity
    · subst ho
      rw [if_neg (by simp)]
      obtain ⟨property, ascending⟩ := s
      unfold ReadsDirection
      by_cases hq : prop = property
      · subst hq
        split <;> simp_all
      · split <;> simp_all
    · rw [if_pos (by simpa using ho)]
      simp [ho]

theorem readsDirection_lower_iff {x : String} {ascending : Bool} :
    ReadsDirection (Text.lower x) ascending ↔
      x = "" ∧ ascending = true ∨
        x.toList.map Char.toLower = "asc".toList ∧ ascending = true ∨
        x.toList.map Char.toLower = "desc".toList ∧ ascending = false := by
  have hempty : Text.lower x = "" ↔ x = "" := by
    rw [Text.lower_eq_iff (by simp), String.toList_empty, List.map_eq_nil_iff,
      String.toList_eq_nil_iff]
  have hasc : Text.lower x = "asc" ↔ x.toList.map Char.toLower = "asc".toList :=
    Text.lower_eq_iff (by simp [Text.directionLetters])
  have hdesc : Text.lower x = "desc" ↔ x.toList.map Char.toLower = "desc".toList :=
    Text.lower_eq_iff (by simp [Text.directionLetters])
  rw [ReadsDirection, hempty, hasc, hdesc]

/-- A term spells a sort exactly when it cuts as one and its direction reads as the sort's. -/
theorem spellsSort_iff {entity term : String} {s : SortTerm} :
    SpellsSort entity term s ↔
      entity ≠ "" ∧ s.property ≠ "" ∧
        cutAt (cutAt term ':').1 '.' = (entity, s.property, true) ∧
        ReadsDirection (Text.lower (cutAt term ':').2.1) s.ascending := by
  constructor
  · rintro ⟨hE, hEdot, hEcolon, hP, hPcolon, d, rfl, hd⟩
    have hpath : cutAt (entity ++ "." ++ s.property) '.' = (entity, s.property, true) :=
      cutAt_eq_true_iff.2 ⟨hEdot, by simp⟩
    have hnocolon : ':' ∉ (entity ++ "." ++ s.property).toList := by simp [hEcolon, hPcolon]
    rcases hd with ⟨rfl, hasc⟩ | ⟨x, rfl, hx⟩
    · rw [String.append_empty, cutAt_of_not_mem hnocolon]
      exact ⟨hE, hP, hpath, readsDirection_lower_iff.2 (.inl ⟨rfl, hasc⟩)⟩
    · have hcut : cutAt (entity ++ "." ++ s.property ++ (":" ++ x)) ':' =
          (entity ++ "." ++ s.property, x, true) := cutAt_eq_true_iff.2 ⟨hnocolon, by simp⟩
      rw [hcut]
      exact ⟨hE, hP, hpath, readsDirection_lower_iff.2 hx⟩
  · rintro ⟨hE, hP, hpath, hdir⟩
    rcases hcut : cutAt term ':' with ⟨path, dir, found⟩
    rw [hcut] at hpath hdir
    obtain ⟨hEdot, hpathList⟩ := cutAt_eq_true_iff.1 hpath
    cases found with
    | false =>
      obtain ⟨hnocolon, rfl, rfl⟩ := cutAt_eq_false_iff.1 hcut
      rw [hpathList] at hnocolon
      simp only [List.mem_append, List.mem_cons, not_or] at hnocolon
      refine ⟨hE, hEdot, hnocolon.1, hP, hnocolon.2.2, "", ?_, .inl ⟨rfl, ?_⟩⟩
      · rw [← String.toList_inj]
        simp [hpathList]
      · rcases readsDirection_lower_iff.1 hdir with ⟨-, h⟩ | ⟨h, -⟩ | ⟨h, -⟩
        · exact h
        · simp at h
        · simp at h
    | true =>
      obtain ⟨hnocolon, htermList⟩ := cutAt_eq_true_iff.1 hcut
      rw [hpathList] at hnocolon
      simp only [List.mem_append, List.mem_cons, not_or] at hnocolon
      refine ⟨hE, hEdot, hnocolon.1, hP, hnocolon.2.2, ":" ++ dir, ?_,
        .inr ⟨dir, rfl, readsDirection_lower_iff.1 hdir⟩⟩
      rw [← String.toList_inj]
      simp [htermList, hpathList]

theorem parseSort_eq_ok_iff_spellsSort {entity term : String} {s : SortTerm} :
    parseSort entity term = .ok s ↔ SpellsSort entity term s :=
  parseSort_eq_ok_iff.trans spellsSort_iff.symm

/-- A bare colon reads as no direction. -/
example : parseSort "Order" "Order.id:" = .ok ⟨"id", true⟩ := by decide +kernel

/-! ### Lists of terms -/

/-- Sorting terms on the selected entity read as sorts exactly when each spells its sort, in
order: the entity (not empty, with neither dot nor colon), a dot, the property (not empty, with
no colon), then nothing, a bare colon, or a colon and `asc` or `desc` in any letter case. Any
other term fails the whole list; in particular no term is read on an entity whose name holds a
dot. -/
theorem sort_terms_read_exactly_their_spellings (entity : String) (terms : List String)
    (sorts : List SortTerm) :
    terms.mapM (parseSort entity) = .ok sorts ↔
      List.Forall₂ (SpellsSort entity) terms sorts := by
  rw [mapM_except_eq_ok]
  simp only [parseSort_eq_ok_iff_spellsSort]

/-- On an entity whose name holds a dot, the term of entity, dot and property is refused: the
first dot cuts the entity's own name. -/
theorem dotted_entity_sort_refused :
    ["sales.orders" ++ "." ++ "id"].mapM (parseSort "sales.orders") =
      .error "sort \"sales.orders.id\": entity must be sales.orders" := by
  decide

end PredicateSql.Cli
