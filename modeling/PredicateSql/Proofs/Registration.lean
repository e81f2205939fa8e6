import Mathlib
import PredicateSql.Load.Mappings

/-! Registration is all or nothing. A batch of mappers that gets through binds every built mapping
under its entity's name and nothing else; one that does not binds nothing. Loading a mapping
document registers its entries as one batch. -/
namespace PredicateSql

theorem Mapper.build_entity {m : Mapper} {t : TableMap} (h : m.build = .ok t) :
    t.entity = m.entity := by
  unfold Mapper.build at h
  cases hf : m.fault with
  | some e =>
    rw [hf] at h
    cases h
  | none =>
    rw [hf] at h
    by_cases ht : (m.table == "") = true
    · rw [if_pos ht] at h
      cases h
    rw [if_neg ht] at h
    cases hk : m.properties.find? (fun p => p.ignored && p.key.isKey) with
    | some p =>
      rw [hk] at h
      cases h
    | none =>
      rw [hk] at h
      cases ha : m.autoMap
      · simp only [ha, Bool.false_eq_true, if_false] at h
        cases h
        rfl
      · simp only [ha, if_true] at h
        cases hp : autoMapProperties m.entity m.properties with
        | error e =>
          rw [hp] at h
          cases h
        | ok props =>
          rw [hp] at h
          cases h
          rfl

section Lists

variable {α β ε : Type}

theorem forall₂_getElem? {R : α → β → Prop} {l₁ : List α} {l₂ : List β}
    (h : List.Forall₂ R l₁ l₂) (i : Nat) : Option.Rel R l₁[i]? l₂[i]? := by
  induction h generalizing i with
  | nil => exact .none
  | cons hab _ ih =>
    cases i with
    | zero => exact .some hab
    | succ i => simpa using ih i

theorem exists_forall₂ {R : α → β → Prop} :
    ∀ {l : List α}, (∀ a ∈ l, ∃ b, R a b) → ∃ l', List.Forall₂ R l l'
  | [], _ => ⟨[], .nil⟩
  | a :: l, h => by
    obtain ⟨b, hb⟩ := h a List.mem_cons_self
    obtain ⟨l', hl'⟩ := exists_forall₂ fun x hx => h x (List.mem_cons_of_mem a hx)
    exact ⟨b :: l', .cons hb hl'⟩

theorem mapM_except_eq_ok {f : α → Except ε β} :
    ∀ {l : List α} {l' : List β}, l.mapM f = .ok l' ↔ List.Forall₂ (fun a b => f a = .ok b) l l'
  | [], l' => by simp [pure, Except.pure, eq_comm]
  | a :: l, l' => by
    rw [List.mapM_cons, List.forall₂_cons_left_iff]
    cases ha : f a with
    | error e => simp [bind, Except.bind]
    | ok b =>
      have ih := @mapM_except_eq_ok f l
      cases hl : l.mapM f with
      | error e =>
        simp only [bind, Except.bind, reduceCtorEq, false_iff, not_exists, not_and]
        intro b' l'' _ hf _
        rw [← ih, hl] at hf
        cases hf
      | ok bs =>
        simp only [bind, Except.bind, pure, Except.pure, Except.ok.injEq]
        constructor
        · rintro rfl
          exact ⟨b, bs, rfl, ih.1 hl, rfl⟩
        · rintro ⟨b', bs', hb', hf, rfl⟩
          cases hb'
          rw [← ih, hl] at hf
          cases hf
          rfl

end Lists

namespace Registry

/-- A mapper of a batch builds a mapping: it is there, and building it succeeds with the mapping. -/
def Builds (o : Option Mapper) (t : TableMap) : Prop := ∃ m, o = some m ∧ m.build = .ok t

@[simp] theorem builds_some {m : Mapper} {t : TableMap} : Builds (some m) t ↔ m.build = .ok t := by
  simp [Builds]

@[simp] theorem not_builds_none {t : TableMap} : ¬ Builds none t := by
  simp [Builds]

theorem builds_unique : Relator.RightUnique Builds := by
  rintro o t t' ⟨m, rfl, ht⟩ ⟨m', hm', ht'⟩
  cases hm'
  rw [ht] at ht'
  cases ht'
  rfl

/-- The fault of a mapper met after mappers that built `done`: it is missing, its build fails, or
it builds a name that one of them took. -/
def BatchFault (done : List TableMap) : Option Mapper → Error → Prop
  | none, err => err = .missingMapper
  | some m, err =>
    (∃ e, m.build = .error e ∧ err = .within (.register m.entity.name) e) ∨
    (∃ t, m.build = .ok t ∧ t.entity.name ∈ done.map (·.entity.name) ∧
      err = .within (.register t.entity.name) .alreadyRegistered)

theorem exists_fault_cons {o : Option Mapper} {ms : List (Option Mapper)} {done : List TableMap}
    {err : Error} :
    (∃ pre o' post ts, o :: ms = pre ++ o' :: post ∧ List.Forall₂ Builds pre ts ∧
        ((done ++ ts).map (·.entity.name)).Nodup ∧ BatchFault (done ++ ts) o' err) ↔
      ((done.map (·.entity.name)).Nodup ∧ BatchFault done o err) ∨
      ∃ t, Builds o t ∧ ∃ pre o' post ts, ms = pre ++ o' :: post ∧ List.Forall₂ Builds pre ts ∧
        ((done ++ t :: ts).map (·.entity.name)).Nodup ∧ BatchFault (done ++ t :: ts) o' err := by
  constructor
  · rintro ⟨pre, o', post, ts, hsplit, hb, hnd, hf⟩
    rcases List.cons_eq_append_iff.1 hsplit with ⟨rfl, hpost⟩ | ⟨pre', rfl, hms⟩
    · obtain ⟨rfl, rfl⟩ := List.cons.inj hpost
      cases hb
      exact .inl ⟨by simpa using hnd, by simpa using hf⟩
    · obtain ⟨t, ts', ht, hb', rfl⟩ := List.forall₂_cons_left_iff.1 hb
      exact .inr ⟨t, ht, pre', o', post, ts', hms, hb', hnd, hf⟩
  · rintro (⟨hnd, hf⟩ | ⟨t, ht, pre, o', post, ts, hms, hb, hnd, hf⟩)
    · exact ⟨[], o, ms, [], rfl, .nil, by simpa using hnd, by simpa using hf⟩
    · exact ⟨o :: pre, o', post, t :: ts, by simp [hms], .cons ht hb, hnd, hf⟩

theorem buildAll_cons_of_build {m : Mapper} {t : TableMap} (hb : m.build = .ok t)
    (ms : List (Option Mapper)) (acc : List TableMap) :
    buildAll (some m :: ms) acc =
      if t.entity.name ∈ acc.map (·.entity.name) then
        .error (.within (.register t.entity.name) .alreadyRegistered)
      else buildAll ms (t :: acc) := by
  have hany : acc.any (·.entity.name == t.entity.name) =
      decide (t.entity.name ∈ acc.map (·.entity.name)) := by
    rw [Bool.eq_iff_iff, List.any_eq_true, decide_eq_true_iff, List.mem_map]
    simp
  simp only [buildAll, hb, hany]
  by_cases hin : t.entity.name ∈ acc.map (·.entity.name) <;> simp [hin]

theorem not_nodup_of_taken {done ts : List TableMap} {t : TableMap}
    (hin : t.entity.name ∈ done.map (·.entity.name)) :
    ¬ ((done ++ t :: ts).map (·.entity.name)).Nodup := by
  intro hnd
  rw [List.map_append, List.nodup_append] at hnd
  exact hnd.2.2 _ hin _ (by simp) rfl

theorem buildAll_eq_ok {ms : List (Option Mapper)} {acc ts : List TableMap}
    (hacc : (acc.map (·.entity.name)).Nodup) :
    buildAll ms acc = .ok ts ↔ ∃ ts', List.Forall₂ Builds ms ts' ∧ ts = acc.reverse ++ ts' ∧
      (ts.map (·.entity.name)).Nodup := by
  induction ms generalizing acc with
  | nil =>
    simp only [buildAll, Except.ok.injEq, List.forall₂_nil_left_iff, exists_eq_left,
      List.append_nil]
    constructor
    · rintro rfl
      exact ⟨rfl, by simpa [List.map_reverse] using hacc⟩
    · rintro ⟨rfl, -⟩
      rfl
  | cons o ms ih =>
    cases o with
    | none => simp [buildAll, List.forall₂_cons_left_iff]
    | some m =>
      cases hb : m.build with
      | error e => simp [buildAll, hb, List.forall₂_cons_left_iff]
      | ok t =>
        rw [buildAll_cons_of_build hb]
        split
        · next hin =>
          have hin' : t.entity.name ∈ acc.reverse.map (·.entity.name) := by simpa using hin
          simp only [reduceCtorEq, false_iff, not_exists, not_and]
          rintro ts' hf rfl
          obtain ⟨t', ts'', ht', -, rfl⟩ := List.forall₂_cons_left_iff.1 hf
          rw [builds_some, hb] at ht'
          cases ht'
          exact not_nodup_of_taken hin'
        · next hout =>
          have hacc' : ((t :: acc).map (·.entity.name)).Nodup := by
            rw [List.map_cons, List.nodup_cons]
            exact ⟨hout, hacc⟩
          rw [ih hacc']
          constructor
          · rintro ⟨ts', hf, rfl, hnd⟩
            exact ⟨t :: ts', .cons (builds_some.2 hb) hf, by simp, by simpa using hnd⟩
          · rintro ⟨ts', hf, rfl, hnd⟩
            obtain ⟨t', ts'', ht', hf', rfl⟩ := List.forall₂_cons_left_iff.1 hf
            rw [builds_some, hb] at ht'
            cases ht'
            exact ⟨ts'', hf', by simp, by simpa using hnd⟩

theorem buildAll_eq_error {ms : List (Option Mapper)} {acc : List TableMap} {err : Error}
    (hacc : (acc.map (·.entity.name)).Nodup) :
    buildAll ms acc = .error err ↔ ∃ pre o post ts, ms = pre ++ o :: post ∧
      List.Forall₂ Builds pre ts ∧ ((acc.reverse ++ ts).map (·.entity.name)).Nodup ∧
      BatchFault (acc.reverse ++ ts) o err := by
  induction ms generalizing acc with
  | nil => simp [buildAll]
  | cons o ms ih =>
    have hrev : (acc.reverse.map (·.entity.name)).Nodup := by simpa [List.map_reverse] using hacc
    rw [exists_fault_cons]
    cases o with
    | none => simp [buildAll, BatchFault, hacc, eq_comm]
    | some m =>
      cases hb : m.build with
      | error e => simp [buildAll, hb, BatchFault, hacc, eq_comm]
      | ok t =>
        rw [buildAll_cons_of_build hb]
        split
        · next hin =>
          -- the mapper builds a name taken before it: no later fault can be reached
          have hin' : t.entity.name ∈ acc.reverse.map (·.entity.name) := by simpa using hin
          constructor
          · rintro ⟨⟩
            exact .inl ⟨hrev, .inr ⟨t, hb, hin', rfl⟩⟩
          · rintro (⟨-, ⟨e, he, -⟩ | ⟨t', ht', -, rfl⟩⟩ | ⟨t', ht', pre, o', post, ts, -, -, hnd, -⟩)
            · rw [hb] at he
              cases he
            · rw [hb] at ht'
              cases ht'
              rfl
            · rw [builds_some, hb] at ht'
              cases ht'
              exact absurd hnd (not_nodup_of_taken hin')
        · next hout =>
          have hout' : t.entity.name ∉ acc.reverse.map (·.entity.name) := by simpa using hout
          have hacc' : ((t :: acc).map (·.entity.name)).Nodup := by
            rw [List.map_cons, List.nodup_cons]
            exact ⟨hout, hacc⟩
          have hdone : ∀ ts : List TableMap, (t :: acc).reverse ++ ts = acc.reverse ++ t :: ts := by
            simp
          rw [ih hacc']
          constructor
          · rintro ⟨pre, o', post, ts, hms, hbs, hnd, hf⟩
            rw [hdone] at hnd hf
            exact .inr ⟨t, by simpa using hb, pre, o', post, ts, hms, hbs, hnd, hf⟩
          · rintro (⟨-, ⟨e, he, -⟩ | ⟨t', ht', hmem, -⟩⟩ |
                ⟨t', ht', pre, o', post, ts, hms, hbs, hnd, hf⟩)
            · rw [hb] at he
              cases he
            · rw [hb] at ht'
              cases ht'
              exact absurd hmem hout'
            · rw [builds_some, hb] at ht'
              cases ht'
              rw [← hdone] at hnd hf
              exact ⟨pre, o', post, ts, hms, hbs, hnd, hf⟩

theorem buildAll_nil_eq_ok {ms : List (Option Mapper)} {ts : List TableMap} :
    buildAll ms [] = .ok ts ↔ List.Forall₂ Builds ms ts ∧ (ts.map (·.entity.name)).Nodup := by
  rw [buildAll_eq_ok (by simp)]
  constructor
  · rintro ⟨ts', hf, rfl, hnd⟩
    exact ⟨by simpa using hf, by simpa using hnd⟩
  · rintro ⟨hf, hnd⟩
    exact ⟨ts, hf, by simp, hnd⟩

theorem buildAll_nil_eq_error {ms : List (Option Mapper)} {err : Error} :
    buildAll ms [] = .error err ↔ ∃ pre o post ts, ms = pre ++ o :: post ∧
      List.Forall₂ Builds pre ts ∧ (ts.map (·.entity.name)).Nodup ∧ BatchFault ts o err := by
  simpa using @buildAll_eq_error ms [] err (by simp)

/-- A registry with mappings bound under their entities' names, after its own. -/
def extend (r : Registry) (ts : List TableMap) : Registry :=
  { r with maps := r.maps ++ ts.map fun t => (t.entity.name, t) }

theorem store_eq_ok {r r' : Registry} {ts : List TableMap} :
    r.store ts = .ok r' ↔ (∀ t ∈ ts, r.find? t.entity.name = none) ∧ r' = r.extend ts := by
  unfold store
  cases hf : ts.find? (fun t => (r.find? t.entity.name).isSome) with
  | some t =>
    obtain ⟨ht, pre, post, hsplit, -⟩ := List.find?_eq_some_iff_append.1 hf
    simp only [reduceCtorEq, false_iff, not_and]
    intro hall
    have hnone := hall t (by simp [hsplit])
    simp [hnone] at ht
  | none =>
    rw [List.find?_eq_none] at hf
    simp only [Except.ok.injEq, extend]
    constructor
    · rintro rfl
      exact ⟨fun t ht => by simpa using hf t ht, rfl⟩
    · rintro ⟨-, rfl⟩
      rfl

theorem store_eq_error {r : Registry} {ts : List TableMap} {err : Error} :
    r.store ts = .error err ↔ ∃ pre t post, ts = pre ++ t :: post ∧
      (∀ t' ∈ pre, r.find? t'.entity.name = none) ∧ (r.find? t.entity.name).isSome ∧
      err = .within (.register t.entity.name) .alreadyRegistered := by
  unfold store
  cases hf : ts.find? (fun t => (r.find? t.entity.name).isSome) with
  | some t =>
    obtain ⟨ht, pre, post, hsplit, hpre⟩ := List.find?_eq_some_iff_append.1 hf
    simp only [Except.error.injEq]
    constructor
    · rintro rfl
      exact ⟨pre, t, post, hsplit, fun t' h => by simpa using hpre t' h, ht, rfl⟩
    · rintro ⟨pre', t', post', hsplit', hpre', ht', rfl⟩
      have : ts.find? (fun t => (r.find? t.entity.name).isSome) = some t' :=
        List.find?_eq_some_iff_append.2 ⟨ht', pre', post', hsplit', fun a ha => by simp [hpre' a ha]⟩
      rw [hf] at this
      cases this
      rfl
  | none =>
    rw [List.find?_eq_none] at hf
    simp only [reduceCtorEq, false_iff, not_exists, not_and]
    rintro pre t post rfl - ht -
    exact hf t (by simp) ht

/-- The fault registering a batch reports: the first fault of a mapper, in list order, met after the
mappers before it built with distinct names; or, once every mapper has built with distinct names,
the first built name, in list order, that is bound already. -/
def FirstFault (r : Registry) (ms : List (Option Mapper)) (err : Error) : Prop :=
  (∃ pre o post ts, ms = pre ++ o :: post ∧ List.Forall₂ Builds pre ts ∧
      (ts.map (·.entity.name)).Nodup ∧ BatchFault ts o err) ∨
  ∃ ts, List.Forall₂ Builds ms ts ∧ (ts.map (·.entity.name)).Nodup ∧ r.store ts = .error err

theorem register_eq_ok {r r' : Registry} {ms : List (Option Mapper)} :
    r.register ms = .ok r' ↔ ∃ ts, List.Forall₂ Builds ms ts ∧ (ts.map (·.entity.name)).Nodup ∧
      (∀ t ∈ ts, r.find? t.entity.name = none) ∧ r' = r.extend ts := by
  simp only [register, bind, Except.bind]
  cases hbuild : buildAll ms [] with
  | error e =>
    simp only [reduceCtorEq, false_iff, not_exists, not_and]
    intro ts hf hnd _ _
    have := buildAll_nil_eq_ok.2 ⟨hf, hnd⟩
    rw [hbuild] at this
    cases this
  | ok ts =>
    obtain ⟨hf, hnd⟩ := buildAll_nil_eq_ok.1 hbuild
    rw [store_eq_ok]
    constructor
    · rintro ⟨hfree, rfl⟩
      exact ⟨ts, hf, hnd, hfree, rfl⟩
    · rintro ⟨ts', hf', -, hfree, rfl⟩
      obtain rfl : ts' = ts := List.right_unique_forall₂' builds_unique hf' hf
      exact ⟨hfree, rfl⟩

theorem register_eq_error {r : Registry} {ms : List (Option Mapper)} {err : Error} :
    r.register ms = .error err ↔ r.FirstFault ms err := by
  simp only [register, bind, Except.bind, FirstFault]
  cases hbuild : buildAll ms [] with
  | error e =>
    have hfault := @buildAll_nil_eq_error ms err
    rw [hbuild, Except.error.injEq] at hfault
    simp only [Except.error.injEq]
    rw [hfault]
    constructor
    · exact .inl
    · rintro (h | ⟨ts, hf, hnd, -⟩)
      · exact h
      · rw [buildAll_nil_eq_ok.2 ⟨hf, hnd⟩] at hbuild
        cases hbuild
  | ok ts =>
    obtain ⟨hf, hnd⟩ := buildAll_nil_eq_ok.1 hbuild
    constructor
    · intro h
      exact .inr ⟨ts, hf, hnd, h⟩
    · rintro (hfault | ⟨ts', hf', -, h⟩)
      · rw [← buildAll_nil_eq_error, hbuild] at hfault
        cases hfault
      · obtain rfl : ts' = ts := List.right_unique_forall₂' builds_unique hf' hf
        exact h

/-- Why registering a batch is refused: a mapper is missing, a build fails, two mappers build one
name, or a built name is bound already. -/
def Refused (r : Registry) (ms : List (Option Mapper)) : Prop :=
  none ∈ ms ∨ (∃ (m : Mapper) (e : Error), some m ∈ ms ∧ m.build = .error e) ∨
  (∃ (i j : Nat) (m m' : Mapper) (t t' : TableMap), i < j ∧ ms[i]? = some (some m) ∧
      ms[j]? = some (some m') ∧ m.build = .ok t ∧ m'.build = .ok t' ∧
      t.entity.name = t'.entity.name) ∨
  (∃ (m : Mapper) (t : TableMap), some m ∈ ms ∧ m.build = .ok t ∧ (r.find? t.entity.name).isSome)

theorem builds_getElem? {ms : List (Option Mapper)} {ts : List TableMap}
    (hf : List.Forall₂ Builds ms ts) {i : Nat} {t : TableMap} (ht : ts[i]? = some t) :
    ∃ m, ms[i]? = some (some m) ∧ m.build = .ok t := by
  have hrel := forall₂_getElem? hf i
  rw [ht] at hrel
  generalize ms[i]? = om at hrel
  cases hrel with
  | some hb =>
    obtain ⟨m, rfl, hm⟩ := hb
    exact ⟨m, rfl, hm⟩

theorem builds_at {ms : List (Option Mapper)} {ts : List TableMap}
    (hf : List.Forall₂ Builds ms ts) {i : Nat} {o : Option Mapper} (hi : ms[i]? = some o) :
    ∃ t, ts[i]? = some t ∧ Builds o t := by
  have hrel := forall₂_getElem? hf i
  rw [hi] at hrel
  generalize ts[i]? = ot at hrel
  cases hrel with
  | some hb => exact ⟨_, rfl, hb⟩

/-- The mappers of a batch all build, with distinct names none of which is bound, exactly when the
batch is not refused. -/
theorem exists_builds_iff_not_refused {r : Registry} {ms : List (Option Mapper)} :
    (∃ ts, List.Forall₂ Builds ms ts ∧ (ts.map (·.entity.name)).Nodup ∧
      ∀ t ∈ ts, r.find? t.entity.name = none) ↔ ¬ r.Refused ms := by
  constructor
  · rintro ⟨ts, hf, hnd, hfree⟩
      (hnone | ⟨m, e, hm, he⟩ | ⟨i, j, m, m', t, t', hij, hi, hj, ht, ht', hname⟩ |
        ⟨m, t, hm, ht, hbound⟩)
    · -- a missing mapper builds nothing
      obtain ⟨i, hi⟩ := List.mem_iff_getElem?.1 hnone
      obtain ⟨t, -, hb⟩ := builds_at hf hi
      exact not_builds_none hb
    · -- nor does a mapper whose build fails
      obtain ⟨i, hi⟩ := List.mem_iff_getElem?.1 hm
      obtain ⟨t, -, hb⟩ := builds_at hf hi
      rw [builds_some, he] at hb
      cases hb
    · -- two mappers of one name put that name twice among the built ones
      obtain ⟨u, hu, hbu⟩ := builds_at hf hi
      obtain ⟨u', hu', hbu'⟩ := builds_at hf hj
      rw [builds_some, ht] at hbu
      rw [builds_some, ht'] at hbu'
      cases hbu
      cases hbu'
      have hlen : j < ts.length := (List.getElem?_eq_some_iff.1 hu').1
      refine List.nodup_iff_getElem?_ne_getElem?.1 hnd i j hij (by simpa using hlen) ?_
      simp [hu, hu', hname]
    · -- and a built name that is bound is not free
      obtain ⟨i, hi⟩ := List.mem_iff_getElem?.1 hm
      obtain ⟨u, hu, hbu⟩ := builds_at hf hi
      rw [builds_some, ht] at hbu
      cases hbu
      rw [hfree t (List.mem_of_getElem? hu)] at hbound
      cases hbound
  · intro hno
    simp only [Refused, not_or, not_exists, not_and] at hno
    obtain ⟨hnone, hfail, hdup, hbound⟩ := hno
    obtain ⟨ts, hf⟩ : ∃ ts, List.Forall₂ Builds ms ts := by
      refine exists_forall₂ fun o ho => ?_
      cases o with
      | none => exact absurd ho hnone
      | some m =>
        cases hb : m.build with
        | ok t => exact ⟨t, m, rfl, hb⟩
        | error e => exact absurd hb (hfail m e ho)
    refine ⟨ts, hf, ?_, fun t ht => ?_⟩
    · -- names at two positions differ, or the mappers there would build one name
      rw [List.nodup_iff_getElem?_ne_getElem?]
      intro i j hij hj heq
      have hj' : j < ts.length := by simpa using hj
      have hi' : i < ts.length := by omega
      obtain ⟨m, hmi, hbi⟩ := builds_getElem? hf (List.getElem?_eq_getElem hi')
      obtain ⟨m', hmj, hbj⟩ := builds_getElem? hf (List.getElem?_eq_getElem hj')
      refine hdup i j m m' _ _ hij hmi hmj hbi hbj ?_
      simpa [List.getElem?_map, List.getElem?_eq_getElem hj', List.getElem?_eq_getElem hi'] using heq
    · obtain ⟨i, hi⟩ := List.mem_iff_getElem?.1 ht
      obtain ⟨m, hmi, hb⟩ := builds_getElem? hf hi
      exact Option.not_isSome_iff_eq_none.1 (hbound m t (List.mem_of_getElem? hmi) hb)

theorem register_fails_iff {r : Registry} {ms : List (Option Mapper)} :
    (∃ err, r.register ms = .error err) ↔ r.Refused ms := by
  have hsucc : (∃ r', r.register ms = .ok r') ↔ ¬ r.Refused ms := by
    rw [← exists_builds_iff_not_refused]
    constructor
    · rintro ⟨r', h⟩
      obtain ⟨ts, hf, hnd, hfree, -⟩ := register_eq_ok.1 h
      exact ⟨ts, hf, hnd, hfree⟩
    · rintro ⟨ts, hf, hnd, hfree⟩
      exact ⟨_, register_eq_ok.2 ⟨ts, hf, hnd, hfree, rfl⟩⟩
  constructor
  · rintro ⟨err, h⟩
    by_contra hno
    obtain ⟨r', h'⟩ := hsucc.2 hno
    rw [h] at h'
    cases h'
  · intro hre
    cases h : r.register ms with
    | error err => exact ⟨err, rfl⟩
    | ok r' => exact absurd hre (hsucc.1 ⟨r', h⟩)

end Registry

theorem EntityEntry.mapper_unique :
    Relator.RightUnique fun (e : EntityEntry) (m : Mapper) => e.mapper = .ok m := by
  intro e m m' hm hm'
  rw [hm] at hm'
  cases hm'
  rfl

theorem mappersOf_eq_ok {es : List EntityEntry} {ms : List Mapper} :
    mappersOf es = .ok ms ↔ List.Forall₂ (fun e m => e.mapper = .ok m) es ms := by
  unfold mappersOf
  rw [mapM_except_eq_ok]
  -- the position given to an entry only labels its failure
  suffices h : ∀ (is : List Nat) (ms : List Mapper), es.length ≤ is.length →
      (List.Forall₂ (fun (p : EntityEntry × Nat) m =>
          p.1.mapper.mapError (Error.within (.entry p.2)) = .ok m) (es.zip is) ms ↔
        List.Forall₂ (fun e m => e.mapper = .ok m) es ms) from
    h _ ms (by simp)
  induction es with
  | nil => simp
  | cons e es ih =>
    intro is ms hlen
    cases is with
    | nil => simp at hlen
    | cons i is =>
      simp only [List.zip_cons_cons, List.forall₂_cons_left_iff]
      have hmap : ∀ m, e.mapper.mapError (Error.within (.entry i)) = .ok m ↔ e.mapper = .ok m := by
        intro m
        cases e.mapper <;> simp [Except.mapError]
      simp only [hmap]
      constructor
      · rintro ⟨m, ms', hm, hf, rfl⟩
        exact ⟨m, ms', hm, (ih is ms' (by simpa using hlen)).1 hf, rfl⟩
      · rintro ⟨m, ms', hm, hf, rfl⟩
        exact ⟨m, ms', hm, (ih is ms' (by simpa using hlen)).2 hf, rfl⟩

theorem exists_mappers_iff {es : List EntityEntry} :
    (∃ ms, List.Forall₂ (fun e m => e.mapper = .ok m) es ms) ↔
      ¬ ∃ en ∈ es, ∃ err, en.mapper = .error err := by
  constructor
  · rintro ⟨ms, hf⟩ ⟨en, hen, err, herr⟩
    obtain ⟨i, hi⟩ := List.mem_iff_getElem?.1 hen
    have hrel := forall₂_getElem? hf i
    rw [hi] at hrel
    generalize ms[i]? = om at hrel
    cases hrel with
    | some hm =>
      rw [herr] at hm
      cases hm
  · intro hno
    refine exists_forall₂ fun en hen => ?_
    cases hm : en.mapper with
    | ok m => exact ⟨m, rfl⟩
    | error err => exact absurd ⟨en, hen, err, hm⟩ hno

namespace Registry

theorem loadMappings_eq_ok {r r' : Registry} {text : String} :
    r.loadMappings text = .ok r' ↔ ∃ es ms ts, readMappings text = .ok es ∧
      List.Forall₂ (fun e m => e.mapper = .ok m) es ms ∧
      List.Forall₂ (fun m t => m.build = .ok t) ms ts ∧ (ts.map (·.entity.name)).Nodup ∧
      (∀ t ∈ ts, r.find? t.entity.name = none) ∧ r' = r.extend ts := by
  simp only [loadMappings, bind, Except.bind]
  cases hread : readMappings text with
  | error e => simp
  | ok es =>
    simp only [Except.ok.injEq, exists_and_left, exists_eq_left']
    cases hms : mappersOf es with
    | error e =>
      simp only [reduceCtorEq, false_iff, not_exists, not_and]
      intro ms hf
      rw [← mappersOf_eq_ok, hms] at hf
      cases hf
    | ok ms =>
      have hf := mappersOf_eq_ok.1 hms
      simp only
      rw [register_eq_ok]
      simp only [List.forall₂_map_left_iff, builds_some]
      constructor
      · rintro ⟨ts, hb, hnd, hfree, rfl⟩
        exact ⟨ms, hf, ts, hb, hnd, hfree, rfl⟩
      · rintro ⟨ms', hf', ts, hb, hnd, hfree, rfl⟩
        obtain rfl : ms' = ms := List.right_unique_forall₂' EntityEntry.mapper_unique hf' hf
        exact ⟨ts, hb, hnd, hfree, rfl⟩

/-- Loading a mapping document fails exactly when the document does not read, an entity entry
gives no mapper, or the batch of mappers is refused. -/
theorem loadMappings_fails_iff {r : Registry} {text : String} :
    (∃ err, r.loadMappings text = .error err) ↔ (∃ e, readMappings text = .error e) ∨
      ∃ es, readMappings text = .ok es ∧ ((∃ en ∈ es, ∃ e, en.mapper = .error e) ∨
        ∃ ms, List.Forall₂ (fun e m => e.mapper = .ok m) es ms ∧ r.Refused (ms.map some)) := by
  simp only [loadMappings, bind, Except.bind]
  cases hread : readMappings text with
  | error e => simp
  | ok es =>
    simp only [reduceCtorEq, exists_false, Except.ok.injEq, exists_eq_left', false_or]
    cases hms : mappersOf es with
    | error e =>
      have hno : ¬ ∃ ms, List.Forall₂ (fun e m => e.mapper = .ok m) es ms := by
        rintro ⟨ms, hf⟩
        rw [← mappersOf_eq_ok, hms] at hf
        cases hf
      rw [exists_mappers_iff, not_not] at hno
      exact ⟨fun _ => .inl hno, fun _ => ⟨e, rfl⟩⟩
    | ok ms =>
      have hf := mappersOf_eq_ok.1 hms
      simp only
      rw [register_fails_iff]
      constructor
      · intro hre
        exact .inr ⟨ms, hf, hre⟩
      · rintro (hbad | ⟨ms', hf', hre⟩)
        · exact absurd ⟨ms, hf⟩ (exists_mappers_iff.not.2 (not_not.2 hbad))
        · obtain rfl : ms' = ms := List.right_unique_forall₂' EntityEntry.mapper_unique hf' hf
          exact hre

end Registry

/-- Registration is all or nothing. Registering a batch of mappers either binds the mapping of
every mapper under its entity's name and nothing else, or fails and the registry is kept as it
was. It fails exactly when a mapper is missing, a build fails, two mappers build one name or a
built name is bound already, and it reports the first fault in list order, names already bound
being checked only once every mapper has built. Loading a mapping document likewise binds the
mapping of every entity entry, or fails and binds nothing: exactly when the document does not
read, an entry gives no mapper, or their batch is refused. -/
theorem registration_is_all_or_nothing (r : Registry) (ms : List (Option Mapper)) (text : String) :
    (∀ r', r.register ms = .ok r' ↔ ∃ ts, List.Forall₂ Registry.Builds ms ts ∧
        (ts.map (·.entity.name)).Nodup ∧ (∀ t ∈ ts, r.find? t.entity.name = none) ∧
        r' = r.extend ts) ∧
      (∀ err, r.register ms = .error err ↔ r.FirstFault ms err) ∧
      ((∃ err, r.register ms = .error err) ↔ r.Refused ms) ∧
      (∀ r', r.loadMappings text = .ok r' ↔ ∃ es ms ts, readMappings text = .ok es ∧
        List.Forall₂ (fun e m => e.mapper = .ok m) es ms ∧
        List.Forall₂ (fun m t => m.build = .ok t) ms ts ∧ (ts.map (·.entity.name)).Nodup ∧
        (∀ t ∈ ts, r.find? t.entity.name = none) ∧ r' = r.extend ts) ∧
      ((∃ err, r.loadMappings text = .error err) ↔ (∃ e, readMappings text = .error e) ∨
        ∃ es, readMappings text = .ok es ∧ ((∃ en ∈ es, ∃ e, en.mapper = .error e) ∨
          ∃ ms, List.Forall₂ (fun e m => e.mapper = .ok m) es ms ∧ r.Refused (ms.map some))) :=
  ⟨fun _ => Registry.register_eq_ok, fun _ => Registry.register_eq_error,
    Registry.register_fails_iff, fun _ => Registry.loadMappings_eq_ok,
    Registry.loadMappings_fails_iff⟩

end PredicateSql
