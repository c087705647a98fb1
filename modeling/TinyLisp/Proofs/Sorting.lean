import Mathlib
import TinyLisp.Proofs.ListFunctions

/-!
# Sorting in the prelude
-/

namespace TinyLisp

namespace Prelude

open Eval

/-- The items of `xs` inserted one by one, first to last, into `ys`. -/
def insertAll (xs ys : List Int) : List Int :=
  xs.foldl (fun acc x => acc.orderedInsert (· ≤ ·) x) ys

@[simp]
theorem insertAll_nil (ys : List Int) : insertAll [] ys = ys := rfl

@[simp]
theorem insertAll_cons (x : Int) (xs ys : List Int) :
    insertAll (x :: xs) ys = insertAll xs (ys.orderedInsert (· ≤ ·) x) := rfl

theorem pairwise_insertAll (xs : List Int) :
    ∀ {ys : List Int}, ys.Pairwise (· ≤ ·) → (insertAll xs ys).Pairwise (· ≤ ·) := by
  induction xs with
  | nil => exact fun h => h
  | cons x xs ih => exact fun h => ih (h.orderedInsert x)

theorem perm_insertAll (xs : List Int) : ∀ ys : List Int, (insertAll xs ys).Perm (xs ++ ys) := by
  induction xs with
  | nil => exact fun ys => .refl ys
  | cons x xs ih =>
    intro ys
    calc insertAll (x :: xs) ys
        _ = insertAll xs (ys.orderedInsert (· ≤ ·) x) := insertAll_cons x xs ys
        List.Perm _ (xs ++ ys.orderedInsert (· ≤ ·) x) := ih _
        List.Perm _ (xs ++ x :: ys) := (List.perm_orderedInsert _ x ys).append_left xs
        List.Perm _ (x :: xs ++ ys) := List.perm_middle

variable {st : Store}

theorem returns_not (v : Value) :
    Returns notDef [v] st (.bool !v.truthy) (st.extend 0 (notDef.params.zip [v])).1 := by
  refine ⟨rfl, .ite (.lookup (lookup_param rfl)) ?_⟩
  cases v.truthy
  · exact .bool true
  · exact .bool false

theorem returns_atMost {a b : Int} (ha : Decimal.hasText a = true) (hb : Decimal.hasText b = true)
    (hL : Loaded st) :
    ∃ st', Returns atMostDef [.int a, .int b] st (.bool (decide (a ≤ b))) st' := by
  -- `(> a b)` is `b < a`, and `not` turns it into `a ≤ b`
  have hv : (!(Value.bool (decide (b < a))).truthy) = decide (a ≤ b) := by
    simp only [Value.truthy, ← decide_not, Int.not_lt]
  rw [← hv]
  exact ⟨_, rfl, hL.call_in_body atMostDef _ notDef (by simp [defs]) (by decide) .refl
    (.cons (.greater (.lookup (lookup_param rfl)) (.lookup (lookup_param rfl)) ha hb) .nil)
    (returns_not _)⟩

theorem returns_insert {x : Int} (hx : Decimal.hasText x = true) :
    ∀ (l : List Int) (st : Store), Loaded st → (∀ y ∈ l, Decimal.hasText y = true) →
      ∃ st', Returns insertDef [.int x, .list (l.map .int)] st
        (.list ((l.orderedInsert (· ≤ ·) x).map .int)) st' := by
  intro l
  induction l with
  | nil =>
    intro st hL _
    exact ⟨_, rfl, .ite_true (.empty (.lookup (lookup_param rfl))) rfl
      (hL.call_in_body insertDef _ listDef (by simp [defs]) (by decide) .refl
        (.cons (.lookup (lookup_param rfl)) .nil) (returns_list _))⟩
  | cons y l ih =>
    intro st hL hl
    set c := st.extend 0 (insertDef.params.zip [.int x, .list ((y :: l).map .int)])
    have hc : Loaded c.1 := hL.steps (steps_extend _)
    have he : c.1.lookup c.2 "element" = some (.int x) := lookup_param rfl
    have hl' : c.1.lookup c.2 "l" = some (.list (.int y :: l.map .int)) := lookup_param rfl
    obtain ⟨st₁, hr⟩ := returns_atMost hx (hl y List.mem_cons_self) hc
    have hcmp : Evaluates c.2 (.list [.sym "<=", .sym "element", .list [.sym "head", .sym "l"]]) c.1
        (.bool (decide (x ≤ y))) st₁ :=
      hL.call_in_body insertDef _ atMostDef (by simp [defs]) (by decide) .refl
        (.cons (.lookup he) (.cons (.head (.lookup hl')) .nil)) hr
    have hs₁ := hcmp.steps
    by_cases hxy : x ≤ y
    · -- the integer goes first
      rw [List.orderedInsert_cons_of_le _ _ hxy]
      exact ⟨st₁, rfl, .ite_false (.empty (.lookup hl')) rfl
        (.ite_true hcmp (decide_eq_true hxy)
          (.cons (.lookup (steps_lookup_eq hs₁ he)) (.lookup (steps_lookup_eq hs₁ hl'))))⟩
    · -- the head goes first, then the integer inserted into the tail
      have hone : Evaluates c.2 (.list [.sym "list", .list [.sym "head", .sym "l"]]) st₁
          (.list [.int y]) _ :=
        hL.call_in_body insertDef _ listDef (by simp [defs]) (by decide) hs₁
          (.cons (.head (.lookup (steps_lookup_eq hs₁ hl'))) .nil) (returns_list _)
      have hs₂ := hs₁.trans hone.steps
      obtain ⟨st₃, hrec⟩ := ih _ (hc.steps hs₂) fun z hz => hl z (List.mem_cons_of_mem y hz)
      have hrest : Evaluates c.2
          (.list [.sym "_insert", .sym "element", .list [.sym "tail", .sym "l"]]) _
          (.list ((l.orderedInsert (· ≤ ·) x).map .int)) st₃ :=
        hL.call_in_body insertDef _ insertDef (by simp [defs]) (by decide) hs₂
          (.cons (.lookup (steps_lookup_eq hs₂ he))
            (.cons (.tail (.lookup (steps_lookup_eq hs₂ hl'))) .nil)) hrec
      obtain ⟨st₄, hap⟩ :=
        returns_append _ [.int y] st₃ (hc.steps (hs₂.trans hrest.steps))
      rw [List.orderedInsert_of_not_le _ _ hxy]
      exact ⟨st₄, rfl, .ite_false (.empty (.lookup hl')) rfl
        (.ite_false hcmp (decide_eq_false hxy)
          (hL.call_in_body insertDef _ appendDef (by simp [defs]) (by decide) hs₁
            (.cons hone (.cons hrest .nil)) hap))⟩

theorem returns_merge :
    ∀ (xs ys : List Int) (st : Store), Loaded st → (∀ x ∈ xs, Decimal.hasText x = true) →
      (∀ y ∈ ys, Decimal.hasText y = true) →
      ∃ st', Returns mergeDef [.list (xs.map .int), .list (ys.map .int)] st
        (.list ((insertAll xs ys).map .int)) st' := by
  intro xs
  induction xs with
  | nil =>
    intro ys st hL _ _
    exact ⟨_, rfl, .ite_true (.empty (.lookup (lookup_param rfl))) rfl
      (.head (hL.call_in_body mergeDef _ listDef (by simp [defs]) (by decide) .refl
        (.cons (.lookup (lookup_param rfl)) .nil) (returns_list _)))⟩
  | cons x xs ih =>
    intro ys st hL hxs hys
    set c := st.extend 0 (mergeDef.params.zip [.list ((x :: xs).map .int), .list (ys.map .int)])
    have hc : Loaded c.1 := hL.steps (steps_extend _)
    have ha : c.1.lookup c.2 "a" = some (.list (.int x :: xs.map .int)) := lookup_param rfl
    have hb : c.1.lookup c.2 "b" = some (.list (ys.map .int)) := lookup_param rfl
    obtain ⟨st₁, hr⟩ := returns_insert (hxs x List.mem_cons_self) ys c.1 hc hys
    have hstep : Evaluates c.2 (.list [.sym "_insert", .list [.sym "head", .sym "a"], .sym "b"]) c.1
        (.list ((ys.orderedInsert (· ≤ ·) x).map .int)) st₁ :=
      hL.call_in_body mergeDef _ insertDef (by simp [defs]) (by decide) .refl
        (.cons (.head (.lookup ha)) (.cons (.lookup hb) .nil)) hr
    have hys' : ∀ y ∈ ys.orderedInsert (· ≤ ·) x, Decimal.hasText y = true := by
      intro y hy
      rcases (List.mem_orderedInsert _).1 hy with rfl | hy
      · exact hxs y List.mem_cons_self
      · exact hys y hy
    obtain ⟨st₂, hrest⟩ := ih _ st₁ (hc.steps hstep.steps)
      (fun z hz => hxs z (List.mem_cons_of_mem x hz)) hys'
    rw [insertAll_cons]
    exact ⟨st₂, rfl, .ite_false (.empty (.lookup ha)) rfl
      (hL.call_in_body mergeDef _ mergeDef (by simp [defs]) (by decide) .refl
        (.cons (.tail (.lookup ha)) (.cons hstep .nil)) hrest)⟩

theorem returns_sort (xs : List Int) (hL : Loaded st)
    (hxs : ∀ x ∈ xs, Decimal.hasText x = true) :
    ∃ st', Returns sortDef [.list (xs.map .int)] st (.list ((insertAll xs []).map .int)) st' := by
  cases xs with
  | nil => exact ⟨_, rfl, .ite_true (.empty (.lookup (lookup_param rfl))) rfl (.quote _)⟩
  | cons x xs =>
    set c := st.extend 0 (sortDef.params.zip [.list ((x :: xs).map .int)])
    have hl : c.1.lookup c.2 "l" = some (.list (.int x :: xs.map .int)) := lookup_param rfl
    obtain ⟨st', hr⟩ := returns_merge (x :: xs) [] c.1 (hL.steps (steps_extend _)) hxs (by simp)
    exact ⟨st', rfl, .ite_false (.empty (.lookup hl)) rfl
      (hL.call_in_body sortDef _ mergeDef (by simp [defs]) (by decide) .refl
        (.cons (.lookup hl) (.cons (.quote (.list [])) .nil)) hr)⟩

/-- `sort`, called by its name on a quoted list of integers that have decimal texts (every integer
a request can hold has one), in a frame where the name means what it means in frame `0`, from a
store whose frame `0` holds the prelude, returns the integers in order from least to greatest,
each as often as it was given. -/
theorem evaluates_sort_sorted_perm (st : Store) (env : FrameId) (hL : Loaded st)
    (henv : st.lookup env "sort" = st.lookup 0 "sort") (xs : List Int)
    (hxs : ∀ x ∈ xs, Decimal.hasText x = true) :
    ∃ (ys : List Int) (st' : Store),
      Evaluates env (.list [.sym "sort", quoteOf (.list (xs.map .int))]) st
        (.list (ys.map .int)) st' ∧ ys.Pairwise (· ≤ ·) ∧ ys.Perm xs := by
  obtain ⟨st', hr⟩ := returns_sort xs hL hxs
  refine ⟨insertAll xs [], st', hr.evaluates hL (by simp [defs]) henv, ?_, ?_⟩
  · exact pairwise_insertAll xs List.Pairwise.nil
  · simpa using perm_insertAll xs []

/-- `(sort '(3 1 2))` in a session started with the prelude. -/
theorem evaluates_sort_three_one_two :
    ∃ (ys : List Int) (st' : Store),
      Evaluates 0 (.list [.sym "sort", quoteOf (.list (([3, 1, 2] : List Int).map .int))])
        (Session.start true) (.list (ys.map .int)) st' ∧
        ys.Pairwise (· ≤ ·) ∧ ys.Perm [3, 1, 2] :=
  evaluates_sort_sorted_perm (Session.start true) 0 loaded_start rfl [3, 1, 2] (by decide +kernel)

theorem not_evaluates_of_runFresh {e : Value} {f : Fault}
    (h : Session.runFresh true (Session.evalTop e) = .error f) (hf : f ≠ .outOfFuel) (v : Value)
    (st' : Store) : ¬Evaluates 0 e (Session.start true) v st' := by
  unfold Session.runFresh at h
  split at h
  · cases h
  · rename_i f' st₁ hrun
    cases h
    exact not_evaluates_of_error hrun hf v

/-- A list that holds `10 ^ maxDigits`, an integer with no decimal text, does not sort: comparing
`1` with it fails, so `(sort '(10^4300 1))` evaluates to nothing. -/
theorem sort_past_limit_evaluates_nothing :
    ¬∃ v st', Evaluates 0 (.list [.sym "sort", quoteOf (.list [.int Decimal.limit, .int 1])])
      (Session.start true) v st' := by
  have h : Session.runFresh true
      (Session.evalTop (.list [.sym "sort", quoteOf (.list [.int Decimal.limit, .int 1])])) =
      .error .textTooLong := by
    rw [Session.runFresh, start_prelude]
    decide +kernel
  rintro ⟨v, st', hv⟩
  exact not_evaluates_of_runFresh h (by decide) v st' hv

end Prelude

end TinyLisp
