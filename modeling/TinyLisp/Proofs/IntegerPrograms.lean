import Mathlib
import TinyLisp.Proofs.Booleans
import TinyLisp.Proofs.ListFunctions
import TinyLisp.Proofs.PrintRead

/-!
# Two recursive integer programs

`gcd` by Euclid's algorithm and `fact`, defined in a session and called on integers that
have decimal texts.
-/

namespace TinyLisp

namespace Programs

open Eval Prelude

/-! ## Euclid's algorithm with the remainder rounded down -/

theorem natAbs_fmod_lt (a : Int) {b : Int} (hb : b ≠ 0) : (a.fmod b).natAbs < b.natAbs := by
  rcases Int.lt_or_gt_of_ne hb with hneg | hpos
  · -- a negative divisor: the remainder of the operands negated, negated
    have h := Int.neg_fmod_neg (-a) (-b)
    rw [Int.neg_neg, Int.neg_neg] at h
    have h₀ := Int.fmod_nonneg_of_pos (-a) (Int.neg_pos.2 hneg)
    have h₁ := Int.fmod_lt_of_pos (-a) (Int.neg_pos.2 hneg)
    omega
  · have h₀ := Int.fmod_nonneg_of_pos a hpos
    have h₁ := Int.fmod_lt_of_pos a hpos
    omega

/-- Euclid's algorithm as `gcd` runs it: `a` once `b` is `0`, and otherwise the same on `b` and
the remainder of `a` by `b`, rounded down. -/
def euclid (a b : Int) : Int :=
  if b = 0 then a else euclid b (a.fmod b)
termination_by b.natAbs
decreasing_by exact natAbs_fmod_lt a ‹_›

/-- The number of divisions `euclid a b` makes. -/
def euclidSteps (a b : Int) : Nat :=
  if b = 0 then 0 else euclidSteps b (a.fmod b) + 1
termination_by b.natAbs
decreasing_by exact natAbs_fmod_lt a ‹_›

theorem euclidSteps_zero (a : Int) : euclidSteps a 0 = 0 := by
  rw [euclidSteps, if_pos rfl]

theorem euclidSteps_of_ne (a : Int) {b : Int} (hb : b ≠ 0) :
    euclidSteps a b = euclidSteps b (a.fmod b) + 1 := by
  rw [euclidSteps, if_neg hb]

theorem gcd_fmod (a b : Int) : Int.gcd b (a.fmod b) = Int.gcd a b := by
  rw [Int.fmod_def, Int.gcd_sub_mul_left_right, Int.gcd_comm]

theorem natAbs_euclid (a b : Int) : (euclid a b).natAbs = Int.gcd a b := by
  fun_induction euclid a b with
  | case1 a => rw [Int.gcd_zero_right]
  | case2 a b _ ih => rw [ih, gcd_fmod]

theorem euclid_nonneg {a b : Int} (ha : 0 ≤ a) (hb : 0 ≤ b) : 0 ≤ euclid a b := by
  fun_induction euclid a b with
  | case1 a => exact ha
  | case2 a b _ ih => exact ih hb (Int.fmod_nonneg ha hb)

theorem euclid_natCast (a b : Nat) : euclid a b = (Nat.gcd a b : Int) := by
  have h := natAbs_euclid a b
  rw [Int.gcd_natCast_natCast] at h
  have hn := euclid_nonneg (Int.natCast_nonneg a) (Int.natCast_nonneg b)
  omega

theorem euclidSteps_natCast_of_pos (a : Nat) {b : Nat} (hb : 0 < b) :
    euclidSteps a b = euclidSteps b (a % b : Nat) + 1 := by
  rw [euclidSteps_of_ne _ (by omega), Int.ofNat_fmod]

theorem mod_mul_two_lt {m k : Nat} (hk : 0 < k) (hkm : k < m) : m % k * 2 < m := by
  by_cases h : 2 * k ≤ m
  · have := Nat.mod_lt m hk
    omega
  · have hmod : m % k = m - k := by
      rw [Nat.mod_eq_sub_mod (by omega), Nat.mod_eq_of_lt (by omega)]
    omega

theorem pow_euclidSteps_le (b : Nat) : ∀ a : Nat, 2 ^ euclidSteps a b ≤ 2 * b ^ 2 + 1 := by
  induction b using Nat.strong_induction_on with
  | _ b ih =>
    intro a
    rcases Nat.eq_zero_or_pos b with rfl | hb
    · simp [euclidSteps_zero]
    · rw [euclidSteps_natCast_of_pos a hb]
      rcases Nat.eq_zero_or_pos (a % b) with hr | hr
      · rw [hr, Nat.cast_zero, euclidSteps_zero]
        have := Nat.one_le_pow 2 b hb
        omega
      · -- two divisions on, the divisor `s` is less than half of `b`
        rw [euclidSteps_natCast_of_pos b hr, pow_succ, pow_succ]
        have hhalf := mod_mul_two_lt hr (Nat.mod_lt a hb)
        have ih' := ih (b % (a % b)) (by omega) (a % b)
        have hb2 : 2 ≤ b := by
          have := Nat.mod_lt a hb
          omega
        set s := b % (a % b)
        have hsq : (2 * s + 1) * (2 * s + 1) ≤ b * b := Nat.mul_le_mul (by omega) (by omega)
        rcases Nat.eq_zero_or_pos s with hs | hs
        · rw [hs, Nat.cast_zero, euclidSteps_zero]
          nlinarith
        · nlinarith

-- The bounds below keep the powers symbolic: none of them is worked out as a numeral.

theorem limit_eq_pow : Decimal.limit = 10 ^ maxDigits := by
  unfold Decimal.limit
  rw [Nat.pow_eq]

theorem limit_lt_two_pow : Decimal.limit < 2 ^ (10 * 1434) := by
  rw [limit_eq_pow]
  have hpow : ∀ k, k ≠ 0 → (10 ^ 3) ^ k < (2 ^ 10) ^ k := fun k hk =>
    Nat.pow_lt_pow_left (by norm_num) hk
  calc 10 ^ maxDigits ≤ 10 ^ (3 * 1434) := Nat.pow_le_pow_right (by norm_num) (by decide)
    _ = (10 ^ 3) ^ 1434 := pow_mul 10 3 1434
    _ < (2 ^ 10) ^ 1434 := hpow 1434 (by norm_num)
    _ = 2 ^ (10 * 1434) := (pow_mul 2 10 1434).symm

theorem euclidSteps_lt {a b : Nat} (hb : b < Decimal.limit) : euclidSteps a b < 28700 := by
  have h : 2 ^ euclidSteps a b < 2 ^ (10 * 1434 * 2 + 1) := calc
    2 ^ euclidSteps a b ≤ 2 * b ^ 2 + 1 := pow_euclidSteps_le b a
    _ < 2 * (2 ^ (10 * 1434)) ^ 2 := by
      have := Nat.pow_lt_pow_left (hb.trans limit_lt_two_pow) two_ne_zero
      omega
    _ = 2 ^ (10 * 1434 * 2 + 1) := by rw [pow_succ' 2 (10 * 1434 * 2), pow_mul 2 (10 * 1434) 2]
  have := (pow_lt_pow_iff_right₀ one_lt_two).1 h
  omega

theorem lt_of_factorial_lt_limit {n : Nat} (h : (n - 1).factorial < Decimal.limit) : n < 4311 := by
  by_contra hn
  -- `10 ^ k ≤ 10! * 11 ^ k ≤ (10 + k)!`, with `k` left a variable
  have hle : ∀ k, 10 ^ k ≤ (10 + k).factorial := fun k => calc
    10 ^ k ≤ (10 + 1) ^ k := Nat.pow_le_pow_left (by norm_num) k
    _ ≤ Nat.factorial 10 * (10 + 1) ^ k := Nat.le_mul_of_pos_left _ (Nat.factorial_pos 10)
    _ ≤ (10 + k).factorial := Nat.factorial_mul_pow_le_factorial
  have hd : maxDigits = 4300 := rfl
  have : Decimal.limit ≤ (n - 1).factorial := by
    rw [limit_eq_pow]
    exact (hle maxDigits).trans (Nat.factorial_le (by omega))
  omega

theorem hasText_of_lt {n : Nat} (h : n < 10 ^ 4) : Decimal.hasText (n : Int) = true := by
  rw [hasText_iff]
  exact lt_of_lt_of_le h (Nat.pow_le_pow_right (by decide) (by decide) : 10 ^ 4 ≤ _)

/-! ## The programs -/

/-- `(define gcd (lambda (a b) (if (eq b 0) a (gcd b (mod a b)))))`. -/
def gcdDef : Def where
  name := "gcd"
  params := ["a", "b"]
  body := .list [.sym "if", .list [.sym "eq", .sym "b", .int 0], .sym "a",
    .list [.sym "gcd", .sym "b", .list [.sym "mod", .sym "a", .sym "b"]]]

/-- `(define fact (lambda (n) (if (eq n 0) 1 (* n (fact (- n 1))))))`. -/
def factDef : Def where
  name := "fact"
  params := ["n"]
  body := .list [.sym "if", .list [.sym "eq", .sym "n", .int 0], .int 1,
    .list [.sym "*", .sym "n", .list [.sym "fact", .list [.sym "-", .sym "n", .int 1]]]]

/-- The program that defines `gcd`, as written, blanks and line breaks included. -/
def gcdSource : String :=
  "\n        (define gcd\n            (lambda (a b)\n                (if (eq b 0)\n                    a\n                    (gcd b (mod a b)))))\n    "

/-- The example program: its comments, the definition of `fact`, and `(fact 5)`. -/
def exampleSource : String :=
  ";; Some example DIY Lang code. By the end of the tutorial, our DIY Lang will be\n;; able to run this.\n\n;; To run the code:\n;;\n;;    ./diy example.diy\n;;\n\n(define fact\n    ;; Factorial function\n    (lambda (n)\n        (if (eq n 0)\n            1 ; Factorial of 0 is 1\n            (* n (fact (- n 1))))))\n\n;; When parsing the file, the last statement is returned\n(fact 5)\n"

set_option maxRecDepth 4000 in
theorem read_gcdSource : Reader.read gcdSource = .ok gcdDef.form := by
  have hL : gcdSource = String.ofList ?L := by unfold gcdSource; exact rfl
  rw [Reader.read, hL, String.toList_ofList, ← Reader.readByFuel_eq _ _ (Nat.lt_succ_self _)]
  decide +kernel

set_option maxRecDepth 4000 in
theorem read_exampleSource :
    Reader.readAll (String.ofList (Session.normalizeNewlines exampleSource.toList)) =
      .ok [factDef.form, .list [.sym "fact", .int 5]] := by
  have hL : exampleSource = String.ofList ?L := by unfold exampleSource; exact rfl
  rw [Reader.readAll_eq_byFuel, hL, String.toList_ofList, String.toList_ofList]
  decide +kernel

/-! ## Calls, level by level -/

section Calls

variable {env : FrameId} {st st₁ st₂ : Store}

theorem eval_sym_of_lookup {k : Nat} {name : String} {v : Value}
    (h : st.lookup env name = some v) : eval (k + 1) env (.sym name) st = .ok v st := by
  rw [eval, lookup_apply, h]

theorem eval_eqZero {k : Nat} {x : String} {m : Int} (h : st.lookup env x = some (.int m)) :
    eval (k + 2) env (.list [.sym "eq", .sym x, .int 0]) st = .ok (.bool (m == 0)) st := by
  have hx : eval (k + 1) env (.sym x) st = .ok (.int m) st := eval_sym_of_lookup h
  have hy : eval (k + 1) env (.int 0) st = .ok (.int 0) st := rfl
  exact eval_eqForm_atoms hx hy rfl rfl

theorem eval_ifForm_of_test {k : Nat} {c x y t : Value} (hc : eval k env c st = .ok t st₁) :
    eval (k + 1) env (.list [.sym "if", c, x, y]) st =
      if t.truthy then eval k env x st₁ else eval k env y st₁ := by
  rw [eval_ifForm, bind_of_ok hc]
  split <;> rfl

theorem eval_ifEqZero {k : Nat} {x : String} {m : Int} {a b : Value}
    (h : st.lookup env x = some (.int m)) :
    eval (k + 3) env (.list [.sym "if", .list [.sym "eq", .sym x, .int 0], a, b]) st =
      if m = 0 then eval (k + 2) env a st else eval (k + 2) env b st := by
  rw [eval_ifForm_of_test (eval_eqZero h)]
  by_cases hm : m = 0 <;> simp [hm, Value.truthy]

theorem mapM_cons_of_ok {g : Value → Eval Value} {x u : Value} {xs us : List Value}
    (hx : g x st = .ok u st₁) (hxs : xs.mapM g st₁ = .ok us st₂) :
    (x :: xs).mapM g st = .ok (u :: us) st₂ := by
  rw [List.mapM_cons, bind_of_ok hx, bind_of_ok hxs]
  rfl

theorem arith_sub {a b : Int} (ha : Decimal.hasText a = true) (hb : Decimal.hasText b = true) :
    arith "-" a b st = .ok (.int (a - b)) st := by
  rw [arith_of_hasText ha hb]
  rfl

theorem arith_mul {a b : Int} (ha : Decimal.hasText a = true) (hb : Decimal.hasText b = true) :
    arith "*" a b st = .ok (.int (a * b)) st := by
  rw [arith_of_hasText ha hb]
  rfl

theorem arith_textTooLong {op : String} {a b : Int} (hb : Decimal.hasText b = false) :
    arith op a b st = .error .textTooLong st := by
  unfold arith
  rw [hb, Bool.and_false]
  rfl

theorem eval_call_def {d : Def} {n F : Nat} {args vs : List Value} (hs : d.name ∉ specialForms)
    (hl : st.lookup env d.name = some (d.closure n)) (hlen : d.params.length = args.length)
    (hargs : args.mapM (eval F env) st = .ok vs st₁) :
    eval (F + 1) env (.list (.sym d.name :: args)) st =
      eval F (st₁.extend 0 (d.params.zip vs)).2 d.body (st₁.extend 0 (d.params.zip vs)).1 := by
  rw [(Callee.named hs hl).eval_call, apply_names rfl, if_pos hlen, bind_of_ok hargs,
    bind_of_ok (extend_ok 0 _)]

end Calls

theorem eval_gcdBody (a b : Int) : ∀ (F : Nat) (st : Store), Defined gcdDef st →
    2 * euclidSteps a b + 3 ≤ F →
    ∃ st', eval F (st.extend 0 (gcdDef.params.zip [.int a, .int b])).2 gcdDef.body
      (st.extend 0 (gcdDef.params.zip [.int a, .int b])).1 = .ok (.int (euclid a b)) st' := by
  fun_induction euclid a b with
  | case1 a =>
    intro F st _ hF
    obtain ⟨G, rfl⟩ : ∃ G, F = G + 2 + 1 := ⟨F - 3, by omega⟩
    set c := st.extend 0 (gcdDef.params.zip [.int a, .int 0])
    have ha : c.1.lookup c.2 "a" = some (.int a) := lookup_param rfl
    have hb : c.1.lookup c.2 "b" = some (.int 0) := lookup_param rfl
    refine ⟨c.1, (eval_ifEqZero hb).trans ?_⟩
    rw [if_pos rfl]
    exact eval_sym_of_lookup ha
  | case2 a b hb0 ih =>
    intro F st hD hF
    rw [euclidSteps_of_ne a hb0] at hF
    obtain ⟨G, rfl⟩ : ∃ G, F = G + 4 := ⟨F - 4, by omega⟩
    set c := st.extend 0 (gcdDef.params.zip [.int a, .int b])
    have ha : c.1.lookup c.2 "a" = some (.int a) := lookup_param rfl
    have hb : c.1.lookup c.2 "b" = some (.int b) := lookup_param rfl
    obtain ⟨k, hk⟩ := hD.lookup_call gcdDef [.int a, .int b] (by decide)
    have hmod : eval (G + 2) c.2 (.list [.sym "mod", .sym "a", .sym "b"]) c.1 =
        .ok (.int (a.fmod b)) c.1 := by
      rw [eval_modForm (eval_sym_of_lookup ha) (eval_sym_of_lookup hb), if_neg hb0]
    have hargs : [Value.sym "b", .list [.sym "mod", .sym "a", .sym "b"]].mapM (eval (G + 2) c.2)
        c.1 = .ok [.int b, .int (a.fmod b)] c.1 :=
      mapM_cons_of_ok (eval_sym_of_lookup hb) (mapM_cons_of_ok hmod rfl)
    obtain ⟨st', hrec⟩ := ih (G + 2) c.1 (hD.steps (steps_extend _)) (by omega)
    refine ⟨st', (eval_ifEqZero hb).trans ?_⟩
    rw [if_neg hb0]
    exact (eval_call_def (by decide) hk rfl hargs).trans hrec

theorem eval_factBody_succ {k G j : Nat} {env : FrameId} {st st' : Store} {m : Int}
    (hn : st.lookup env "n" = some (.int (k + 1 : Nat)))
    (hf : st.lookup env "fact" = some (factDef.closure j))
    (hk : Decimal.hasText ((k + 1 : Nat) : Int) = true)
    (hrec : eval (G + 2) (st.extend 0 (factDef.params.zip [.int k])).2 factDef.body
      (st.extend 0 (factDef.params.zip [.int k])).1 = .ok (.int m) st') :
    eval (G + 5) env factDef.body st = arith "*" (k + 1 : Nat) m st' := by
  have hsub : eval (G + 2) env (.list [.sym "-", .sym "n", .int 1]) st = .ok (.int k) st := by
    rw [eval_arithOp (by decide) (eval_sym_of_lookup hn) rfl, arith_sub hk hasText_one,
      Nat.cast_succ, Int.add_sub_cancel]
  have hargs : [Value.list [.sym "-", .sym "n", .int 1]].mapM (eval (G + 2) env) st =
      .ok [.int k] st :=
    mapM_cons_of_ok hsub rfl
  have hcall : eval (G + 3) env (.list [.sym "fact", .list [.sym "-", .sym "n", .int 1]]) st =
      .ok (.int m) st' :=
    (eval_call_def (by decide) hf rfl hargs).trans hrec
  refine (eval_ifEqZero hn).trans ?_
  rw [if_neg (by omega)]
  exact eval_arithOp (by decide) (eval_sym_of_lookup hn) hcall

theorem eval_factBody (n : Nat) : ∀ (F : Nat) (st : Store), Defined factDef st →
    3 * n + 3 ≤ F → Decimal.hasText n = true → Decimal.hasText (n - 1).factorial = true →
    ∃ st', eval F (st.extend 0 (factDef.params.zip [.int n])).2 factDef.body
      (st.extend 0 (factDef.params.zip [.int n])).1 = .ok (.int n.factorial) st' := by
  induction n with
  | zero =>
    intro F st _ hF _ _
    obtain ⟨G, rfl⟩ : ∃ G, F = G + 2 + 1 := ⟨F - 3, by omega⟩
    set c := st.extend 0 (factDef.params.zip [.int ((0 : Nat) : Int)])
    have hn : c.1.lookup c.2 "n" = some (.int ((0 : Nat) : Int)) := lookup_param rfl
    refine ⟨c.1, (eval_ifEqZero hn).trans ?_⟩
    rw [if_pos Nat.cast_zero]
    rfl
  | succ k ih =>
    intro F st hD hF hn ht
    obtain ⟨G, rfl⟩ : ∃ G, F = G + 5 := ⟨F - 5, by omega⟩
    set c := st.extend 0 (factDef.params.zip [.int ((k + 1 : Nat) : Int)])
    have hl : c.1.lookup c.2 "n" = some (.int ((k + 1 : Nat) : Int)) := lookup_param rfl
    obtain ⟨j, hj⟩ := hD.lookup_call factDef [.int ((k + 1 : Nat) : Int)] (by decide)
    rw [Nat.add_sub_cancel] at ht
    have hk : Decimal.hasText (k : Int) = true := by
      rw [hasText_iff] at hn ⊢
      omega
    have hk' : Decimal.hasText (k - 1).factorial = true := by
      rw [hasText_iff] at ht ⊢
      have := Nat.factorial_le (Nat.sub_le k 1)
      omega
    obtain ⟨st', hrec⟩ := ih (G + 2) c.1 (hD.steps (steps_extend _)) (by omega) hk hk'
    refine ⟨st', ?_⟩
    rw [eval_factBody_succ hl hj hn hrec, arith_mul hn ht, Nat.factorial_succ, Nat.cast_mul]

section Top

variable {st st₁ : Store}

/-- `(gcd a b)` in frame `0`, where `gcd` is defined, returns `euclid a b` given two levels of
fuel for each division and four more. -/
theorem eval_gcdCall (a b : Int) {F : Nat} (hD : Defined gcdDef st)
    (hF : 2 * euclidSteps a b + 4 ≤ F) :
    ∃ st', eval F 0 (.list [.sym "gcd", .int a, .int b]) st = .ok (.int (euclid a b)) st' := by
  obtain ⟨k, hk⟩ := hD
  obtain ⟨G, rfl⟩ : ∃ G, F = G + 2 := ⟨F - 2, by omega⟩
  have hargs : [Value.int a, .int b].mapM (eval (G + 1) 0) st = .ok [.int a, .int b] st :=
    mapM_cons_of_ok rfl (mapM_cons_of_ok rfl rfl)
  obtain ⟨st', h⟩ := eval_gcdBody a b (G + 1) st ⟨k, hk⟩ (by omega)
  exact ⟨st', (eval_call_def (by decide) hk rfl hargs).trans h⟩

/-- `(fact n)` in frame `0`, where `fact` is defined, returns `n!` given three levels of fuel for
each multiplication and four more, when `(n - 1)!` has a decimal text. -/
theorem eval_factCall (n : Nat) {F : Nat} (hD : Defined factDef st) (hF : 3 * n + 4 ≤ F)
    (ht : Decimal.hasText (n - 1).factorial = true) :
    ∃ st', eval F 0 (.list [.sym "fact", .int n]) st = .ok (.int n.factorial) st' := by
  obtain ⟨k, hk⟩ := hD
  obtain ⟨G, rfl⟩ : ∃ G, F = G + 2 := ⟨F - 2, by omega⟩
  have hn : Decimal.hasText (n : Int) = true :=
    hasText_of_lt (by have := lt_of_factorial_lt_limit (by rwa [hasText_iff] at ht); omega)
  have hargs : [Value.int n].mapM (eval (G + 1) 0) st = .ok [.int n] st := mapM_cons_of_ok rfl rfl
  obtain ⟨st', h⟩ := eval_factBody n (G + 1) st ⟨k, hk⟩ (by omega) hn ht
  exact ⟨st', (eval_call_def (by decide) hk rfl hargs).trans h⟩

theorem eval_factCall_textTooLong (n : Nat) {F : Nat} (hD : Defined factDef st)
    (hF : 3 * n + 4 ≤ F) (ht : Decimal.hasText (n - 2).factorial = true)
    (hlong : Decimal.hasText (n - 1).factorial = false) :
    ∃ st', eval F 0 (.list [.sym "fact", .int n]) st = .error .textTooLong st' := by
  obtain ⟨k, rfl⟩ : ∃ k, n = k + 2 := by
    refine ⟨n - 2, ?_⟩
    by_contra hn
    have hsame : n - 2 = n - 1 := by omega
    rw [hsame, hlong] at ht
    exact Bool.false_ne_true ht
  rw [show k + 2 - 2 = k from rfl] at ht
  rw [show k + 2 - 1 = k + 1 from rfl] at hlong
  obtain ⟨j, hj⟩ := hD
  obtain ⟨G, rfl⟩ : ∃ G, F = G + 6 := ⟨F - 6, by omega⟩
  have hsmall := lt_of_factorial_lt_limit (n := k + 1) (by rwa [hasText_iff] at ht)
  have hk : Decimal.hasText ((k + 1 : Nat) : Int) = true := hasText_of_lt (by omega)
  have hk2 : Decimal.hasText ((k + 1 + 1 : Nat) : Int) = true := hasText_of_lt (by omega)
  have hargs : [Value.int (k + 2 : Nat)].mapM (eval (G + 5) 0) st = .ok [.int (k + 2 : Nat)] st :=
    mapM_cons_of_ok rfl rfl
  set c := st.extend 0 (factDef.params.zip [.int ((k + 1 + 1 : Nat) : Int)])
  have hl : c.1.lookup c.2 "n" = some (.int ((k + 1 + 1 : Nat) : Int)) := lookup_param rfl
  obtain ⟨j', hj'⟩ := Defined.lookup_call ⟨j, hj⟩ factDef [.int ((k + 1 + 1 : Nat) : Int)]
    (by decide)
  obtain ⟨st', hrec⟩ := eval_factBody (k + 1) (G + 2) c.1
    (Defined.steps ⟨j, hj⟩ (steps_extend _)) (by omega) hk ht
  refine ⟨st', (eval_call_def (by decide) hj rfl hargs).trans ?_⟩
  rw [eval_factBody_succ hl hj' hk2 hrec, arith_textTooLong hlong]

end Top

/-! ## Sessions -/

section Sessions

variable {st st₁ : Store}

theorem defined_load (d : Def) (h0 : 0 < st.frames.size) : Defined d (d.load st) :=
  ⟨st.closures, by rw [lookup_load d h0, if_pos rfl]⟩

theorem interpretIn_of_read {src : String} {ast v : Value} {t : String}
    (hr : Reader.read src = .ok ast) (he : Session.evalTop ast st = .ok v st₁)
    (ht : v.toSource = .ok t) : Session.interpretIn src st = .ok t st₁ := by
  unfold Session.interpretIn
  rw [hr, liftExcept_ok, pure_bind, bind_of_ok he, ht, liftExcept_ok]
  rfl

theorem interpretIn_of_read_error {src : String} {f : Fault} (hr : Reader.read src = .error f) :
    Session.interpretIn src st = .error f st := by
  unfold Session.interpretIn
  rw [hr]
  rfl

theorem runFile_of_evalFile {src : String} {vs : List Value} {v : Value} {t : String}
    (he : Session.evalFile src st = .ok vs st₁) (hl : vs.getLast? = some v)
    (ht : v.toSource = .ok t) : Session.runFile src st = .ok t st₁ := by
  unfold Session.runFile
  rw [bind_of_ok he]
  simp only [hl, ht, liftExcept_ok]
  rfl

theorem toSource_int {n : Int} (h : Decimal.hasText n = true) :
    (Value.int n).toSource = .ok (toString n) := by
  rw [Value.toSource_eq_sourceChars (.int n) h, Value.sourceChars, String.ofList_toList]

theorem printable_gcd : Value.Printable (.sym "gcd") := by
  -- the name is checked character by character: deciding the whole list at once is slow
  show PrintableName ['g', 'c', 'd']
  refine ⟨by simp, ?_, fun h => absurd (h 'g' (by simp)) (by decide), by simp⟩
  intro c hc
  simp only [List.mem_cons, List.not_mem_nil, or_false] at hc
  rcases hc with rfl | rfl | rfl <;> decide

theorem read_gcdCall {a b : Nat} (ha : Decimal.hasText a = true) (hb : Decimal.hasText b = true) :
    Reader.read ("(gcd " ++ toString a ++ " " ++ toString b ++ ")") =
      .ok (.list [.sym "gcd", .int a, .int b]) := by
  have hv : Value.Printable (.list [.sym "gcd", .int a, .int b]) :=
    (Value.printable_list (by simp)).2
      ⟨printable_gcd, ⟨by omega, ha⟩, ⟨by omega, hb⟩, trivial⟩
  have hc : Value.TextsClosed false (.list [.sym "gcd", .int a, .int b]) :=
    ⟨trivial, trivial, trivial, trivial⟩
  have hsrc : (Value.list [.sym "gcd", .int a, .int b]).sourceChars =
      ("(gcd " ++ toString a ++ " " ++ toString b ++ ")").toList := by
    rw [Value.sourceChars_list (by simp)]
    show '(' :: ("gcd".toList ++ ' ' :: ((toString a).toList ++ ' ' :: (toString b).toList)) ++
      [')'] = _
    simp
  rw [Reader.read, ← hsrc]
  exact hv.readChars hc

theorem interpretIn_gcdSource (h0 : 0 < st.frames.size) (hfree : st.lookup 0 "gcd" = none) :
    Session.interpretIn gcdSource st = .ok "<closure/2>" (gcdDef.load st) ∧
      Defined gcdDef (gcdDef.load st) :=
  ⟨interpretIn_of_read read_gcdSource (eval_defForm 999998 gcdDef hfree) rfl,
    defined_load gcdDef h0⟩

theorem interpretIn_gcdCall (hD : Defined gcdDef st) {a b : Nat} (ha : Decimal.hasText a = true)
    (hb : Decimal.hasText b = true) :
    ∃ st', Session.interpretIn ("(gcd " ++ toString a ++ " " ++ toString b ++ ")") st =
      .ok (toString (Nat.gcd a b)) st' := by
  rw [hasText_iff] at ha hb
  have hsteps := euclidSteps_lt (a := a) (by omega : b < Decimal.limit)
  obtain ⟨st', he⟩ := eval_gcdCall a b hD (by omega : 2 * euclidSteps a b + 4 ≤ 1000000)
  have hg : Decimal.hasText (Nat.gcd a b : Int) = true := by
    rw [hasText_iff]
    rcases Nat.eq_zero_or_pos b with rfl | hpos
    · rw [Nat.gcd_zero_right]
      exact ha
    · have := Nat.gcd_le_right a hpos
      omega
  rw [euclid_natCast] at he
  exact ⟨st', interpretIn_of_read (read_gcdCall (hasText_iff.2 ha) (hasText_iff.2 hb)) he
    (toSource_int hg)⟩

theorem runFile_example (h0 : 0 < st.frames.size) (hfree : st.lookup 0 "fact" = none) :
    ∃ st₁, Session.runFile exampleSource st = .ok "120" st₁ ∧ Defined factDef st₁ := by
  have hD := defined_load factDef h0
  obtain ⟨st₁, h5⟩ :=
    eval_factCall 5 hD (by norm_num : 3 * 5 + 4 ≤ 1000000) (hasText_of_lt (by decide))
  have hfile : Session.evalFile exampleSource st =
      .ok [factDef.closure st.closures, .int 120] st₁ := by
    unfold Session.evalFile
    rw [read_exampleSource, liftExcept_ok, pure_bind]
    exact mapM_cons_of_ok (eval_defForm 999998 factDef hfree) (mapM_cons_of_ok h5 rfl)
  have h120 : Decimal.hasText 120 = true := hasText_of_lt (n := 120) (by norm_num)
  exact ⟨st₁, runFile_of_evalFile hfile rfl (toSource_int h120),
    hD.steps (Evaluates.steps ⟨_, h5⟩)⟩

end Sessions

/-- The two recursive programs compute their functions. In frame `0` of a store where `gcd` is
not yet defined, its definition answers `<closure/2>`; after it, `(gcd a b)` typed for two
naturals of at most 4300 digits answers the decimal text of their greatest common divisor, and
`(gcd a b)` on any two integers ends with an integer whose size is the greatest common divisor of
their sizes. Where `fact` is not yet defined, the example program answers `120`, and after it
`(fact n)` returns `n!` for every natural `n` such that `(n - 1)!` has at most 4300 digits. -/
theorem gcd_and_fact_compute (st : Store) (h0 : 0 < st.frames.size) :
    (st.lookup 0 "gcd" = none →
      ∃ st₁, Session.interpretIn gcdSource st = .ok "<closure/2>" st₁ ∧
        (∀ a b : Nat, Decimal.hasText a = true → Decimal.hasText b = true →
          ∃ st₂, Session.interpretIn ("(gcd " ++ toString a ++ " " ++ toString b ++ ")") st₁ =
            .ok (toString (Nat.gcd a b)) st₂) ∧
        ∀ a b : Int, ∃ g st₂, Evaluates Session.top (.list [.sym "gcd", .int a, .int b]) st₁
          (.int g) st₂ ∧ g.natAbs = Nat.gcd a.natAbs b.natAbs) ∧
    (st.lookup 0 "fact" = none →
      ∃ st₁, Session.runFile exampleSource st = .ok "120" st₁ ∧
        ∀ n : Nat, Decimal.hasText (n - 1).factorial = true →
          ∃ st₂, Session.evalTop (.list [.sym "fact", .int n]) st₁ = .ok (.int n.factorial) st₂) := by
  refine ⟨fun hfree => ?_, fun hfree => ?_⟩
  · obtain ⟨hdef, hD⟩ := interpretIn_gcdSource h0 hfree
    refine ⟨_, hdef, fun a b ha hb => interpretIn_gcdCall hD ha hb, fun a b => ?_⟩
    obtain ⟨st₂, h⟩ := eval_gcdCall a b hD le_rfl
    exact ⟨euclid a b, st₂, ⟨_, h⟩, natAbs_euclid a b⟩
  · obtain ⟨st₁, hrun, hD⟩ := runFile_example h0 hfree
    refine ⟨st₁, hrun, fun n ht => ?_⟩
    -- `(n - 1)!` has at most 4300 digits, so `n` is below 4311 and the fuel suffices
    have hn := lt_of_factorial_lt_limit (by rwa [hasText_iff] at ht)
    exact eval_factCall n hD (by omega : 3 * n + 4 ≤ 1000000) ht

/-- In the empty store: `gcd` defined, then `(gcd 108 30)` answers `6`; and the example program
answers `120`. -/
theorem gcd_and_fact_compute_initial :
    0 < Store.initial.frames.size ∧ Store.initial.lookup 0 "gcd" = none ∧
      Store.initial.lookup 0 "fact" = none ∧
      (∃ st₁, Session.interpretIn gcdSource Store.initial = .ok "<closure/2>" st₁ ∧
        ∃ st₂, Session.interpretIn "(gcd 108 30)" st₁ = .ok "6" st₂) ∧
      ∃ st₁, Session.runFile exampleSource Store.initial = .ok "120" st₁ := by
  have h := gcd_and_fact_compute Store.initial (by decide)
  obtain ⟨st₁, hdef, hnat, -⟩ := h.1 rfl
  obtain ⟨st₂, h108⟩ :=
    hnat 108 30 (hasText_of_lt (by norm_num)) (hasText_of_lt (by norm_num))
  have htext : "(gcd " ++ toString (108 : Nat) ++ " " ++ toString (30 : Nat) ++ ")" =
      "(gcd 108 30)" := by decide
  have hsix : toString (Nat.gcd 108 30) = "6" := by decide
  rw [htext, hsix] at h108
  obtain ⟨st₃, hrun, -⟩ := h.2 rfl
  exact ⟨by decide, rfl, rfl, ⟨st₁, hdef, st₂, h108⟩, st₃, hrun⟩

/-- `(gcd 10^4300 5)`, typed with its 4301 digits, does not read, in any store: the reader
refuses an integer literal of more than 4300 digits, though the greatest common divisor is `5`. -/
theorem gcd_literal_too_long :
    Nat.gcd (10 ^ 4300) 5 = 5 ∧
      ∀ st, Session.interpretIn ("(gcd 1" ++ String.ofList (List.replicate 4300 '0') ++ " 5)") st =
        .error (.literalTooLong 4301) st := by
  have hchars : ∀ c ∈ '1' :: List.replicate 4300 '0', c = '1' ∨ c = '0' := by
    intro c hc
    rcases List.mem_cons.1 hc with rfl | hc
    · exact .inl rfl
    · exact .inr (List.mem_replicate.1 hc).2
  have hdigits : ∀ c ∈ '1' :: List.replicate 4300 '0', Text.isDigit c = true := by
    intro c hc
    rcases hchars c hc with rfl | rfl <;> decide
  have hatoms : ∀ a ∈ ["gcd".toList, '1' :: List.replicate 4300 '0', ['5']],
      a ≠ [] ∧ ∀ c ∈ a, AtomSafe c := by
    simp only [List.mem_cons, List.not_mem_nil, or_false]
    rintro a (rfl | rfl | rfl)
    · exact ⟨printable_gcd.1, printable_gcd.2.1⟩
    · exact ⟨List.cons_ne_nil _ _, fun c hc => by rcases hchars c hc with rfl | rfl <;> decide⟩
    · exact ⟨List.cons_ne_nil _ _, fun c hc => by rw [List.mem_singleton.1 hc]; decide⟩
  have htext : ("(gcd 1" ++ String.ofList (List.replicate 4300 '0') ++ " 5)").toList =
      '(' :: [' '].intercalate ["gcd".toList, '1' :: List.replicate 4300 '0', ['5']] ++ [')'] := by
    have h₁ : "(gcd 1".toList = ['(', 'g', 'c', 'd', ' ', '1'] := by decide
    have h₂ : " 5)".toList = [' ', '5', ')'] := by decide
    have h₃ : "gcd".toList = ['g', 'c', 'd'] := by decide
    rw [String.toList_append, String.toList_append, h₁, h₂, String.toList_ofList,
      List.intercalate_cons_cons, List.intercalate_cons_cons, List.intercalate_singleton, h₃]
    simp only [List.cons_append, List.nil_append, List.append_assoc]
  have hlong : Reader.readChars ('1' :: List.replicate 4300 '0') =
      .error (.literalTooLong 4301) := by
    have hclean := clean_of_atomSafe (hatoms _ (List.mem_cons_of_mem _ List.mem_cons_self))
    have hlen : ('1' :: List.replicate 4300 '0').length = 4301 := by
      rw [List.length_cons, List.length_replicate]
    rw [readChars_tooLong hclean hdigits (by rw [hlen]; decide), hlen]
  have hgcd : Reader.readChars "gcd".toList = .ok (.sym "gcd") :=
    @Value.Printable.readChars _ printable_gcd false trivial
  have hread : Reader.read ("(gcd 1" ++ String.ofList (List.replicate 4300 '0') ++ " 5)") =
      .error (.literalTooLong 4301) := by
    rw [Reader.read, htext, readChars_atoms hatoms (List.cons_ne_nil _ _), List.mapM_cons, hgcd,
      List.mapM_cons, hlong]
    rfl
  exact ⟨Nat.gcd_eq_right (dvd_pow (by norm_num) (by norm_num)),
    fun st => interpretIn_of_read_error hread⟩

end Programs

end TinyLisp
