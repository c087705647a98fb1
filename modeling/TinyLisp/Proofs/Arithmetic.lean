import TinyLisp.Proofs.Matching

/-!
# Arithmetic

The arithmetic forms on operands that evaluate to integers of at most `maxDigits` digits;
`/` gives a binary64 quotient, not an integer.
-/

namespace TinyLisp

namespace Eval

section Operands

variable {fuel : Nat} {env : FrameId} {x y : Value} {a b : Int} {st st₁ st₂ : Store}

theorem numbers_of_integer? {l r : Value} (hl : l.integer? = some a) (hr : r.integer? = some b) :
    numbers l r = pure (a, b) := by
  unfold numbers
  rw [hl, hr]

theorem operands_of_integer? {form : String} {l r : Value} (k : Int × Int → Eval Value)
    (hx : eval fuel env x st = .ok l st₁) (hy : eval fuel env y st₁ = .ok r st₂)
    (hl : l.integer? = some a) (hr : r.integer? = some b) :
    (do
      arity form 3 [x, y]
      let l ← eval fuel env ([x, y].getD 0 default)
      let r ← eval fuel env ([x, y].getD 1 default)
      let p ← numbers l r
      k p) st = k (a, b) st₂ := by
  have harity : arity form 3 [x, y] = pure () := if_pos rfl
  rw [harity, pure_bind]
  show (eval fuel env x >>= fun l => eval fuel env y >>= fun r => numbers l r >>= k) st = _
  rw [bind_apply, hx]
  show (eval fuel env y >>= fun r => numbers l r >>= k) st₁ = _
  rw [bind_apply, hy]
  show (numbers l r >>= k) st₂ = _
  rw [numbers_of_integer? hl hr, pure_bind]

theorem eval_arithOp_of_integer? {name : String} {l r : Value} (h : arithOps.contains name)
    (hx : eval fuel env x st = .ok l st₁) (hy : eval fuel env y st₁ = .ok r st₂)
    (hl : l.integer? = some a) (hr : r.integer? = some b) :
    eval (fuel + 1) env (.list [.sym name, x, y]) st = arith name a b st₂ := by
  show evalList (eval fuel) env (.sym name) [x, y] st = _
  rw [evalList_arith _ h]
  exact operands_of_integer? (fun p => arith name p.1 p.2) hx hy hl hr

/-- An arithmetic operator applies its operation to the values of its operands. -/
theorem eval_arithOp {name : String} (h : arithOps.contains name)
    (hx : eval fuel env x st = .ok (.int a) st₁) (hy : eval fuel env y st₁ = .ok (.int b) st₂) :
    eval (fuel + 1) env (.list [.sym name, x, y]) st = arith name a b st₂ :=
  eval_arithOp_of_integer? h hx hy rfl rfl

theorem eval_modForm_of_integer? {l r : Value} (hx : eval fuel env x st = .ok l st₁)
    (hy : eval fuel env y st₁ = .ok r st₂) (hl : l.integer? = some a) (hr : r.integer? = some b) :
    eval (fuel + 1) env (.list [.sym "mod", x, y]) st =
      if b = 0 then .error .moduloByZero st₂ else .ok (.int (a.fmod b)) st₂ := by
  show evalList (eval fuel) env (.sym "mod") [x, y] st = _
  rw [evalList]
  refine (operands_of_integer?
    (fun p => if p.2 = 0 then throw .moduloByZero else pure (.int (p.1.fmod p.2))) hx hy hl hr).trans ?_
  split <;> rfl

theorem eval_modForm (hx : eval fuel env x st = .ok (.int a) st₁)
    (hy : eval fuel env y st₁ = .ok (.int b) st₂) :
    eval (fuel + 1) env (.list [.sym "mod", x, y]) st =
      if b = 0 then .error .moduloByZero st₂ else .ok (.int (a.fmod b)) st₂ :=
  eval_modForm_of_integer? hx hy rfl rfl

end Operands

theorem arith_of_hasText {op : String} {a b : Int} (ha : Decimal.hasText a = true)
    (hb : Decimal.hasText b = true) :
    arith op a b = match op with
      | "+" => pure (.int (a + b))
      | "-" => pure (.int (a - b))
      | "*" => pure (.int (a * b))
      | ">" => pure (.bool (decide (b < a)))
      | _ =>
        if b = 0 then throw .divisionByZero
        else match Binary64.quotient? a b with
          | some x => pure (.float x)
          | none => throw .quotientTooLarge := by
  unfold arith
  rw [ha, hb]
  rfl

/-- Arithmetic on two integers of at most `maxDigits` digits, the values of the operands `x` and
`y` evaluated in that order: `+`, `-` and `*` give the sum, the difference and the product and `>`
the comparison; `mod` gives the remainder rounded down and `/` the quotient as a binary64 number
(rounded to nearest, a failure when too large), and both fail with a division by zero, a
`ZeroDivisionError`, exactly when the divisor is zero. -/
theorem eval_arithmetic (fuel : Nat) (env : FrameId) (x y : Value) (a b : Int)
    (st st₁ st₂ : Store) (hx : eval fuel env x st = .ok (.int a) st₁)
    (hy : eval fuel env y st₁ = .ok (.int b) st₂) (ha : Decimal.hasText a = true)
    (hb : Decimal.hasText b = true) :
    eval (fuel + 1) env (.list [.sym "+", x, y]) st = .ok (.int (a + b)) st₂ ∧
    eval (fuel + 1) env (.list [.sym "-", x, y]) st = .ok (.int (a - b)) st₂ ∧
    eval (fuel + 1) env (.list [.sym "*", x, y]) st = .ok (.int (a * b)) st₂ ∧
    eval (fuel + 1) env (.list [.sym ">", x, y]) st = .ok (.bool (decide (a > b))) st₂ ∧
    eval (fuel + 1) env (.list [.sym "mod", x, y]) st =
      (if b = 0 then .error .moduloByZero st₂ else .ok (.int (a.fmod b)) st₂) ∧
    eval (fuel + 1) env (.list [.sym "/", x, y]) st =
      (if b = 0 then .error .divisionByZero st₂
        else (Binary64.quotient? a b).elim (.error .quotientTooLarge st₂)
          fun q => .ok (.float q) st₂) ∧
    Fault.moduloByZero.kind = "ZeroDivisionError" ∧
    Fault.divisionByZero.kind = "ZeroDivisionError" := by
  refine ⟨?_, ?_, ?_, ?_, eval_modForm hx hy, ?_, rfl, rfl⟩
  all_goals
    rw [eval_arithOp (by decide) hx hy, arith_of_hasText ha hb]
  · rfl
  · rfl
  · rfl
  · rfl
  · by_cases h0 : b = 0
    · simp only [h0, if_true]
      rfl
    · simp only [h0, if_false]
      cases Binary64.quotient? a b <;> rfl

/-- `(+ 7 -2)` and its kin, on literal operands. -/
theorem eval_arithmetic_literals :
    eval 1 0 (.int 7) Store.initial = .ok (.int 7) Store.initial ∧
    eval 1 0 (.int (-2)) Store.initial = .ok (.int (-2)) Store.initial ∧
    Decimal.hasText 7 = true ∧ Decimal.hasText (-2) = true ∧
    eval 2 0 (.list [.sym "mod", .int 7, .int (-2)]) Store.initial =
      (if (-2 : Int) = 0 then .error .moduloByZero Store.initial
        else .ok (.int ((7 : Int).fmod (-2))) Store.initial) :=
  ⟨rfl, rfl, by decide +kernel, by decide +kernel,
    (eval_arithmetic 1 0 (.int 7) (.int (-2)) 7 (-2) Store.initial Store.initial Store.initial
      rfl rfl (by decide +kernel) (by decide +kernel)).2.2.2.2.1⟩

/-- `(/ 7 2)` is the binary64 number `3.5`, not the integer `3`. -/
theorem eval_divide_seven_two :
    eval 2 0 (.list [.sym "/", .int 7, .int 2]) Store.initial =
      .ok (.float (.finite false (7 * Nat.pow 2 50) (-51))) Store.initial := by
  have hq : Binary64.quotient? 7 2 = some (.finite false (7 * Nat.pow 2 50) (-51)) := by
    decide +kernel
  rw [eval_arithOp (by decide) rfl rfl, arith_of_hasText (by decide +kernel) (by decide +kernel)]
  simp only [hq]
  rfl

end Eval

end TinyLisp
