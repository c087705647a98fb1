import TinyLisp.Proofs.BigStep

/-!
# Booleans as numbers

`#f` and `#t` stand for `0` and `1` in arithmetic and in `eq`.
-/

namespace TinyLisp

namespace Value

/-- Whether two atoms are of the same kind with equal values: two equal booleans, integers,
names or texts, or one closure twice. -/
def sameAtom : Value → Value → Bool
  | .bool a, .bool b => a == b
  | .int a, .int b => a == b
  | .sym a, .sym b => a == b
  | .str a, .str b => a.equal b
  | .closure a .., .closure b .. => a == b
  | _, _ => false

theorem equal_iff_of_isAtom {v w : Value} (hv : v.isAtom = true) (hw : w.isAtom = true) :
    v.equal w = true ↔ v.sameAtom w = true ∨ ∃ n, v.integer? = some n ∧ w.integer? = some n := by
  cases v <;> cases w <;> simp_all [equal, sameAtom, integer?, isAtom]
  case bool.bool p q => cases p <;> cases q <;> decide
  case bool.int p n => cases p <;> simp [eq_comm]
  case int.bool n p => cases p <;> simp [eq_comm]

end Value

namespace Eval

variable {fuel : Nat} {env : FrameId} {x y l r : Value} {st st₁ st₂ : Store}

theorem arith_fault {op : String} {a b : Int} {e : Fault} {st st' : Store}
    (h : arith op a b st = .error e st') :
    e = .textTooLong ∨ e = .divisionByZero ∨ e = .quotientTooLarge := by
  unfold arith at h
  split at h
  · cases h
    exact .inl rfl
  · split at h
    · cases h
    · cases h
    · cases h
    · cases h
    · split at h
      · cases h
        exact .inr (.inl rfl)
      · split at h
        · cases h
        · cases h
          exact .inr (.inr rfl)

theorem arith_fault_not_language {op : String} {a b : Int} {e : Fault} {st st' : Store}
    (h : arith op a b st = .error e st') : e.isLanguage = false := by
  rcases arith_fault h with rfl | rfl | rfl <;> rfl

theorem eval_eqForm_atoms (hx : eval fuel env x st = .ok l st₁)
    (hy : eval fuel env y st₁ = .ok r st₂) (hl : l.isAtom = true) (hr : r.isAtom = true) :
    eval (fuel + 1) env (.list [.sym "eq", x, y]) st = .ok (.bool (l.equal r)) st₂ := by
  show evalList (eval fuel) env (.sym "eq") [x, y] st = _
  rw [evalList]
  have harity : arity "eq" 3 [x, y] = pure () := if_pos rfl
  rw [harity, pure_bind]
  show (eval fuel env x >>= fun l => eval fuel env y >>= fun r => _) st = _
  rw [bind_of_ok hx, bind_of_ok hy]
  split
  · simp [Value.isAtom] at hl
  · simp [Value.isAtom] at hr
  · rfl

/-- Booleans count as the integers `0` and `1`. For operands `x` and `y` whose values, evaluated
left to right, stand for integers (integers, and booleans as `0` and `1`), every arithmetic form
computes on those integers, so that `(+ #t 1)` is `2`, and fails with no error of the language;
`mod` gives the remainder rounded down. And `eq` on two atoms answers `#t` exactly when they are
of one kind with equal values or stand for one integer, so that `(eq #t 1)` is `#t`. -/
theorem eval_booleans_as_integers (fuel : Nat) (env : FrameId) (x y l r : Value)
    (st st₁ st₂ : Store) (hx : eval fuel env x st = .ok l st₁)
    (hy : eval fuel env y st₁ = .ok r st₂) :
    (∀ a b, l.integer? = some a → r.integer? = some b →
      (∀ name, arithOps.contains name →
        eval (fuel + 1) env (.list [.sym name, x, y]) st = arith name a b st₂ ∧
        ∀ e st', eval (fuel + 1) env (.list [.sym name, x, y]) st = .error e st' →
          e.isLanguage = false) ∧
      eval (fuel + 1) env (.list [.sym "mod", x, y]) st =
        if b = 0 then .error .moduloByZero st₂ else .ok (.int (a.fmod b)) st₂) ∧
    (l.isAtom → r.isAtom →
      eval (fuel + 1) env (.list [.sym "eq", x, y]) st = .ok (.bool (l.equal r)) st₂ ∧
      (l.equal r = true ↔ l.sameAtom r = true ∨ ∃ n, l.integer? = some n ∧ r.integer? = some n)) := by
  refine ⟨fun a b ha hb => ⟨fun name hname => ?_, eval_modForm_of_integer? hx hy ha hb⟩,
    fun hl hr => ⟨eval_eqForm_atoms hx hy hl hr, Value.equal_iff_of_isAtom hl hr⟩⟩
  have harith := eval_arithOp_of_integer? hname hx hy ha hb
  refine ⟨harith, fun e st' he => ?_⟩
  rw [harith] at he
  exact arith_fault_not_language he

/-- `(+ #t 1)`: the boolean `#t` and the integer `1`, both evaluated as they stand, are added as
`1` and `1`. -/
theorem eval_booleans_as_integers_true_one :
    eval 1 0 (.bool true) Store.initial = .ok (.bool true) Store.initial ∧
      eval 1 0 (.int 1) Store.initial = .ok (.int 1) Store.initial ∧
      eval 2 0 (.list [.sym "+", .bool true, .int 1]) Store.initial =
        arith "+" 1 1 Store.initial :=
  ⟨rfl, rfl, (((eval_booleans_as_integers 1 0 (.bool true) (.int 1) (.bool true) (.int 1)
    Store.initial Store.initial Store.initial rfl rfl).1 1 1 rfl rfl).1 "+" (by decide)).1⟩

/-- `#t` is not a number apart from `1`: `(+ #t 1)` is `2`, and `(eq #t 1)` is `#t` though `#t`
and `1` are atoms of two kinds. -/
theorem eval_true_plus_one :
    eval 2 0 (.list [.sym "+", .bool true, .int 1]) Store.initial = .ok (.int 2) Store.initial ∧
      eval 2 0 (.list [.sym "eq", .bool true, .int 1]) Store.initial =
        .ok (.bool true) Store.initial ∧
      Value.sameAtom (.bool true) (.int 1) = false := by
  refine ⟨?_, rfl, rfl⟩
  rw [eval_arithOp_of_integer? (by decide) rfl rfl rfl rfl,
    arith_of_hasText (by decide +kernel) (by decide +kernel)]
  rfl

end Eval

end TinyLisp
