import TinyLisp.Proofs.BigStep

/-!
# `cond` as a chain of `if`s
-/

namespace TinyLisp

namespace Eval

def condClause (c : Value × Value) : Value := .list [c.1, c.2]

/-- `(cond ((p₁ e₁) … (pₙ eₙ)))`. -/
def condForm (cs : List (Value × Value)) : Value :=
  .list [.sym "cond", .list (cs.map condClause)]

/-- `(if p₁ e₁ (if p₂ e₂ … (if pₙ eₙ #f) …))`, with `#f` for no clause. -/
def ifChain : List (Value × Value) → Value
  | [] => .bool false
  | (p, e) :: cs => .list [.sym "if", p, e, ifChain cs]

section Steps

variable (fuel : Nat) (env : FrameId)

theorem eval_condForm (cs : List (Value × Value)) :
    eval (fuel + 1) env (condForm cs) = evalCond (eval fuel) env (cs.map condClause) := by
  show evalList (eval fuel) env (.sym "cond") [.list (cs.map condClause)] = _
  rw [evalList]
  rfl

theorem evalCond_clause (ev : Evaluator) (p e : Value) (cs : List Value) :
    evalCond ev env (condClause (p, e) :: cs) =
      (ev env p >>= fun t => if t.truthy then ev env e else evalCond ev env cs) := by
  rw [evalCond]
  rfl

theorem eval_ifChain_nil : eval (fuel + 1) env (ifChain []) = pure (.bool false) := rfl

theorem eval_ifChain_cons (p e : Value) (cs : List (Value × Value)) :
    eval (fuel + 1) env (ifChain ((p, e) :: cs)) =
      (eval fuel env p >>= fun t =>
        if t.truthy then eval fuel env e else eval fuel env (ifChain cs)) :=
  eval_ifForm fuel env p e (ifChain cs)

end Steps

variable (env : FrameId)

theorem evalCond_ifChain : ∀ (cs : List (Value × Value)) (G F : Nat), G + 1 + cs.length ≤ F →
    MoreFuel (evalCond (eval G) env (cs.map condClause)) (eval F env (ifChain cs))
  | [], G, F, hF => by
    obtain ⟨F', rfl⟩ : ∃ F', F = F' + 1 := ⟨F - 1, by omega⟩
    rw [eval_ifChain_nil]
    exact .refl _
  | (p, e) :: cs, G, F, hF => by
    obtain ⟨F', rfl⟩ : ∃ F', F = F' + 1 := ⟨F - 1, by omega⟩
    have hG : G ≤ F' := by simp only [List.length_cons] at hF; omega
    have hrest : G + 1 + cs.length ≤ F' := by simp only [List.length_cons] at hF; omega
    rw [List.map_cons, evalCond_clause, eval_ifChain_cons]
    exact (eval_moreFuel hG env p).bind fun _ =>
      .ite (eval_moreFuel hG env e) (evalCond_ifChain cs G F' hrest)

theorem ifChain_evalCond : ∀ (cs : List (Value × Value)) (F G : Nat), F ≤ G + 1 →
    MoreFuel (eval F env (ifChain cs)) (evalCond (eval G) env (cs.map condClause))
  | _, 0, _, _ => .outOfFuel _
  | [], F' + 1, G, _ => by
    rw [eval_ifChain_nil]
    exact .refl _
  | (p, e) :: cs, F' + 1, G, hF => by
    have hG : F' ≤ G := by omega
    rw [List.map_cons, evalCond_clause, eval_ifChain_cons]
    exact (eval_moreFuel hG env p).bind fun _ =>
      .ite (eval_moreFuel hG env e) (ifChain_evalCond cs F' G (by omega))

/-- `cond` is a chain of `if`s. Its tests are evaluated in order, in the frame of the form, up to
the first true one; then that clause's expression alone is evaluated, and `#f` is the value when
no test is true. A run of the `cond` that does not run out of fuel ends exactly as the chain of
`if`s does with as many levels more as there are clauses, with the same value or failure and the
same store, and a run of the chain that does not run out of fuel ends exactly as the `cond` does
with as much fuel. -/
theorem eval_cond_ifChain (cs : List (Value × Value)) :
    (∀ G F, G + 1 + cs.length ≤ F →
      MoreFuel (eval (G + 1) env (condForm cs)) (eval F env (ifChain cs))) ∧
    (∀ F G, F ≤ G + 1 →
      MoreFuel (eval F env (ifChain cs)) (eval (G + 1) env (condForm cs))) ∧
    (∀ G, eval (G + 1) env (condForm []) = pure (.bool false)) ∧
    (∀ G p e, eval (G + 1) env (condForm ((p, e) :: cs)) =
      (eval G env p >>= fun t =>
        if t.truthy then eval G env e else eval (G + 1) env (condForm cs))) := by
  refine ⟨fun G F hF => ?_, fun F G hF => ?_, fun G => ?_, fun G p e => ?_⟩
  · rw [eval_condForm]
    exact evalCond_ifChain env cs G F hF
  · rw [eval_condForm]
    exact ifChain_evalCond env cs F G hF
  · rw [eval_condForm]
    rfl
  · rw [eval_condForm, eval_condForm, List.map_cons, evalCond_clause]

/-- `(cond ((#f 1) (2 3)))` and `(if #f 1 (if 2 3 #f))`. -/
theorem eval_cond_ifChain_two :
    2 + 1 + [(Value.bool false, Value.int 1), (.int 2, .int 3)].length ≤ 5 ∧
      MoreFuel (eval 3 0 (condForm [(.bool false, .int 1), (.int 2, .int 3)]))
        (eval 5 0 (ifChain [(.bool false, .int 1), (.int 2, .int 3)])) :=
  ⟨by decide, (eval_cond_ifChain 0 [(.bool false, .int 1), (.int 2, .int 3)]).1 2 5 (by decide)⟩

end Eval

end TinyLisp
