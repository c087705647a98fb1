import TinyLisp.Proofs.Confinement

/-!
# Lexical scope
-/

namespace TinyLisp

namespace Eval

/-- The form `(quote v)`, which evaluates to `v`. -/
def quoteOf (v : Value) : Value := .list [.sym "quote", v]

theorem eval_quoteOf (fuel : Nat) (env : FrameId) (v : Value) :
    eval (fuel + 1) env (quoteOf v) = pure v := rfl

theorem eval_quoteOf_env (fuel : Nat) (e₁ e₂ : FrameId) (v : Value) :
    eval fuel e₁ (quoteOf v) = eval fuel e₂ (quoteOf v) := by
  cases fuel with
  | zero => rfl
  | succ fuel => rw [eval_quoteOf, eval_quoteOf]

theorem keepsStore_eval_quoteOf (fuel : Nat) (env : FrameId) (v : Value) :
    KeepsStore (eval fuel env (quoteOf v)) := by
  cases fuel with
  | zero => exact keepsStore_throw _
  | succ fuel =>
    rw [eval_quoteOf]
    exact keepsStore_pure v

theorem eval_closure (fuel serial : Nat) (env frame : FrameId) (params body : Value)
    (args : List Value) :
    eval (fuel + 1) env (.list (.closure serial frame params body :: args)) =
      apply (eval fuel) env frame params body args := rfl

section Quoted

variable (fuel : Nat)

theorem bindArgs_quoted_env (e₁ e₂ : FrameId) : ∀ (ps vs : List Value),
    bindArgs (eval fuel) e₁ (ps.zip (vs.map quoteOf)) =
      bindArgs (eval fuel) e₂ (ps.zip (vs.map quoteOf))
  | [], _ => rfl
  | _ :: _, [] => rfl
  | p :: ps, v :: vs => by
    simp only [List.map_cons, List.zip_cons_cons, bindArgs, eval_quoteOf_env fuel e₁ e₂ v,
      bindArgs_quoted_env e₁ e₂ ps vs]

theorem keepsStore_bindArgs_quoted (env : FrameId) : ∀ (ps vs : List Value),
    KeepsStore (bindArgs (eval fuel) env (ps.zip (vs.map quoteOf)))
  | [], _ => keepsStore_pure _
  | _ :: _, [] => keepsStore_pure _
  | _ :: ps, v :: vs =>
    (keepsStore_eval_quoteOf fuel env v).bind fun _ => (keepsStore_keyBinding _ _).bind fun _ =>
      (keepsStore_bindArgs_quoted env ps vs).bind fun _ => keepsStore_pure _

theorem bindArgs_quoted (env : FrameId) : ∀ (names : List String) (vs : List Value),
    names.length = vs.length →
      bindArgs (eval (fuel + 1)) env ((names.map .sym).zip (vs.map quoteOf)) =
        pure (names.zip vs)
  | [], [], _ => rfl
  | n :: names, v :: vs, h => by
    have ih := bindArgs_quoted env names vs (Nat.succ.inj h)
    simp only [List.map_cons, List.zip_cons_cons, bindArgs, eval_quoteOf, ih, keyBinding,
      pure_bind, List.singleton_append]

end Quoted

theorem apply_env {ev : Evaluator} {e₁ e₂ frame : FrameId} {params body : Value}
    {args : List Value}
    (h : ∀ names : List Value, bindArgs ev e₁ (names.zip args) = bindArgs ev e₂ (names.zip args)) :
    apply ev e₁ frame params body args = apply ev e₂ frame params body args := by
  simp only [apply, h]

/-- A call of a closure on quoted values gives the same value or failure, and the same store,
from every frame. It leaves every frame that was there as it was, and, given enough fuel and as
many values as parameters, it is the run of the closure's body in a new frame that holds the
parameters, the last of a name first, in front of the closure's bindings at the call. -/
theorem eval_closure_call_lexical (fuel serial : Nat) (frame : FrameId) (names : List String)
    (body : Value) (vs : List Value) (e₁ e₂ : FrameId) (st : Store) :
    let call := Value.list (.closure serial frame (.list (names.map .sym)) body :: vs.map quoteOf)
    eval fuel e₁ call st = eval fuel e₂ call st ∧
      (∀ f < st.frames.size, (storeOf (eval fuel e₁ call st)).bindings f = st.bindings f) ∧
      (names.length = vs.length →
        eval (fuel + 2) e₁ call st = eval (fuel + 1) st.frames.size body
          { st with frames := st.frames.push ((names.zip vs).reverse ++ st.bindings frame) }) := by
  intro call
  refine ⟨?_, ?_, ?_⟩
  · cases fuel with
    | zero => rfl
    | succ fuel =>
      rw [eval_closure, eval_closure,
        apply_env fun ps => bindArgs_quoted_env fuel e₁ e₂ ps vs]
  · intro f hf
    cases fuel with
    | zero => rfl
    | succ fuel =>
      rw [eval_closure]
      have hcall : Store.Steps (st.Local st.frames.size) st (storeOf
          (apply (eval fuel) e₁ frame (.list (names.map .sym)) body (vs.map quoteOf) st)) :=
        confined_apply_of (eval_confined fuel)
          (fun ps => (keepsStore_bindArgs_quoted fuel e₁ ps vs).confined) st
      exact hcall.grows.bindings_eq hf fun h => Or.elim h (Nat.ne_of_lt hf) (Nat.not_le.2 hf)
  · intro hlen
    have hne : ¬(names.map Value.sym).length ≠ (vs.map quoteOf).length := by
      simp [hlen]
    rw [eval_closure, apply]
    simp only [Value.elements?, if_neg hne]
    rw [bindArgs_quoted fuel e₁ names vs hlen, pure_bind, bind_apply, extend_apply]

/-- A one-parameter closure over the first frame, called with `1` from a frame of its own. -/
theorem eval_closure_call_lexical_one :
    eval 2 1 (.list [.closure 0 0 (.list [.sym "x"]) (.sym "x"), quoteOf (.int 1)])
        ⟨#[[], []], 0⟩ =
      eval 1 2 (.sym "x") ⟨#[[], [], [("x", .int 1)]], 0⟩ :=
  (eval_closure_call_lexical 0 0 0 ["x"] (.sym "x") [.int 1] 1 0 ⟨#[[], []], 0⟩).2.2 rfl

end Eval

end TinyLisp
