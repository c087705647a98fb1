import TinyLisp.Proofs.Matching

/-!
# More fuel does not change a finished run
-/

namespace TinyLisp

namespace Eval

/-- `m₂` ends as `m₁` does from every store from which `m₁` does not run out of fuel. -/
def MoreFuel {α : Type} (m₁ m₂ : Eval α) : Prop := ∀ st, OutOfFuel (m₁ st) ∨ m₂ st = m₁ st

/-- An evaluator that ends as another does on every program, wherever the other has fuel. -/
def EvMoreFuel (ev₁ ev₂ : Evaluator) : Prop := ∀ env a, MoreFuel (ev₁ env a) (ev₂ env a)

section Combinators

variable {α β : Type}

theorem MoreFuel.refl (m : Eval α) : MoreFuel m m := fun _ => .inr rfl

theorem MoreFuel.outOfFuel (m : Eval α) : MoreFuel (throw .outOfFuel) m := fun _ => .inl trivial

theorem MoreFuel.bind {x₁ x₂ : Eval α} {f₁ f₂ : α → Eval β} (hx : MoreFuel x₁ x₂)
    (hf : ∀ a, MoreFuel (f₁ a) (f₂ a)) : MoreFuel (x₁ >>= f₁) (x₂ >>= f₂) := by
  intro st
  rw [bind_apply, bind_apply]
  rcases hx st with hout | heq
  · -- running out of fuel in the first part stops the whole run there
    left
    revert hout
    cases x₁ st with
    | ok => exact False.elim
    | error e => cases e <;> exact id
  · rw [heq]
    cases x₁ st with
    | ok a s => exact hf a s
    | error e s => exact .inr rfl

theorem MoreFuel.ite {c : Prop} [Decidable c] {m₁ m₂ m₁' m₂' : Eval α} (h : MoreFuel m₁ m₂)
    (h' : MoreFuel m₁' m₂') : MoreFuel (if c then m₁ else m₁') (if c then m₂ else m₂') := by
  split
  · exact h
  · exact h'

theorem MoreFuel.bind_right (x : Eval α) {f₁ f₂ : α → Eval β} (hf : ∀ a, MoreFuel (f₁ a) (f₂ a)) :
    MoreFuel (x >>= f₁) (x >>= f₂) :=
  (MoreFuel.refl x).bind hf

theorem MoreFuel.eq {m₁ m₂ : Eval α} (h : MoreFuel m₁ m₂) {st : Store}
    (hn : ¬OutOfFuel (m₁ st)) : m₂ st = m₁ st :=
  (h st).resolve_left hn

end Combinators

section Helpers

variable {ev₁ ev₂ : Evaluator} (hev : EvMoreFuel ev₁ ev₂)
include hev

theorem moreFuel_bindArgs (env : FrameId) :
    ∀ ps : List (Value × Value), MoreFuel (bindArgs ev₁ env ps) (bindArgs ev₂ env ps)
  | [] => .refl _
  | (p, a) :: ps => by
    rw [bindArgs, bindArgs]
    exact (hev env a).bind fun v => .bind_right _ fun _ =>
      (moreFuel_bindArgs env ps).bind fun _ => .refl _

theorem moreFuel_bindLet :
    ∀ (env : FrameId) (bs : List Value), MoreFuel (bindLet ev₁ env bs) (bindLet ev₂ env bs)
  | _, [] => .refl _
  | env, b :: bs => by
    rw [bindLet, bindLet]
    exact .bind_right _ fun p => (hev env p.2).bind fun v => .bind_right _ fun _ =>
      .bind_right _ fun next => moreFuel_bindLet next bs

theorem moreFuel_evalCond (env : FrameId) :
    ∀ cs : List Value, MoreFuel (evalCond ev₁ env cs) (evalCond ev₂ env cs) := by
  intro cs
  induction cs with
  | nil => exact .refl _
  | cons c cs ih =>
    rw [evalCond, evalCond]
    exact .bind_right _ fun p => (hev env p.1).bind fun _ => .ite (hev env p.2) ih

theorem moreFuel_apply (env frame : FrameId) (params body : Value) (args : List Value) :
    MoreFuel (apply ev₁ env frame params body args) (apply ev₂ env frame params body args) := by
  unfold apply
  split
  · exact .refl _
  · exact .ite (.refl _) ((moreFuel_bindArgs hev env _).bind fun _ =>
      .bind_right _ fun inner => hev inner body)

end Helpers

/-! Each form, with two evaluators of which the second ends as the first wherever the first has
fuel. -/

section Forms

variable {ev₁ ev₂ : Evaluator} (hev : EvMoreFuel ev₁ ev₂) (env : FrameId) (args : List Value)
include hev

theorem moreFuel_operands {β : Type} (k : Value → Value → Eval β) :
    MoreFuel (ev₁ env (args.getD 0 default) >>= fun l => ev₁ env (args.getD 1 default) >>= k l)
      (ev₂ env (args.getD 0 default) >>= fun l => ev₂ env (args.getD 1 default) >>= k l) :=
  (hev _ _).bind fun _ => (hev _ _).bind fun _ => .refl _

omit hev in
theorem moreFuel_quoteForm :
    MoreFuel (evalList ev₁ env (.sym "quote") args) (evalList ev₂ env (.sym "quote") args) := by
  rw [evalList, evalList]
  exact .refl _

omit hev in
theorem moreFuel_lambdaForm :
    MoreFuel (evalList ev₁ env (.sym "lambda") args) (evalList ev₂ env (.sym "lambda") args) := by
  rw [evalList, evalList]
  exact .refl _

theorem moreFuel_atomForm :
    MoreFuel (evalList ev₁ env (.sym "atom") args) (evalList ev₂ env (.sym "atom") args) := by
  rw [evalList, evalList]
  exact .bind_right _ fun _ => (hev _ _).bind fun _ => .refl _

theorem moreFuel_eqForm :
    MoreFuel (evalList ev₁ env (.sym "eq") args) (evalList ev₂ env (.sym "eq") args) := by
  rw [evalList, evalList]
  exact .bind_right _ fun _ => moreFuel_operands hev env args _

theorem moreFuel_modForm :
    MoreFuel (evalList ev₁ env (.sym "mod") args) (evalList ev₂ env (.sym "mod") args) := by
  rw [evalList, evalList]
  exact .bind_right _ fun _ => moreFuel_operands hev env args _

theorem moreFuel_ifForm :
    MoreFuel (evalList ev₁ env (.sym "if") args) (evalList ev₂ env (.sym "if") args) := by
  rw [evalList, evalList]
  exact .bind_right _ fun _ => (hev _ _).bind fun _ => .ite (hev _ _) (hev _ _)

theorem moreFuel_defineForm :
    MoreFuel (evalList ev₁ env (.sym "define") args) (evalList ev₂ env (.sym "define") args) := by
  rw [evalList, evalList]
  refine .bind_right _ fun _ => ?_
  split
  · exact (hev _ _).bind fun _ => .refl _
  · exact .refl _

theorem moreFuel_letForm :
    MoreFuel (evalList ev₁ env (.sym "let") args) (evalList ev₂ env (.sym "let") args) := by
  rw [evalList, evalList]
  refine .bind_right _ fun _ => ?_
  split
  · exact (moreFuel_bindLet hev env _).bind fun inner => hev inner _
  · exact .refl _

theorem moreFuel_defnForm :
    MoreFuel (evalList ev₁ env (.sym "defn") args) (evalList ev₂ env (.sym "defn") args) := by
  rw [evalList, evalList]
  refine .bind_right _ fun _ => ?_
  split
  · exact (hev _ _).bind fun _ => .refl _
  · exact .refl _

theorem moreFuel_consForm :
    MoreFuel (evalList ev₁ env (.sym "cons") args) (evalList ev₂ env (.sym "cons") args) := by
  rw [evalList, evalList]
  exact .bind_right _ fun _ => moreFuel_operands hev env args _

theorem moreFuel_headForm :
    MoreFuel (evalList ev₁ env (.sym "head") args) (evalList ev₂ env (.sym "head") args) := by
  rw [evalList, evalList]
  exact .bind_right _ fun _ => (hev _ _).bind fun _ => .refl _

theorem moreFuel_tailForm :
    MoreFuel (evalList ev₁ env (.sym "tail") args) (evalList ev₂ env (.sym "tail") args) := by
  rw [evalList, evalList]
  exact .bind_right _ fun _ => (hev _ _).bind fun _ => .refl _

theorem moreFuel_emptyForm :
    MoreFuel (evalList ev₁ env (.sym "empty") args) (evalList ev₂ env (.sym "empty") args) := by
  rw [evalList, evalList]
  exact .bind_right _ fun _ => (hev _ _).bind fun _ => .refl _

theorem moreFuel_condForm :
    MoreFuel (evalList ev₁ env (.sym "cond") args) (evalList ev₂ env (.sym "cond") args) := by
  rw [evalList, evalList]
  refine .bind_right _ fun _ => ?_
  split
  · exact moreFuel_evalCond hev env _
  · exact .refl _

theorem moreFuel_arithForm {name : String} (h : arithOps.contains name) :
    MoreFuel (evalList ev₁ env (.sym name) args) (evalList ev₂ env (.sym name) args) := by
  rw [evalList_arith args h, evalList_arith args h]
  exact .bind_right _ fun _ => moreFuel_operands hev env args _

theorem moreFuel_callee (fail : Value → Eval Value) (v : Value) :
    MoreFuel
      (match v with
        | .closure _ frame params body => apply ev₁ env frame params body args
        | v => fail v)
      (match v with
        | .closure _ frame params body => apply ev₂ env frame params body args
        | v => fail v) := by
  cases v with
  | closure _ frame params body => exact moreFuel_apply hev env frame params body args
  | _ => exact .refl _

theorem moreFuel_namedCall {name : String} (hs : name ∉ specialForms) :
    MoreFuel (evalList ev₁ env (.sym name) args) (evalList ev₂ env (.sym name) args) := by
  rw [evalList_sym args hs, evalList_sym args hs]
  exact .bind_right _ fun v => moreFuel_callee hev env args
    (fun _ => throw (.notAFunction name)) v

theorem moreFuel_call (head : Value) :
    MoreFuel
      (do
        match ← ev₁ env head with
        | .closure _ frame params body => apply ev₁ env frame params body args
        | v => failWith .notAFunction v)
      (do
        match ← ev₂ env head with
        | .closure _ frame params body => apply ev₂ env frame params body args
        | v => failWith .notAFunction v) :=
  (hev env head).bind fun v => moreFuel_callee hev env args (failWith .notAFunction) v

end Forms

theorem moreFuel_evalList {ev₁ ev₂ : Evaluator} (hev : EvMoreFuel ev₁ ev₂) (env : FrameId)
    (head : Value) (args : List Value) :
    MoreFuel (evalList ev₁ env head args) (evalList ev₂ env head args) := by
  cases head with
  | sym s =>
    by_cases hs : s ∈ specialForms
    · simp only [specialForms, List.mem_cons, List.not_mem_nil, or_false] at hs
      rcases hs with rfl | rfl | rfl | rfl | rfl | rfl | rfl | rfl | rfl | rfl | rfl | rfl | rfl |
        rfl | rfl | rfl | rfl | rfl | rfl
      exacts [moreFuel_quoteForm env args, moreFuel_atomForm hev env args, moreFuel_eqForm hev env args,
        moreFuel_modForm hev env args, moreFuel_arithForm hev env args (by decide),
        moreFuel_arithForm hev env args (by decide), moreFuel_arithForm hev env args (by decide),
        moreFuel_arithForm hev env args (by decide), moreFuel_arithForm hev env args (by decide),
        moreFuel_ifForm hev env args, moreFuel_defineForm hev env args,
        moreFuel_letForm hev env args, moreFuel_defnForm hev env args,
        moreFuel_lambdaForm env args, moreFuel_consForm hev env args, moreFuel_headForm hev env args,
        moreFuel_tailForm hev env args, moreFuel_emptyForm hev env args,
        moreFuel_condForm hev env args]
    · exact moreFuel_namedCall hev env args hs
  | closure _ frame params body => exact moreFuel_apply hev env frame params body args
  | bool _ | int _ | str _ => exact .refl _
  | float x => exact moreFuel_call hev env args (.float x)
  | list items => exact moreFuel_call hev env args (.list items)

theorem eval_moreFuel : ∀ {fuel₁ fuel₂ : Nat}, fuel₁ ≤ fuel₂ → EvMoreFuel (eval fuel₁) (eval fuel₂)
  | 0, _, _ => fun _ _ => .outOfFuel _
  | fuel₁ + 1, fuel₂ + 1, h => fun env ast => by
    have ih : EvMoreFuel (eval fuel₁) (eval fuel₂) := eval_moreFuel (Nat.le_of_succ_le_succ h)
    cases ast with
    | list items =>
      cases items with
      | nil => exact .refl _
      | cons head args => exact moreFuel_evalList ih env head args
    | _ => exact .refl _
  | _ + 1, 0, h => absurd h (Nat.not_succ_le_zero _)

/-- A run that ends without running out of fuel ends the same way, with the same value or
failure and the same store, with any more fuel. -/
theorem eval_fuel_mono {fuel₁ fuel₂ : Nat} (h : fuel₁ ≤ fuel₂) {env : FrameId} {ast : Value}
    {st : Store} (hn : ¬OutOfFuel (eval fuel₁ env ast st)) :
    eval fuel₂ env ast st = eval fuel₁ env ast st :=
  (eval_moreFuel h env ast).eq hn

end Eval

end TinyLisp
