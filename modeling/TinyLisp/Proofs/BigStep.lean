import TinyLisp.Proofs.FuelMonotone
import TinyLisp.Proofs.Arithmetic

/-!
# Evaluation with enough fuel

`Evaluates` forgets the fuel of a run that returns, and the rules below give its big-step
semantics, one per form.
-/

namespace TinyLisp

namespace Eval

/-- With enough fuel, `e` evaluated in frame `env` from `st` returns `v` and leaves `st'`. -/
def Evaluates (env : FrameId) (e : Value) (st : Store) (v : Value) (st' : Store) : Prop :=
  ∃ fuel, eval fuel env e st = .ok v st'

def EvaluatesAll (env : FrameId) (es : List Value) (st : Store) (vs : List Value) (st' : Store) :
    Prop :=
  ∃ fuel, es.mapM (eval fuel env) st = .ok vs st'

/-- The call of `c` on the values `vs`, each quoted so that it evaluates to itself. -/
def callOf (c : Value) (vs : List Value) : Value := .list (c :: vs.map quoteOf)

variable {env : FrameId} {st st' st₁ st₂ st₃ : Store}

section Monad

variable {α β : Type} {x : Eval α} {f : α → Eval β}

theorem bind_of_ok {a : α} (h : x st = .ok a st₁) : (x >>= f) st = f a st₁ := by
  rw [bind_apply, h]

theorem bind_eq_ok {b : β} (h : (x >>= f) st = .ok b st₂) :
    ∃ a st₁, x st = .ok a st₁ ∧ f a st₁ = .ok b st₂ := by
  rw [bind_apply] at h
  cases hx : x st with
  | ok a st₁ =>
    rw [hx] at h
    exact ⟨a, st₁, rfl, h⟩
  | error e st₁ =>
    rw [hx] at h
    cases h

theorem mapM_cons_ok {g : Value → Eval Value} {e : Value} {es vs : List Value}
    (h : (e :: es).mapM g st = .ok vs st₂) :
    ∃ w st₁ ws, g e st = .ok w st₁ ∧ es.mapM g st₁ = .ok ws st₂ ∧ vs = w :: ws := by
  rw [List.mapM_cons] at h
  obtain ⟨w, st₁, he, h⟩ := bind_eq_ok h
  obtain ⟨ws, st₃, hes, h⟩ := bind_eq_ok h
  cases h
  exact ⟨w, st₁, ws, he, hes, rfl⟩

theorem keyBinding_cases (key v : Value) :
    (∃ kv, keyBinding key v = pure kv) ∨ ∃ e, keyBinding key v = throw e := by
  cases key with
  | list _ | str _ => exact .inr ⟨_, rfl⟩
  | _ => exact .inl ⟨_, rfl⟩

end Monad

section Fuel

theorem moreFuel_mapM {n m : Nat} (h : n ≤ m) (env : FrameId) :
    ∀ es : List Value, MoreFuel (es.mapM (eval n env)) (es.mapM (eval m env)) := by
  intro es
  induction es with
  | nil => exact .refl _
  | cons e es ih =>
    rw [List.mapM_cons, List.mapM_cons]
    exact (eval_moreFuel h env e).bind fun _ => ih.bind fun _ => .refl _

theorem Evaluates.eventually {e v : Value} (h : Evaluates env e st v st') :
    ∃ N, ∀ n, N ≤ n → eval n env e st = .ok v st' := by
  obtain ⟨N, hN⟩ := h
  refine ⟨N, fun n hn => ?_⟩
  rw [eval_fuel_mono hn (by rw [hN]; exact id), hN]

theorem EvaluatesAll.eventually {es vs : List Value} (h : EvaluatesAll env es st vs st') :
    ∃ N, ∀ n, N ≤ n → es.mapM (eval n env) st = .ok vs st' := by
  obtain ⟨N, hN⟩ := h
  refine ⟨N, fun n hn => ?_⟩
  rw [(moreFuel_mapM hn env es).eq (by rw [hN]; exact id), hN]

theorem eq_outOfFuel_of_error {α : Type} {f : Fault} {st : Store}
    (h : OutOfFuel (EStateM.Result.error f st : EStateM.Result Fault Store α)) : f = .outOfFuel := by
  cases f <;> simp_all [OutOfFuel]

/-- A run that fails for any reason but fuel shows that the program evaluates to nothing, with
any fuel. -/
theorem not_evaluates_of_error {fuel : Nat} {e : Value} {f : Fault}
    (h : eval fuel env e st = .error f st₁) (hf : f ≠ .outOfFuel) (v : Value) :
    ¬Evaluates env e st v st' := by
  rintro ⟨n, hn⟩
  have hout : ¬OutOfFuel (eval fuel env e st) := by
    rw [h]
    exact fun hc => hf (eq_outOfFuel_of_error hc)
  -- neither run runs out of fuel, so whichever has less ends as the other does
  have hsame : eval n env e st = eval fuel env e st := by
    rcases Nat.le_total n fuel with hle | hle
    · exact (eval_fuel_mono hle (by rw [hn]; exact id)).symm
    · exact eval_fuel_mono hle hout
  rw [h, hn] at hsame
  cases hsame

end Fuel

section Forms

variable (fuel : Nat) (env : FrameId)

theorem eval_ifForm (c a b : Value) :
    eval (fuel + 1) env (.list [.sym "if", c, a, b]) =
      (eval fuel env c >>= fun t => if t.truthy then eval fuel env a else eval fuel env b) := by
  show evalList (eval fuel) env (.sym "if") [c, a, b] = _
  rw [evalList]
  rfl

theorem eval_consForm (a b : Value) :
    eval (fuel + 1) env (.list [.sym "cons", a, b]) =
      (eval fuel env a >>= fun x => eval fuel env b >>= fun y => consOf x y) := by
  show evalList (eval fuel) env (.sym "cons") [a, b] = _
  rw [evalList]
  rfl

theorem eval_headForm (a : Value) :
    eval (fuel + 1) env (.list [.sym "head", a]) = (eval fuel env a >>= headOf) := by
  show evalList (eval fuel) env (.sym "head") [a] = _
  rw [evalList]
  rfl

theorem eval_tailForm (a : Value) :
    eval (fuel + 1) env (.list [.sym "tail", a]) = (eval fuel env a >>= tailOf) := by
  show evalList (eval fuel) env (.sym "tail") [a] = _
  rw [evalList]
  rfl

theorem eval_emptyForm (a : Value) :
    eval (fuel + 1) env (.list [.sym "empty", a]) = (eval fuel env a >>= emptyOf) := by
  show evalList (eval fuel) env (.sym "empty") [a] = _
  rw [evalList]
  rfl

end Forms

/-! ## The rules -/

section Rules

variable {a b c e x y v : Value}

theorem Evaluates.bool (bv : Bool) : Evaluates env (.bool bv) st (.bool bv) st := ⟨1, rfl⟩

theorem Evaluates.int (n : Int) : Evaluates env (.int n) st (.int n) st := ⟨1, rfl⟩

theorem Evaluates.str (d : Datum) : Evaluates env (.str d) st (.str d) st := ⟨1, rfl⟩

theorem Evaluates.quote (v : Value) : Evaluates env (quoteOf v) st v st := ⟨1, rfl⟩

theorem Evaluates.lookup {name : String} (h : st.lookup env name = some v) :
    Evaluates env (.sym name) st v st :=
  ⟨1, by rw [eval, lookup_apply, h]⟩

theorem Evaluates.ite {t : Value} (hc : Evaluates env c st t st₁)
    (hb : Evaluates env (if t.truthy then a else b) st₁ v st₂) :
    Evaluates env (.list [.sym "if", c, a, b]) st v st₂ := by
  obtain ⟨N₁, h₁⟩ := hc.eventually
  obtain ⟨N₂, h₂⟩ := hb.eventually
  refine ⟨max N₁ N₂ + 1, ?_⟩
  rw [eval_ifForm, bind_of_ok (h₁ _ (Nat.le_max_left _ _))]
  have h₂ := h₂ _ (Nat.le_max_right N₁ N₂)
  split at h₂ <;> simp only [*, if_true, if_false, Bool.false_eq_true]

theorem Evaluates.ite_true {t : Value} (hc : Evaluates env c st t st₁) (ht : t.truthy = true)
    (ha : Evaluates env a st₁ v st₂) : Evaluates env (.list [.sym "if", c, a, b]) st v st₂ :=
  .ite hc (by rw [if_pos ht]; exact ha)

theorem Evaluates.ite_false {t : Value} (hc : Evaluates env c st t st₁) (ht : t.truthy = false)
    (hb : Evaluates env b st₁ v st₂) : Evaluates env (.list [.sym "if", c, a, b]) st v st₂ :=
  .ite hc (by rw [if_neg (by rw [ht]; exact Bool.false_ne_true)]; exact hb)

theorem Evaluates.unary {name : String} {op : Value → Eval Value}
    (hform : ∀ fuel, eval (fuel + 1) env (.list [.sym name, a]) = (eval fuel env a >>= op))
    (ha : Evaluates env a st x st₁) (hop : op x st₁ = .ok v st₂) :
    Evaluates env (.list [.sym name, a]) st v st₂ := by
  obtain ⟨N, hN⟩ := ha
  refine ⟨N + 1, ?_⟩
  rw [hform, bind_of_ok hN, hop]

theorem Evaluates.head {xs : List Value} (ha : Evaluates env a st (.list (x :: xs)) st₁) :
    Evaluates env (.list [.sym "head", a]) st x st₁ :=
  .unary (eval_headForm · env a) ha rfl

theorem Evaluates.tail {xs : List Value} (ha : Evaluates env a st (.list (x :: xs)) st₁) :
    Evaluates env (.list [.sym "tail", a]) st (.list xs) st₁ :=
  .unary (eval_tailForm · env a) ha rfl

theorem Evaluates.empty {xs : List Value} (ha : Evaluates env a st (.list xs) st₁) :
    Evaluates env (.list [.sym "empty", a]) st (.bool xs.isEmpty) st₁ :=
  .unary (eval_emptyForm · env a) ha rfl

theorem Evaluates.cons {xs : List Value} (ha : Evaluates env a st x st₁)
    (hb : Evaluates env b st₁ (.list xs) st₂) :
    Evaluates env (.list [.sym "cons", a, b]) st (.list (x :: xs)) st₂ := by
  obtain ⟨N₁, h₁⟩ := ha.eventually
  obtain ⟨N₂, h₂⟩ := hb.eventually
  refine ⟨max N₁ N₂ + 1, ?_⟩
  rw [eval_consForm, bind_of_ok (h₁ _ (Nat.le_max_left _ _)),
    bind_of_ok (h₂ _ (Nat.le_max_right _ _))]
  rfl

theorem Evaluates.arith {name : String} {m n : Int} (h : arithOps.contains name)
    (ha : Evaluates env a st (.int m) st₁) (hb : Evaluates env b st₁ (.int n) st₂)
    (hr : arith name m n st₂ = .ok v st₃) :
    Evaluates env (.list [.sym name, a, b]) st v st₃ := by
  obtain ⟨N₁, h₁⟩ := ha.eventually
  obtain ⟨N₂, h₂⟩ := hb.eventually
  refine ⟨max N₁ N₂ + 1, ?_⟩
  rw [eval_arithOp h (h₁ _ (Nat.le_max_left _ _)) (h₂ _ (Nat.le_max_right _ _)), hr]

theorem Evaluates.add {m n : Int} (ha : Evaluates env a st (.int m) st₁)
    (hb : Evaluates env b st₁ (.int n) st₂) (hm : Decimal.hasText m = true)
    (hn : Decimal.hasText n = true) :
    Evaluates env (.list [.sym "+", a, b]) st (.int (m + n)) st₂ :=
  .arith (by decide) ha hb (by rw [arith_of_hasText hm hn]; rfl)

theorem Evaluates.greater {m n : Int} (ha : Evaluates env a st (.int m) st₁)
    (hb : Evaluates env b st₁ (.int n) st₂) (hm : Decimal.hasText m = true)
    (hn : Decimal.hasText n = true) :
    Evaluates env (.list [.sym ">", a, b]) st (.bool (decide (n < m))) st₂ :=
  .arith (by decide) ha hb (by rw [arith_of_hasText hm hn]; rfl)

theorem EvaluatesAll.nil : EvaluatesAll env [] st [] st := ⟨0, rfl⟩

theorem EvaluatesAll.cons {es vs : List Value} (he : Evaluates env e st v st₁)
    (hes : EvaluatesAll env es st₁ vs st₂) : EvaluatesAll env (e :: es) st (v :: vs) st₂ := by
  obtain ⟨N₁, h₁⟩ := he.eventually
  obtain ⟨N₂, h₂⟩ := hes.eventually
  refine ⟨max N₁ N₂, ?_⟩
  rw [List.mapM_cons, bind_of_ok (h₁ _ (Nat.le_max_left _ _)),
    bind_of_ok (h₂ _ (Nat.le_max_right _ _))]
  rfl

theorem EvaluatesAll.quoted (vs : List Value) : EvaluatesAll env (vs.map quoteOf) st vs st := by
  induction vs with
  | nil => exact .nil
  | cons v vs ih => exact .cons (.quote v) ih

end Rules

/-! ## Calls -/

section Calls

theorem mapM_length {es vs : List Value} {fuel : Nat} :
    es.mapM (eval fuel env) st = .ok vs st₁ → vs.length = es.length := by
  induction es generalizing st vs with
  | nil =>
    intro h
    cases h
    rfl
  | cons e es ih =>
    intro h
    obtain ⟨w, st', ws, -, hes, rfl⟩ := mapM_cons_ok h
    rw [List.length_cons, List.length_cons, ih hes]

theorem bindArgs_of_quoted {fuel : Nat} {env' : FrameId} :
    ∀ (ps es vs : List Value) (st st₁ st₂ : Store) (kvs : List (String × Value)),
      ps.length = es.length → es.mapM (eval (fuel + 1) env) st = .ok vs st₁ →
      bindArgs (eval (fuel + 1)) env' (ps.zip (vs.map quoteOf)) st₁ = .ok kvs st₂ →
      bindArgs (eval (fuel + 1)) env (ps.zip es) st = .ok kvs st₂
  | [], [], vs, st, st₁, st₂, kvs, _, hes, hq => by
    cases hes
    exact hq
  | p :: ps, e :: es, vs, st, st₁, st₂, kvs, hlen, hes, hq => by
    obtain ⟨w, st', ws, he, hrest, rfl⟩ := mapM_cons_ok hes
    simp only [List.map_cons, List.zip_cons_cons, bindArgs, eval_quoteOf, pure_bind] at hq ⊢
    rw [bind_of_ok he]
    obtain ⟨kv, hkv⟩ | ⟨f, hkv⟩ := keyBinding_cases p w
    · rw [hkv, pure_bind] at hq ⊢
      obtain ⟨kvs', st₃, hb, hk⟩ := bind_eq_ok hq
      rw [bind_of_ok (bindArgs_of_quoted ps es ws st' st₁ st₃ kvs' (Nat.succ.inj hlen) hrest hb)]
      exact hk
    · rw [hkv] at hq
      cases hq
  | [], _ :: _, _, _, _, _, _, hlen, _, _ | _ :: _, [], _, _, _, _, _, hlen, _, _ => by
    simp at hlen

theorem apply_of_quoted {fuel : Nat} {env' frame : FrameId} {params body v : Value}
    {args vs : List Value} (hargs : args.mapM (eval (fuel + 1) env) st = .ok vs st₁)
    (hq : apply (eval (fuel + 1)) env' frame params body (vs.map quoteOf) st₁ = .ok v st₂) :
    apply (eval (fuel + 1)) env frame params body args st = .ok v st₂ := by
  have hlen := mapM_length hargs
  unfold apply at hq ⊢
  cases hp : params.elements? with
  | none =>
    simp only [hp] at hq
    cases hq
  | some names =>
    simp only [hp, List.length_map, hlen] at hq ⊢
    split at hq
    · cases hq
    · rename_i hn
      rw [if_neg hn]
      obtain ⟨kvs, st₃, hb, hrest⟩ := bind_eq_ok hq
      rw [bind_of_ok (bindArgs_of_quoted names args vs st st₁ st₃ kvs (by omega) hargs hb)]
      exact hrest

/-- A call of a closure that a name is bound to: the arguments are evaluated in order, then the
closure is called on their values. -/
theorem Evaluates.call {name : String} {s : Nat} {frame env' : FrameId} {params body v : Value}
    {args vs : List Value} (hn : name ∉ specialForms)
    (hl : st.lookup env name = some (.closure s frame params body))
    (hargs : EvaluatesAll env args st vs st₁)
    (hcall : Evaluates env' (callOf (.closure s frame params body) vs) st₁ v st₂) :
    Evaluates env (.list (.sym name :: args)) st v st₂ := by
  obtain ⟨N₁, h₁⟩ := hargs.eventually
  obtain ⟨N₂, h₂⟩ := hcall.eventually
  refine ⟨max N₁ N₂ + 2, ?_⟩
  have hq := h₂ (max N₁ N₂ + 2) (by omega)
  rw [callOf, eval_closure] at hq
  rw [(Callee.named hn hl).eval_call]
  exact apply_of_quoted (h₁ _ (by omega)) hq

theorem mapM_quoted (fuel : Nat) (env : FrameId) :
    ∀ vs : List Value, (vs.map quoteOf).mapM (eval (fuel + 1) env) = pure vs := by
  intro vs
  induction vs with
  | nil => rfl
  | cons v vs ih => rw [List.map_cons, List.mapM_cons, eval_quoteOf, pure_bind, ih, pure_bind]

theorem extend_ok (frame : FrameId) (kvs : List (String × Value)) :
    extend frame kvs st = .ok (st.extend frame kvs).2 (st.extend frame kvs).1 := rfl

/-- A closure whose parameters are names, called on as many values: its body runs in a new frame
that copies the closure's own and binds the parameters to the values. -/
theorem Evaluates.callOf_names {s : Nat} {frame : FrameId} {names : List String} {body v : Value}
    {vs : List Value} (hlen : names.length = vs.length)
    (hbody : Evaluates (st.extend frame (names.zip vs)).2 body (st.extend frame (names.zip vs)).1
      v st') :
    Evaluates env (callOf (.closure s frame (.list (names.map .sym)) body) vs) st v st' := by
  obtain ⟨N, hN⟩ := hbody.eventually
  refine ⟨N + 2, ?_⟩
  rw [callOf, eval_closure, apply_names rfl, if_pos (by rw [List.length_map, hlen]),
    mapM_quoted, pure_bind, bind_of_ok (extend_ok frame _), hN _ (Nat.le_succ N)]

theorem Evaluates.callOf_param {s : Nat} {frame : FrameId} (names : List String) {x : String}
    {vs : List Value} {v : Value} (hlen : names.length = vs.length)
    (hx : (names.zip vs).reverse.lookup x = some v) :
    Evaluates env (callOf (.closure s frame (.list (names.map .sym)) (.sym x)) vs) st v
      (st.extend frame (names.zip vs)).1 := by
  refine .callOf_names hlen (.lookup ?_)
  rw [Store.lookup_extend, hx, Option.some_or]

end Calls

/-! ## What a run keeps -/

section Growth

variable {e v : Value}

theorem Evaluates.steps (h : Evaluates env e st v st') : Store.Steps (fun _ => True) st st' := by
  obtain ⟨N, hN⟩ := h
  have hs := eval_confined N env e st
  rw [hN] at hs
  exact hs.mono fun _ _ => trivial

theorem steps_lookup_eq {st st' : Store} (h : Store.Steps (fun _ => True) st st')
    {f : FrameId} {name : String} {w : Value} (hb : st.lookup f name = some w) :
    st'.lookup f name = some w := by
  have hf : f < st.frames.size := by
    by_contra hf
    rw [Store.lookup, Store.bindings, Array.getElem?_eq_none (Nat.le_of_not_lt hf)] at hb
    cases hb
  exact h.grows.lookup_eq hf hb

end Growth


end Eval

end TinyLisp
