import TinyLisp.Proofs.Matching

/-!
# `let` as nested calls
-/

namespace TinyLisp

namespace Eval

def letBinding (b : String × Value) : Value := .list [.sym b.1, b.2]

/-- `(let ((x₁ e₁) … (xₙ eₙ)) body)`. -/
def letForm (bs : List (String × Value)) (body : Value) : Value :=
  .list [.sym "let", .list (bs.map letBinding), body]

/-- `((lambda (x₁) ((lambda (x₂) … ((lambda (xₙ) body) eₙ) …) e₂)) e₁)`, one call of a lambda of
one parameter for each binding, the body innermost. -/
def callNest : List (String × Value) → Value → Value
  | [], body => body
  | (x, e) :: bs, body => .list [.list [.sym "lambda", .list [.sym x], callNest bs body], e]

/-- The calls a `let` stands for: `callNest`, and the call `((lambda () body))` of a lambda with
no parameters when there is no binding. -/
def lambdaNest : List (String × Value) → Value → Value
  | [], body => .list [.list [.sym "lambda", .list [], body]]
  | b :: bs, body => callNest (b :: bs) body

/-- What a `let` does once its form is checked: its bindings, then its body in the frame they
give. -/
def letRun (ev : Evaluator) (env : FrameId) (bs : List (String × Value)) (body : Value) :
    Eval Value :=
  bindLet ev env (bs.map letBinding) >>= fun g => ev g body

theorem eval_letForm (fuel : Nat) (env : FrameId) (bs : List (String × Value)) (body : Value) :
    eval (fuel + 1) env (letForm bs body) = letRun (eval fuel) env bs body := by
  show evalList (eval fuel) env (.sym "let") [.list (bs.map letBinding), body] = _
  rw [evalList]
  rfl

theorem bindLet_letBinding (ev : Evaluator) (env : FrameId) (x : String) (e : Value)
    (bs : List Value) :
    bindLet ev env (letBinding (x, e) :: bs) =
      (ev env e >>= fun v => extend env [(x, v)] >>= fun next => bindLet ev next bs) := by
  rw [bindLet]
  rfl

theorem letRun_nil (ev : Evaluator) (env : FrameId) (body : Value) :
    letRun ev env [] body = ev env body :=
  rfl

theorem letRun_cons (ev : Evaluator) (env : FrameId) (x : String) (e : Value)
    (bs : List (String × Value)) (body : Value) :
    letRun ev env ((x, e) :: bs) body =
      (ev env e >>= fun v => extend env [(x, v)] >>= fun next => letRun ev next bs body) := by
  simp only [letRun, List.map_cons, bindLet_letBinding, bind_assoc]

theorem eval_callNest_cons (fuel : Nat) (env : FrameId) (x : String) (e : Value)
    (bs : List (String × Value)) (body : Value) :
    eval (fuel + 2) env (callNest ((x, e) :: bs) body) =
      (makeClosure env [.sym x] (callNest bs body) >>= fun _ =>
        eval (fuel + 1) env e >>= fun v =>
          extend env [(x, v)] >>= fun f => eval (fuel + 1) f (callNest bs body)) := by
  have hcall : eval (fuel + 2) env (callNest ((x, e) :: bs) body) =
      (makeClosure env [.sym x] (callNest bs body) >>= fun _ =>
        apply (eval (fuel + 1)) env env (.list [.sym x]) (callNest bs body) [e]) := by
    show evalList (eval (fuel + 1)) env (.list _) [e] = _
    rw [evalList_list]
    rfl
  rw [hcall, apply_names (show (Value.list [.sym x]).elements? = some ([x].map .sym) from rfl),
    if_pos (show [x].length = [e].length from rfl)]
  simp only [List.mapM_cons, List.mapM_nil, bind_assoc, pure_bind, List.zip_cons_cons,
    List.zip_nil_left]

theorem eval_letForm_nil (fuel : Nat) (env : FrameId) (body : Value) :
    eval (fuel + 1) env (letForm [] body) = eval fuel env body :=
  eval_letForm fuel env [] body

section Simulation

variable {ρ : Pairing} {body : Value}

theorem matched_letRun_callNest (hb : Value.Alike ρ body body) :
    ∀ (bs : List (String × Value)), (∀ p ∈ bs, Value.Alike ρ p.2 p.2) →
      ∀ (env : FrameId) {G F : Nat}, G + bs.length ≤ F →
        Matched ρ Value.Alike (letRun (eval G) env bs body) (eval F env (callNest bs body))
  | [], _, env, _, _, h => eval_matched (by simpa using h) ρ env body body hb
  | (_, _) :: _, _, _, 0, _, _ => Matched.outOfFuel _
  | (x, e) :: bs, hbs, env, G + 1, F, h => by
    rw [List.length_cons] at h
    obtain ⟨F, rfl⟩ : ∃ F', F = F' + 2 := ⟨F - 2, by omega⟩
    rw [letRun_cons, eval_callNest_cons]
    refine Matched.makeClosure_right ?_ _ _ _
    have he : Value.Alike ρ e e := hbs (x, e) List.mem_cons_self
    refine (eval_matched (by omega) ρ env e e he).bind fun ρ₁ h₁ v w hvw => ?_
    have hkv : Store.BindingsAlike ρ₁ [(x, v)] [(x, w)] := .cons ⟨rfl, hvw⟩ .nil
    refine (matched_extend env hkv).bind fun ρ₂ h₂ g g' hg => ?_
    cases hg
    exact (matched_letRun_callNest hb bs (fun p hp => hbs p (List.mem_cons_of_mem _ hp)) g
      (by omega)).mono (le_trans h₁ h₂)

theorem matched_callNest_letRun (hb : Value.Alike ρ body body) :
    ∀ (bs : List (String × Value)), (∀ p ∈ bs, Value.Alike ρ p.2 p.2) →
      ∀ (env : FrameId) {F G : Nat}, F ≤ G + 1 → (bs = [] → F ≤ G) →
        Matched ρ Value.Alike (eval F env (callNest bs body)) (letRun (eval G) env bs body)
  | [], _, env, _, _, _, h => eval_matched (h rfl) ρ env body body hb
  | (_, _) :: _, _, _, 0, _, _, _ => Matched.outOfFuel _
  -- the lambda at the head of the call needs a level of its own
  | (_, _) :: _, _, _, 1, _, _, _ => Matched.outOfFuel _
  | (x, e) :: bs, hbs, env, F + 2, G, h, _ => by
    rw [letRun_cons, eval_callNest_cons]
    refine Matched.makeClosure_left ?_ _ _ _
    have he : Value.Alike ρ e e := hbs (x, e) List.mem_cons_self
    refine (eval_matched (by omega) ρ env e e he).bind fun ρ₁ h₁ v w hvw => ?_
    have hkv : Store.BindingsAlike ρ₁ [(x, v)] [(x, w)] := .cons ⟨rfl, hvw⟩ .nil
    refine (matched_extend env hkv).bind fun ρ₂ h₂ g g' hg => ?_
    cases hg
    exact (matched_callNest_letRun hb bs (fun p hp => hbs p (List.mem_cons_of_mem _ hp)) g
      (by omega) (fun _ => by omega)).mono (le_trans h₁ h₂)

end Simulation

theorem bindLet_letBinding_new {ev : Evaluator} (hev : ∀ g a, Confined g (ev g a))
    {env g : FrameId} {x : String} {e : Value} {bs : List Value} {st st₁ : Store}
    (h : bindLet ev env (letBinding (x, e) :: bs) st = .ok g st₁) : st.frames.size ≤ g := by
  have hr : ReturnsLocal st.frames.size (bindLet ev env (letBinding (x, e) :: bs)) := by
    rw [bindLet_letBinding]
    exact ReturnsLocal.bind_of fun _ _ s hv g' st' h' =>
      Store.Local.of_le ((hev env e).size_le hv)
        (ReturnsLocal.bind_frame (confined_extend env _) (returnsLocal_extend env _)
          (fun _ => (confined_bindLet hev _).2) s g' st' h')
  rcases hr st g st₁ h with rfl | hle
  · exact Nat.le_refl _
  · exact hle

/-- `let` with bindings is the nest of calls they stand for. From a store whose closures have
serials below its count of closures, with bindings and body whose closures do too: a run of the
`let` that does not run out of fuel is matched by a run of the calls with as many levels more as
there are bindings, and a run of the calls that does not run out of fuel by a run of the `let`
with as much fuel. Matched runs both return alike values, or both fail with the same fault, and
leave alike stores: every frame has the same names bound to values alike but for the serials of
closures, the frames there before among them.

The bindings end in a frame they made, where the body runs, and the body's run changes no frame
that was there before the `let`, the frame of the `let` among them. With no binding, the `let` is
its body, evaluated in the frame of the `let` itself. -/
theorem eval_let_lambdaNest (st : Store) (hst : st.SerialsBelow) (env : FrameId)
    (bs : List (String × Value)) (body : Value)
    (hbs : ∀ p ∈ bs, Value.SerialsBelow st.closures p.2)
    (hb : Value.SerialsBelow st.closures body) :
    (bs ≠ [] → ∀ G F, G + bs.length ≤ F →
      Matches Value.Alike (Pairing.below st.closures) (eval (G + 1) env (letForm bs body) st)
        (eval F env (lambdaNest bs body) st)) ∧
    (bs ≠ [] → ∀ F G, F ≤ G + 1 →
      Matches Value.Alike (Pairing.below st.closures) (eval F env (lambdaNest bs body) st)
        (eval (G + 1) env (letForm bs body) st)) ∧
    (bs ≠ [] → ∀ G g st₁, bindLet (eval G) env (bs.map letBinding) st = .ok g st₁ →
      st.frames.size ≤ g ∧ eval (G + 1) env (letForm bs body) st = eval G g body st₁ ∧
        ∀ f < st.frames.size, (storeOf (eval G g body st₁)).bindings f = st₁.bindings f) ∧
    (∀ G, eval (G + 1) env (letForm [] body) = eval G env body) := by
  refine ⟨fun hne G F hF => ?_, fun hne F G hF => ?_, fun hne G g st₁ h => ?_,
    fun G => eval_letForm_nil G env body⟩
  · obtain ⟨⟨x, e⟩, rest, rfl⟩ := List.exists_cons_of_ne_nil hne
    rw [eval_letForm]
    exact matched_letRun_callNest hb _ hbs env hF _ (le_refl (Pairing.below st.closures)) st st hst
  · obtain ⟨⟨x, e⟩, rest, rfl⟩ := List.exists_cons_of_ne_nil hne
    rw [eval_letForm]
    exact matched_callNest_letRun hb _ hbs env hF (fun h => absurd h hne) _
      (le_refl (Pairing.below st.closures)) st st hst
  · obtain ⟨⟨x, e⟩, rest, rfl⟩ := List.exists_cons_of_ne_nil hne
    have hnew : st.frames.size ≤ g := bindLet_letBinding_new (eval_confined G) h
    have hsize : st.frames.size ≤ st₁.frames.size := (confined_bindLet (eval_confined G) _).1.size_le h
    refine ⟨hnew, ?_, fun f hf => ?_⟩
    · rw [eval_letForm, letRun, bind_apply, h]
    · -- the body binds only in its own frame and in frames it makes
      exact (eval_confined G g body st₁).grows.of_local.bindings_eq (Nat.lt_of_lt_of_le hf hsize)
        (Nat.ne_of_lt (Nat.lt_of_lt_of_le hf hnew))

/-- `(let ((x 1)) x)` and `((lambda (x) x) 1)` from the empty store. -/
theorem eval_let_lambdaNest_one :
    Matches Value.Alike (Pairing.below 0) (eval 2 0 (letForm [("x", .int 1)] (.sym "x")) Store.initial)
      (eval 2 0 (lambdaNest [("x", .int 1)] (.sym "x")) Store.initial) :=
  (eval_let_lambdaNest Store.initial Store.serialsBelow_initial 0 [("x", .int 1)] (.sym "x")
    (fun p hp => by rw [List.mem_singleton] at hp; subst hp; exact .int 1) (.sym "x")).1
    (List.cons_ne_nil _ _) 1 2 (by decide)

/-- With no binding the `let` and the call differ: `(let () (define x 1))` leaves `x` bound in the
frame of the `let`, and `((lambda () (define x 1)))` does not. -/
theorem let_nil_define_stays :
    (storeOf (eval 3 0 (letForm [] (.list [.sym "define", .sym "x", .int 1])) Store.initial)).lookup
        0 "x" = some (.int 1) ∧
      (storeOf (eval 3 0 (lambdaNest [] (.list [.sym "define", .sym "x", .int 1]))
        Store.initial)).lookup 0 "x" = none :=
  ⟨rfl, rfl⟩

end Eval

end TinyLisp
